import ContainerLint.CommandLine.Arguments
import ContainerLint.CommandLine.Failure
import ContainerLint.CommandLine.Report
import ContainerLint.Docker.Runtime
import ContainerLint.Settings.Data
import ContainerLint.Toml.Reader
import ContainerLint.Version

/-!
# Running commands

`Request.perform` does what the command line asks for, with files, variables and programs as its
`Surroundings` give them. A command ends with 1 if an error was found, with 2 if it failed, and
with 0 otherwise.
-/

namespace ContainerLint.CommandLine

/-- What a command finds around it: files, variables, the standard input, whether a terminal shows
what is printed, and the programs that can be started. -/
structure Surroundings where
  contents : String → Except IoFault (List UInt8)
  isFile : String → Bool
  environment : String → Option String
  input : List UInt8
  onTerminal : Bool
  launch : Launcher

/-- What a command printed, its exit code, and the programs that it asked for. -/
structure Finished where
  exitCode : Nat
  stdout : String
  stderr : String
  asked : List Invocation
deriving DecidableEq, Repr

/-- The name and the version of the program. -/
def versionText : String := "dockerlint " ++ programVersion

/-- The settings file of a project. -/
def projectSettings : String := ".dockerlint.toml"

/-- A path below a folder. -/
def below (folder path : String) : String :=
  if folder.endsWith "/" then folder ++ path else folder ++ "/" ++ path

namespace Surroundings

/-- A variable that is set and not empty. -/
def filled (w : Surroundings) (name : String) : Option String :=
  (w.environment name).filter fun s => s ≠ ""

/-- The folder with the settings of the user. A folder that is given must be an absolute path. -/
def userFolder (w : Surroundings) : Option String :=
  match (w.environment "XDG_CONFIG_HOME").filter fun s => "/".isPrefixOf s with
  | some folder => some folder
  | none => (w.filled "HOME").map fun home => below home ".config"

/-- The settings file of the user. -/
def userSettings (w : Surroundings) : Option String :=
  w.userFolder.map fun folder => below (below folder "dockerlint") "config.toml"

/-- The files in which settings are looked for, the first one first. -/
def settingsFiles (w : Surroundings) : List String := projectSettings :: w.userSettings.toList

/-- The text of bytes. -/
def textOf (bytes : List UInt8) : Except IoFault String :=
  match Utf8.decode? bytes with
  | some text => .ok (String.ofList text)
  | none => .error .invalidUtf8

/-- The text of a file. -/
def readText (w : Surroundings) (path : String) : Except IoFault String := do
  textOf (← w.contents path)

/-- The settings in a file. -/
def settingsIn (w : Surroundings) (path : String) : Except Failure Settings :=
  match w.readText path with
  | .error fault => .error (.unreadableSettings path fault)
  | .ok text =>
    match (Toml.parse? text).map Settings.decode with
    | some (.ok s) => .ok s
    | _ => .error (.malformedSettings path)

/-- The settings of a command: those in the file that is named, or else in the first file that
there is; without any file nothing is set. -/
def settings (w : Surroundings) (named : Option String) : Except Failure Settings :=
  match named <|> w.settingsFiles.find? w.isFile with
  | some path => w.settingsIn path
  | none => .ok .empty

/-- Whether words are set off. This can be forced; otherwise it is done on a terminal, unless the
user wants none of it. -/
def coloured (w : Surroundings) : Bool :=
  if (w.environment "CLICOLOR_FORCE").any (· ≠ "0") then true
  else if (w.environment "NO_COLOR").isSome then false
  else (w.environment "CLICOLOR").all (· ≠ "0") && w.onTerminal

end Surroundings

/-- A fault of settings as a failure. -/
def orBadSettings {α : Type} : Except ConfigFault α → Except Failure α
  | .ok a => .ok a
  | .error fault => .error (.badSettings fault)

/-- The linter that is named, or else the one that the settings choose. -/
def chooseLinter (s : Settings) : Option String → Except Failure Linter
  | some name => orBadSettings (Settings.linterNamed name)
  | none => do
    match ← orBadSettings s.select with
    | some (linter, _) => .ok linter
    | none => .error .noProfile

namespace Surroundings

/-- The report on a source: the diagnostics, and in plain text a summary on the error output. -/
def report (w : Surroundings) (format : ReportFormat) (source : String) (linter : Linter)
    (ds : List Diagnostic) (asked : List Invocation) : Finished :=
  let exitCode := if ds.any Diagnostic.isError then 1 else 0
  match format with
  | .text => ⟨exitCode, renderText w.coloured source ds, summary ds ++ "\n", asked⟩
  | .json => ⟨exitCode, renderJson source linter ds ++ "\n", "", asked⟩

/-- The end of a command that failed. -/
def failed (w : Surroundings) (failure : Failure) (asked : List Invocation) : Finished :=
  ⟨2, "", painted w.coloured .error "error:" ++ " " ++ failure.message ++ "\n", asked⟩

/-- The end of a command when docker reported a fault of its own. -/
def refused (w : Surroundings) (daemonError : String) (asked : List Invocation) : Finished :=
  ⟨2, "", painted w.coloured .error "docker:" ++ " " ++ daemonError ++ "\n", asked⟩

/-- All that is done before docker is needed: the profile to run, and the text to run it on. -/
def prepareCheck (w : Surroundings) (r : CheckRequest) (config : Option String) :
    Except Failure (Profile × String) := do
  let settings ← w.settings config
  let linter ← chooseLinter settings r.profile
  let settings :=
    match r.container with
    | some container => settings.setContainer linter container
    | none => settings
  let profile ← orBadSettings ((settings.profileSettings linter).resolve linter)
  match w.readText r.file with
  | .ok text => .ok (profile, text)
  | .error fault => .error (.unreadableFile r.file fault)

/-- Runs a linter on a file. -/
def check (w : Surroundings) (r : CheckRequest) (config : Option String) : Finished :=
  match w.prepareCheck r config with
  | .error failure => w.failed failure []
  | .ok (profile, text) =>
    let options : DockerOptions := ⟨r.docker, r.machine⟩
    match DockerEnvironment.initial.prepare w.launch options with
    | ((_, .error fault), asked) => w.failed (.dockerUnavailable fault) asked
    | ((docker, .ok ()), asked) =>
      let (result, more) := docker.exec w.launch profile text
      let asked := asked ++ more
      match result with
      | .error fault => w.failed (.runFailed fault) asked
      | .ok outcome =>
        match outcome.daemonError with
        | some message => w.refused message asked
        | none => w.report r.format r.file profile.linter outcome.diagnostics asked

/-- The text to read, with the name of where it comes from. -/
def sourceText (w : Surroundings) : Option String → Except Failure (String × String)
  | some path =>
    match w.readText path with
    | .ok text => .ok (path, text)
    | .error fault => .error (.unreadableFile path fault)
  | none =>
    match textOf w.input with
    | .ok text => .ok ("-", text)
    | .error fault => .error (.unreadableInput fault)

/-- The diagnostics in what a linter printed, with the linter and the name of the source. -/
def parsed (w : Surroundings) (r : ParseRequest) (config : Option String) :
    Except Failure (Linter × String × List Diagnostic) := do
  let settings ← w.settings config
  let linter ← chooseLinter settings r.profile
  let extractor ← orBadSettings ((settings.profileSettings linter).extractor linter)
  let (source, text) ← w.sourceText r.input
  .ok (linter, source, extractor.extract text)

/-- Reads what a linter printed. -/
def parse (w : Surroundings) (r : ParseRequest) (config : Option String) : Finished :=
  match w.parsed r config with
  | .ok (linter, source, ds) => w.report r.format source linter ds []
  | .error failure => w.failed failure []

end Surroundings

/-- The files that a request may read. -/
def Request.files (w : Surroundings) : Request → List String
  | .version => []
  | .run command config =>
    let settings := (config.map fun path => [path]).getD w.settingsFiles
    match command with
    | .check r => settings ++ [r.file]
    | .parse r => settings ++ r.input.toList
    | .profiles => []

/-- Does what is asked for. -/
def Request.perform (w : Surroundings) : Request → Finished
  | .version => ⟨0, versionText ++ "\n", "", []⟩
  | .run (.check r) config => w.check r config
  | .run (.parse r) config => w.parse r config
  | .run .profiles _ => ⟨0, listing w.coloured, "", []⟩

end ContainerLint.CommandLine
