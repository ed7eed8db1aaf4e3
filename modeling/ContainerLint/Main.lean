import ContainerLint.CommandLine.Run
import ContainerLint.Server.DockerHost
import ContainerLint.Server.Wire

/-!
# The program

`main` is the command line, and the language server when the program goes by the name of the
server. All that is decided is decided elsewhere; here files are read, messages are taken from the
standard input, and answers are printed. No other program is started from here: docker is treated
as if it were not installed.
-/

namespace ContainerLint.Program

/-- Starts no program. -/
def launcher : Launcher := fun _ => .error (.refused .notFound)

/-- Why a file was refused. -/
def faultOf : IO.Error → IoFault
  | .permissionDenied .. => .permissionDenied
  | .inappropriateType _ code _ => if code = 21 then .isDirectory else .notDirectory
  | _ => .notFound

/-- Reads a file. -/
def contents (path : String) : IO (Except IoFault (List UInt8)) := do
  try
    let bytes ← IO.FS.readBinFile path
    return .ok bytes.toList
  catch fault => return .error (faultOf fault)

/-- The most bytes that are read at a time. -/
def pieceSize : USize := 65536

/-- Reads a stream to its end. -/
partial def readToEnd (input : IO.FS.Stream) (taken : ByteArray) : IO ByteArray := do
  let piece ← input.read pieceSize
  if piece.isEmpty then return taken else readToEnd input (taken ++ piece)

/-- Reads a number of bytes, or less if the stream ends before. -/
partial def readBytes (input : IO.FS.Stream) (count : Nat) (taken : ByteArray) :
    IO ByteArray := do
  if taken.size < count then
    let piece ← input.read (USize.ofNat (count - taken.size))
    if piece.isEmpty then return taken else readBytes input count (taken ++ piece)
  else return taken

/-- The variables that matter to the command line. -/
def variableNames : List String :=
  ["HOME", "XDG_CONFIG_HOME", "CLICOLOR", "CLICOLOR_FORCE", "NO_COLOR"]

/-- The variables that are set. -/
def variablesSet : IO (List (String × String)) :=
  variableNames.foldlM
    (fun found name => do
      match ← IO.getEnv name with
      | some value => return found ++ [(name, value)]
      | none => return found)
    []

/-- Whether a request reads the standard input. -/
def readsInput : CommandLine.Request → Bool
  | .run (.parse r) _ => r.input.isNone
  | _ => false

/-- What a request finds around it. -/
def surroundings (request : CommandLine.Request) : IO CommandLine.Surroundings := do
  let set ← variablesSet
  let bare : CommandLine.Surroundings :=
    { contents := fun _ => .error .notFound
      isFile := fun _ => false
      environment := fun name => set.lookup name
      input := []
      onTerminal := ← (← IO.getStdout).isTty
      launch := launcher }
  let files ← (request.files bare).mapM fun path => do return (path, ← contents path)
  let input ←
    if readsInput request then readToEnd (← IO.getStdin) .empty else pure .empty
  return { bare with
    contents := fun path => (files.lookup path).getD (.error .notFound)
    isFile := fun path =>
      match files.lookup path with
      | some (.ok _) => true
      | some (.error .permissionDenied) => true
      | _ => false
    input := input.toList }

/-- What is said about arguments that cannot be read. -/
def usage : String :=
  "Usage: dockerlint [-c FILE] [-v] check FILE | parse [FILE] | profiles\n"

/-- The command line. -/
def runCommand (arguments : List String) : IO UInt32 := do
  match CommandLine.Request.ofArguments? arguments with
  | none =>
    (← IO.getStderr).putStr usage
    return 2
  | some request =>
    let done := request.perform (← surroundings request)
    (← IO.getStdout).putStr done.stdout
    (← IO.getStderr).putStr done.stderr
    return UInt32.ofNat done.exitCode

/-- Reads the header of a message, and gives the length that it tells. -/
partial def readHeader (input : IO.FS.Stream) (length : Option Nat) : IO (Option Nat) := do
  let line ← input.getLine
  if line.isEmpty then return none
  else if (trimmed line).isEmpty then return some (length.getD 0)
  else readHeader input (Server.Wire.length? line <|> length)

/-- Takes one message after the other until the editor has left. -/
partial def converse (session : Server.Session) (docker : Server.DockerHost) : IO Unit := do
  let input ← IO.getStdin
  match ← readHeader input none with
  | none => return
  | some length =>
    let body ← readBytes input length .empty
    match Server.Wire.message? body.toList with
    | none => converse session docker
    | some message =>
      let ((session, docker), served) :=
        session.serve (Server.DockerHost.host launcher) docker message
      let output ← IO.getStdout
      for v in served.sent do
        output.putStr (Server.Wire.framed v)
      output.flush
      if session.phase = .exited then return
      else converse session (docker.noting served.effects)

/-- The language server. -/
def runServer (arguments : List String) : IO UInt32 := do
  match Server.Session.versionWanted? arguments with
  | some text => (← IO.getStdout).putStr text
  | none => converse .initial .initial
  return 0

end ContainerLint.Program

/-- The program: the language server if it goes by that name, and else the command line. -/
def main (arguments : List String) : IO UInt32 := do
  let program := toString (← IO.appPath)
  if program.endsWith ContainerLint.Server.Session.serverName then
    ContainerLint.Program.runServer arguments
  else ContainerLint.Program.runCommand arguments
