import ContainerLint.Docker.Runtime
import ContainerLint.Server.State
import ContainerLint.Server.Uri

/-!
# Parameters of messages

Reads the parameters of the messages that the server understands. What an editor can do is not
looked into, as no capability of an editor changes what the server does.
-/

namespace ContainerLint.Server.Params

/-- Looks at any value without judging it. -/
def any (v : Value) : Decoded Value := .ok v

/-- Reads a version, a number of 32 bits with a sign. -/
def version : Value → Decoded Int
  | .int n =>
    if -2147483648 ≤ n ∧ n ≤ 2147483647 then .ok n
    else .error (.invalidValue (Value.int n).described "i32")
  | v => Decode.wrongType v "i32"

/-- Reads the document that is opened: its name and its text. -/
def item : Value → Decoded (String × String) :=
  Decode.record "TextDocumentItem"
    [("uri", Decode.check Uri.decode), ("languageId", Decode.check Decode.text),
      ("version", Decode.check version), ("text", Decode.check Decode.text)]
    fun fields => do
      let uri ← fields.required 0 "uri" Uri.decode
      let _ ← fields.required 1 "languageId" Decode.text
      let _ ← fields.required 2 "version" version
      let text ← fields.required 3 "text" Decode.text
      .ok (uri, text)

/-- Reads the name of a document. -/
def identifier : Value → Decoded String :=
  Decode.record "TextDocumentIdentifier" [("uri", Decode.check Uri.decode)]
    fun fields => fields.required 0 "uri" Uri.decode

/-- Reads the name of a document that comes with its version. -/
def versionedIdentifier : Value → Decoded String :=
  Decode.record "VersionedTextDocumentIdentifier"
    [("uri", Decode.check Uri.decode), ("version", Decode.check version)]
    fun fields => do
      let uri ← fields.required 0 "uri" Uri.decode
      let _ ← fields.required 1 "version" version
      .ok uri

/-- Reads a place in a document. -/
def position : Value → Decoded EditorPosition :=
  Decode.record "Position"
    [("line", Decode.check Decode.word32), ("character", Decode.check Decode.word32)]
    fun fields => do
      let line ← fields.required 0 "line" Decode.word32
      let character ← fields.required 1 "character" Decode.word32
      .ok ⟨line, character⟩

/-- Reads a range of a document. -/
def range : Value → Decoded (EditorPosition × EditorPosition) :=
  Decode.record "Range"
    [("start", Decode.check position), ("end", Decode.check position)]
    fun fields => do
      let start ← fields.required 0 "start" position
      let stop ← fields.required 1 "end" position
      .ok (start, stop)

/-- Reads a change of a document: the text that it has from then on. -/
def change : Value → Decoded String :=
  Decode.record "TextDocumentContentChangeEvent"
    [("range", Decode.check (Decode.option range)),
      ("rangeLength", Decode.check (Decode.option Decode.word32)),
      ("text", Decode.check Decode.text)]
    fun fields => do
      let _ ← fields.optional 0 "range" range
      let _ ← fields.optional 1 "rangeLength" Decode.word32
      fields.required 2 "text" Decode.text

/-- Reads what opens a document. -/
def opened : Value → Decoded Event :=
  Decode.record "DidOpenTextDocumentParams" [("textDocument", Decode.check item)]
    fun fields => do
      let (uri, text) ← fields.required 0 "textDocument" item
      .ok (.opened uri text)

/-- Reads what changes a document; of several changes the last one counts. -/
def changed : Value → Decoded Event :=
  Decode.record "DidChangeTextDocumentParams"
    [("textDocument", Decode.check versionedIdentifier),
      ("contentChanges", Decode.check (Decode.list change))]
    fun fields => do
      let uri ← fields.required 0 "textDocument" versionedIdentifier
      let changes ← fields.required 1 "contentChanges" (Decode.list change)
      .ok (.changed uri changes.getLast?)

/-- Reads what saves a document. -/
def saved : Value → Decoded Event :=
  Decode.record "DidSaveTextDocumentParams"
    [("textDocument", Decode.check identifier),
      ("text", Decode.check (Decode.option Decode.text))]
    fun fields => do
      let uri ← fields.required 0 "textDocument" identifier
      let text ← fields.optional 1 "text" Decode.text
      .ok (.saved uri text)

/-- Reads what closes a document. -/
def closed : Value → Decoded Event :=
  Decode.record "DidCloseTextDocumentParams" [("textDocument", Decode.check identifier)]
    fun fields => do
      let uri ← fields.required 0 "textDocument" identifier
      .ok (.closed uri)

/-- Reads what replaces the settings. -/
def configured : Value → Decoded Event :=
  Decode.record "DidChangeConfigurationParams" [("settings", Decode.check any)]
    fun fields => do
      let payload ← fields.required 0 "settings" any
      .ok (.configured payload)

/-- Reads the parameters of the first notification after the start, which say nothing. -/
def greeting : Value → Decoded Unit := Decode.record "InitializedParams" [] fun _ => .ok ()

/-- Reads what an editor can do. -/
def capabilities : Value → Decoded Unit :=
  fun
  | .obj _ => .ok ()
  | .arr _ => .ok ()
  | v => Decode.wrongType v "struct ClientCapabilities"

/-- The words for how much of its work a server tells. -/
def traceWords : List String := ["off", "messages", "verbose"]

/-- Reads how much of its work the server is to tell. -/
def trace : Value → Decoded Unit
  | .str s => if traceWords.contains s then .ok () else .error (.unknownVariant s traceWords)
  | v => Decode.wrongType v "string or map"

/-- Reads a folder that is open in the editor. -/
def folder : Value → Decoded Unit :=
  Decode.record "WorkspaceFolder"
    [("uri", Decode.check Uri.decode), ("name", Decode.check Decode.text)]
    fun fields => do
      let _ ← fields.required 0 "uri" Uri.decode
      let _ ← fields.required 1 "name" Decode.text
      .ok ()

/-- Reads who the editor is. -/
def editor : Value → Decoded Unit :=
  Decode.record "ClientInfo"
    [("name", Decode.check Decode.text), ("version", Decode.check (Decode.option Decode.text))]
    fun fields => do
      let _ ← fields.required 0 "name" Decode.text
      let _ ← fields.optional 1 "version" Decode.text
      .ok ()

/-- Reads what starts a session, and gives the options of the server as they came. -/
def start : Value → Decoded Value :=
  Decode.record "InitializeParams"
    [("processId", Decode.check (Decode.option Decode.word32)),
      ("rootPath", Decode.check (Decode.option Decode.text)),
      ("rootUri", Decode.check (Decode.option Uri.decode)),
      ("initializationOptions", Decode.check any),
      ("capabilities", Decode.check capabilities),
      ("trace", Decode.check (Decode.option trace)),
      ("workspaceFolders", Decode.check (Decode.option (Decode.list folder))),
      ("clientInfo", Decode.check (Decode.option editor)),
      ("locale", Decode.check (Decode.option Decode.text))]
    fun fields => do
      let _ ← fields.optional 0 "processId" Decode.word32
      let _ ← fields.optional 1 "rootPath" Decode.text
      let _ ← fields.optional 2 "rootUri" Uri.decode
      let options ← fields.optional 3 "initializationOptions" any
      let _ ← fields.required 4 "capabilities" capabilities
      let _ ← fields.optional 5 "trace" trace
      let _ ← fields.optional 6 "workspaceFolders" (Decode.list folder)
      let _ ← fields.optional 7 "clientInfo" editor
      let _ ← fields.optional 8 "locale" Decode.text
      .ok (options.getD .null)

/-- Reads the options of the server; without any, the default ones hold. -/
def options : Value → Decoded DockerOptions
  | .null => .ok .none
  | v => DockerOptions.decode v

end ContainerLint.Server.Params
