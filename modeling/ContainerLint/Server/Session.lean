import ContainerLint.Server.Message
import ContainerLint.Server.Params
import ContainerLint.Server.Step
import ContainerLint.Version

/-!
# Sessions

A session is a conversation between an editor and the server. It begins with a request by which
docker is prepared; before that was done and after the editor asked for the end, no other request
is served and no notification is heeded. `Session.receive` says what a message asks for.
-/

namespace ContainerLint.Server

/-- How far a session has come. -/
inductive Phase
  | fresh | ready | shutDown | exited
deriving DecidableEq, Repr

/-- A session: how far it has come, and the state of the server. -/
structure Session where
  phase : Phase
  state : State

/-- What a message asks for: nothing more than its answer, a prepared docker, a greeting, or a
step of the server. -/
inductive Intake
  | answered (reply : Option Reply)
  | prepare (id : RequestId) (options : DockerOptions)
  | greet
  | happens (event : Event)

namespace Session

/-- A session before its first message. -/
def initial : Session := ⟨.fresh, .initial⟩

/-- The name of the server. -/
def serverName : String := "dockerlint-lsp"

/-- The line with the version of the server, if the first argument of the program asks for it. -/
def versionWanted? : List String → Option String
  | first :: _ =>
    if first = "-V" ∨ first = "--version" then
      some (serverName ++ " " ++ programVersion ++ "\n")
    else none
  | [] => none

/-- What the server tells about itself when a session begins: it wants to hear of documents that
are opened, changed as a whole, saved and closed. -/
def greetingValue : Value :=
  .obj [("capabilities", .obj [("textDocumentSync",
      .obj [("openClose", .bool true), ("change", .int 1), ("save", .bool true)])]),
    ("serverInfo", .obj [("name", .str serverName), ("version", .str programVersion)])]

/-- What is written to the log when the editor has confirmed the start. -/
def greetingText : String := serverName ++ " initialized"

/-- The notifications that take the server a step further, with how their parameters are read. -/
def events : List (String × (Value → Decoded Event)) :=
  [("textDocument/didOpen", Params.opened), ("textDocument/didChange", Params.changed),
    ("textDocument/didSave", Params.saved), ("textDocument/didClose", Params.closed),
    ("workspace/didChangeConfiguration", Params.configured)]

/-- The notifications that are known and change nothing. -/
def idleNotifications : List String :=
  ["textDocument/willSave", "workspace/didChangeWorkspaceFolders", "workspace/didCreateFiles",
    "workspace/didRenameFiles", "workspace/didDeleteFiles", "workspace/didChangeWatchedFiles"]

/-- The requests that are known and not served. -/
def unservedRequests : List String :=
  ["textDocument/willSaveWaitUntil", "textDocument/declaration", "textDocument/definition",
    "textDocument/typeDefinition", "textDocument/implementation", "textDocument/references",
    "textDocument/prepareCallHierarchy", "callHierarchy/incomingCalls",
    "callHierarchy/outgoingCalls", "textDocument/prepareTypeHierarchy",
    "typeHierarchy/supertypes", "typeHierarchy/subtypes", "textDocument/documentHighlight",
    "textDocument/documentLink", "documentLink/resolve", "textDocument/hover",
    "textDocument/codeLens", "codeLens/resolve", "textDocument/foldingRange",
    "textDocument/selectionRange", "textDocument/documentSymbol",
    "textDocument/semanticTokens/full", "textDocument/semanticTokens/full/delta",
    "textDocument/semanticTokens/range", "textDocument/inlineValue", "textDocument/inlayHint",
    "inlayHint/resolve", "textDocument/moniker", "textDocument/completion",
    "completionItem/resolve", "textDocument/diagnostic", "workspace/diagnostic",
    "textDocument/signatureHelp", "textDocument/codeAction", "codeAction/resolve",
    "textDocument/documentColor", "textDocument/colorPresentation", "textDocument/formatting",
    "textDocument/rangeFormatting", "textDocument/onTypeFormatting", "textDocument/rename",
    "textDocument/prepareRename", "textDocument/linkedEditingRange", "workspace/symbol",
    "workspaceSymbol/resolve", "workspace/willCreateFiles", "workspace/willRenameFiles",
    "workspace/willDeleteFiles", "workspace/executeCommand"]

/-- Answers a message, if it is a request. -/
def answer (m : Message) (result : Except Refusal Value) : Intake :=
  .answered (m.id.map fun id => ⟨id, result⟩)

/-- What a message without parameters is told that needs them. -/
def missingParams : Refusal := .invalidParams "Missing params field"

/-- The refusal of a message that comes too early or too late. -/
def outOfPhase : Phase → Refusal
  | .fresh => .notInitialized
  | _ => .invalidRequest

/-- Takes the request that begins a session. Its options are read before docker is prepared. -/
def receiveStart (m : Message) : Intake :=
  match m.id, m.params with
  | none, _ => .answered none
  | some _, none => answer m (.error missingParams)
  | some id, some params =>
    match Params.start params with
    | .error fault => answer m (.error (.invalidParams fault.message))
    | .ok options =>
      match Params.options options with
      | .error fault =>
        answer m (.error (.invalidParams ("Invalid initialization options: " ++ fault.message)))
      | .ok options => .prepare id options

/-- The session after docker was prepared, with the answer to the request that began it. -/
def prepared (s : Session) (id : RequestId) : Except RuntimeFault Unit → Session × Reply
  | .ok () => ({ s with phase := .ready }, ⟨id, .ok greetingValue⟩)
  | .error fault => (s, ⟨id, .error (.notPrepared fault)⟩)

/-- Takes the request that ends a session. -/
def receiveEnd (m : Message) : Intake :=
  match m.params with
  | none => answer m (.ok .null)
  | some params =>
    answer m (.error (.invalidParams ("Unexpected params: " ++ Json.compact params)))

/-- Takes a notification that is meant to do something; as a request it is not answered. -/
def receiveNotification (m : Message) (read : Value → Decoded Intake) : Intake :=
  match m.id, m.params with
  | none, some params =>
    match read params with
    | .ok intake => intake
    | .error _ => .answered none
  | _, _ => .answered none

/-- Takes a request that is known and not served; as a notification it is not heeded. -/
def receiveUnserved (m : Message) : Intake :=
  match m.params with
  | none => answer m (.error missingParams)
  | some _ => answer m (.error .methodNotServed)

/-- Takes a message that only counts while a session goes on; none if its method is unknown. -/
def receiveReady (m : Message) : Option Intake :=
  match events.lookup m.method with
  | some read => some (receiveNotification m fun v => (read v).map .happens)
  | none =>
    if m.method = "initialized" then
      some (receiveNotification m fun v => (Params.greeting v).map fun _ => .greet)
    else if idleNotifications.contains m.method then some (.answered none)
    else if unservedRequests.contains m.method then some (receiveUnserved m)
    else none

/-- Takes a message of an unknown method. It is told so, unless its name says that it may be
left unheeded. -/
def receiveUnknown (m : Message) : Intake :=
  if "$/".isPrefixOf m.method then .answered none
  else answer m (.error (.methodUnknown m.method))

/-- Takes a message. A session that was left takes none. -/
def receive (s : Session) (m : Message) : Session × Intake :=
  if s.phase = .exited then (s, .answered none)
  else if m.method = "exit" then ({ s with phase := .exited }, .answered none)
  else if m.method = "initialize" then
    if s.phase = .fresh then (s, receiveStart m) else (s, answer m (.error .invalidRequest))
  else if m.method = "shutdown" then
    if s.phase = .ready then ({ s with phase := .shutDown }, receiveEnd m)
    else (s, answer m (.error (outOfPhase s.phase)))
  else
    match receiveReady m with
    | none => (s, receiveUnknown m)
    | some intake =>
      if s.phase = .ready then (s, intake) else (s, answer m (.error (outOfPhase s.phase)))

end Session

end ContainerLint.Server
