import ContainerLint.Json.Writer
import ContainerLint.Server.State

/-!
# Messages between editor and server

An editor sends messages, each with a method and parameters. A message with an identifier is a
request and is answered by a `Reply`; one without is a notification. What the server sends by
itself is a `Notice`.
-/

namespace ContainerLint.Server

/-- The name that an editor gives to a request. -/
inductive RequestId
  | number (n : Int)
  | text (s : String)
  | null
deriving DecidableEq, Repr

/-- The name of a request as data. -/
def RequestId.toValue : RequestId → Value
  | .number n => .int n
  | .text s => .str s
  | .null => .null

/-- Reads the name of a request. -/
def RequestId.ofValue? : Value → Option RequestId
  | .int n => some (.number n)
  | .str s => some (.text s)
  | .null => some .null
  | _ => none

/-- A message of an editor; it is a request if it has a name. -/
structure Message where
  method : String
  params : Option Value
  id : Option RequestId
deriving Repr

/-- Reads a message, which must have a method. -/
def Message.ofValue? (v : Value) : Option Message :=
  match v.member? "method" with
  | some (.str method) =>
    some ⟨method, v.member? "params", (v.member? "id").bind RequestId.ofValue?⟩
  | _ => none

/-- Why a request is refused. A method may be known and still not be served; only one that is not
known at all is told back. -/
inductive Refusal
  | notInitialized
  | invalidRequest
  | methodNotServed
  | methodUnknown (method : String)
  | invalidParams (reason : String)
  | notPrepared (fault : RuntimeFault)
deriving DecidableEq, Repr

namespace Refusal

/-- The number by which editors know a refusal. -/
def code : Refusal → Int
  | .notInitialized => -32002
  | .invalidRequest => -32600
  | .methodNotServed => -32601
  | .methodUnknown _ => -32601
  | .invalidParams _ => -32602
  | .notPrepared _ => -32603

/-- What is said about a refusal. -/
def message : Refusal → String
  | .notInitialized => "Server not initialized"
  | .invalidRequest => "Invalid request"
  | .methodNotServed => "Method not found"
  | .methodUnknown _ => "Method not found"
  | .invalidParams reason => reason
  | .notPrepared fault => "Failed to initialize dockerlint: " ++ fault.message

/-- What a refusal tells besides: the method that is unknown, or whether another try may help. -/
def data : Refusal → Option Value
  | .methodUnknown method => some (.str method)
  | .notPrepared fault => some (.obj [("retry", .bool fault.isRetryable)])
  | _ => none

/-- A refusal as data. -/
def toValue (r : Refusal) : Value :=
  .obj ([("code", .int r.code), ("message", .str r.message)] ++
    match r.data with
    | some d => [("data", d)]
    | none => [])

end Refusal

/-- The answer to a request. -/
structure Reply where
  id : RequestId
  result : Except Refusal Value

/-- The answer as data. -/
def Reply.toValue (r : Reply) : Value :=
  .obj [("jsonrpc", .str "2.0"),
    match r.result with
    | .ok v => ("result", v)
    | .error refusal => ("error", refusal.toValue),
    ("id", r.id.toValue)]

/-- A message that the server sends by itself. -/
structure Notice where
  method : String
  params : Value
deriving Repr

namespace Notice

/-- The number by which editors know that a message is an error. -/
def errorKind : Int := 1

/-- The number by which editors know that a message is an information. -/
def infoKind : Int := 3

/-- A message in words. -/
def words (method : String) (kind : Int) (text : String) : Notice :=
  ⟨method, .obj [("message", .str text), ("type", .int kind)]⟩

/-- The message by which the editor learns of an effect; a start of a linter is not told. -/
def ofEffect? : Effect → Option Notice
  | .publish uri diagnostics =>
    some ⟨"textDocument/publishDiagnostics",
      .obj [("diagnostics", .arr (diagnostics.map EditorDiagnostic.toValue)), ("uri", .str uri)]⟩
  | .showError text => some (words "window/showMessage" errorKind text)
  | .logInfo text => some (words "window/logMessage" infoKind text)
  | .logError text => some (words "window/logMessage" errorKind text)
  | .start _ => none

/-- The message with its method and its parameters, as data. -/
def toValue (n : Notice) : Value :=
  .obj [("jsonrpc", .str "2.0"), ("method", .str n.method), ("params", n.params)]

end Notice

end ContainerLint.Server
