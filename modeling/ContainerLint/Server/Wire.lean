import ContainerLint.Json.Reader
import ContainerLint.Server.Message

/-!
# Messages on the wire

Each message is sent as JSON behind a header of lines, of which one tells the length of the JSON
in bytes and an empty one ends the header.
-/

namespace ContainerLint.Server.Wire

/-- The name of the header line with the length. -/
def lengthName : String := "Content-Length"

/-- Data behind its header. -/
def framed (v : Value) : String :=
  let body := Json.compact v
  lengthName ++ ": " ++ toString body.utf8ByteSize ++ "\r\n\r\n" ++ body

/-- The length that a header line tells, if it is the line that does. -/
def length? (line : String) : Option Nat :=
  match line.splitOn ":" with
  | [name, value] => if name = lengthName then (trimmed value).toNat? else none
  | _ => none

/-- The message in the bytes behind a header. -/
def message? (body : List UInt8) : Option Message := do
  let text ← Utf8.decode? body
  let v ← Json.parse? (String.ofList text)
  Message.ofValue? v

end ContainerLint.Server.Wire
