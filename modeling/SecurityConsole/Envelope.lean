/-
The envelope around every reply of the server: a code, a message, and
the data. Code 0 is success; code 401 says that the token is no good.
-/
import SecurityConsole.Schema.Reader

namespace SecurityConsole

open Schema

/-- The envelope of a reply. -/
structure Envelope where
  code : Int
  rawMessage : Option String
  data : Json
  deriving Inhabited

namespace Envelope

/-- The code of a success. -/
def codeOk : Int := 0

/-- The code of a token that is missing, unknown or expired. -/
def codeUnauthorized : Int := 401

/-- The shape of an envelope. -/
def schema : Schema :=
  fields [need "code" i64, maybe "message" .text, fill "data" .json]

/-- Read an envelope from the body of a reply. -/
def ofBytes? (body : Text.Bytes) : Option Envelope :=
  (schema.ofBytes? body).map fun (code, message, data, ()) =>
    ⟨code.1, message, data⟩

/-- The message, an empty one counting as none. -/
def message? (e : Envelope) : Option String := e.rawMessage.filter (· ≠ "")

/-- Whether the code is that of a success. -/
def isSuccess (e : Envelope) : Bool := e.code = codeOk

end Envelope
end SecurityConsole
