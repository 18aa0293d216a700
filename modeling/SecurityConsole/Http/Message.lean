/-
Calls, the requests that they become, and the replies to those.
-/
import SecurityConsole.Resource.Endpoint
import SecurityConsole.Url.Address
import SecurityConsole.ApiError

namespace SecurityConsole

open Resource (Answer)
open Text (Bytes)

/-- A call of the server: what is asked, and what the data of the reply
is read as. -/
structure Call where
  method : Method
  path : String
  /-- The pairs added to the query; `none` leaves the query of the path
  as it is. -/
  query : Option (List (String × Json))
  body : Option Json
  answer : Answer

namespace Call

instance : Inhabited Call := ⟨⟨.get, "", none, none, .nothing⟩⟩

/-- How a call ends. -/
def Outcome (c : Call) : Type := Except ApiError c.answer.Value

/-- The outcome of a call as JSON. -/
def Outcome.toJson {c : Call} (o : c.Outcome) : Except ApiError Json :=
  Except.map c.answer.encode o

end Call

/-- A request as it is sent. -/
structure Request where
  method : Method
  address : Url.Address
  token : Option String
  body : Option Json
  deriving Inhabited

/-- What comes back. -/
inductive Reply where
  /-- A status and a body. -/
  | response (status : Nat) (body : Bytes)
  /-- No whole response. -/
  | lost
  deriving DecidableEq, Repr, Inhabited

namespace Http

/-- The body that a response of a status carries: there is none behind
204 and 304. -/
def carriedBody (status : Nat) (body : Bytes) : Bytes :=
  if status = 204 ∨ status = 304 then [] else body

/-- Whether a status is a success. -/
def isSuccess (status : Nat) : Bool := 200 ≤ status && status < 300

/-- Whether a text may stand in a header: no control characters other
than the tab. -/
def legalHeader (s : String) : Bool :=
  s.toList.all fun c => c = '\t' || (0x20 ≤ c.toNat && c.toNat ≠ 0x7f)

end Http

namespace Resource.Endpoint

/-- The call of an endpoint with arguments. -/
def call (e : Endpoint) (a : e.Arguments) : Call :=
  { method := e.method
    path := e.path.render a.path
    query := match e.query with
      | .nil => none
      | _ => some (queryPairs e.query a.query)
    body := e.bodyJson a
    answer := e.answer }

end Resource.Endpoint
end SecurityConsole
