/-
Headers that tie a request to the trace it belongs to: the parent of the
request's span, the state that the trace carries along, and an id of the
request itself.
-/
import SecurityConsole.Text.Hex
import SecurityConsole.Http.Message

namespace SecurityConsole.Trace

open Text

/-- Where in a trace something happens. -/
structure Context where
  traceId : BitVec 128
  spanId : BitVec 64
  flags : UInt8
  /-- What the trace carries along, by name. -/
  state : List (String × String)
  deriving DecidableEq, Repr, Inhabited

/-- Headers by their name in small letters. A name may have several
values. -/
abbrev Headers := List (String × String)

/-- Set a header, replacing all that are there. -/
def Headers.set (name value : String) : Headers → Headers
  | [] => [(name, value)]
  | (n, v) :: rest =>
    if n = name then (name, value) :: rest.filter (·.1 ≠ name)
    else (n, v) :: set name value rest

/-- Set a header, if its value may stand in one. -/
def Headers.setLegal (name value : String) (hs : Headers) : Headers :=
  if Http.legalHeader value then hs.set name value else hs

/-- The name of the header for the parent of a span. -/
def parentHeader : String := "traceparent"

/-- The name of the header for the state of a trace. -/
def stateHeader : String := "tracestate"

/-- The name of the header for the id of a request. -/
def requestHeader : String := "x-request-id"

namespace Context

/-- The context of a span. Spans that are not sampled carry no state. -/
def ofSpan (traceId spanId : Nat) (sampled : Bool)
    (state : List (String × String)) : Context :=
  if sampled then ⟨.ofNat 128 traceId, .ofNat 64 spanId, 1, state⟩
  else ⟨.ofNat 128 traceId, .ofNat 64 spanId, 0, []⟩

/-- Whether the context names a trace and a span; zero names none. -/
def isValid (c : Context) : Bool := c.traceId ≠ 0 && c.spanId ≠ 0

/-- The value of the header for the parent: a version, the trace, the
span and the flags, in hexadecimal digits. -/
def parentText (c : Context) : String :=
  String.ofList
    (['0', '0', '-'] ++ Hex.digits 32 c.traceId.toNat ++ '-' ::
      Hex.digits 16 c.spanId.toNat ++ '-' :: Hex.digits 2 c.flags.toNat)

/-- The value of the header for the state: the entries in order. -/
def stateText (c : Context) : String :=
  ",".intercalate (c.state.map fun e => e.1 ++ "=" ++ e.2)

/-- Add the headers of a context that is valid. -/
def addTo (c : Context) (hs : Headers) : Headers :=
  if c.isValid then
    let hs := hs.setLegal parentHeader c.parentText
    if c.stateText = "" then hs else hs.setLegal stateHeader c.stateText
  else hs

end Context

/-- Add the headers of a context, if there is one, and the id of a
request. What may not stand in a header is left out. -/
def inject (context : Option Context) (requestId : Option String)
    (hs : Headers) : Headers :=
  let hs := match context with
    | some c => c.addTo hs
    | none => hs
  match requestId with
  | some id => hs.setLegal requestHeader id
  | none => hs

end SecurityConsole.Trace
