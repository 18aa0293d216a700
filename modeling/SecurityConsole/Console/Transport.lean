/-
How the console sends calls and settles their replies.

A reply means the same whatever the state of the console (`Verdict`):
the answer of the call, a failure with the one notice that tells it, or
the word that the credentials are no good. Only the last looks at the
session, and it touches it only if the session still holds the token that
the request was sent with. So of many requests that were sent with one
token and refused, just one ends the session.
-/
import SecurityConsole.Http.Message
import SecurityConsole.Url.Join
import SecurityConsole.Envelope
import SecurityConsole.Route.Table
import SecurityConsole.Console.Basic

namespace SecurityConsole

open Text (Bytes)

-- =============================================================== verdicts

/-- What a reply says about a call. -/
inductive Verdict (call : Call) where
  /-- The answer. -/
  | answered (value : call.answer.Value)
  /-- A failure, and the text of the notice about it. -/
  | failed (error : ApiError) (notice : String)
  /-- The credentials are no good; perhaps the server says why. -/
  | refused (message : Option String)

namespace Verdict

/-- A reply that is not what was asked for. -/
def malformed {call : Call} (reason : String) : Verdict call :=
  .failed (.decode reason) Notice.requestFailed

/-- The verdict of an envelope. -/
def ofEnvelope (call : Call) (e : Envelope) : Verdict call :=
  if e.code = Envelope.codeOk then
    match call.answer.decode e.data with
    | some value => .answered value
    | none => malformed "unexpected data"
  else if e.code = Envelope.codeUnauthorized then .refused e.message?
  else
    let message := e.message?.getD Notice.requestFailed
    .failed (.business e.code message) message

/-- The verdict of a success. -/
def ofSuccess (call : Call) (body : Bytes) : Verdict call :=
  match Envelope.ofBytes? body with
  | some e => ofEnvelope call e
  | none => malformed "no envelope"

/-- The message for a status, if the body brings none. -/
def statusMessage (status : Nat) : String :=
  s!"{Notice.requestFailed} ({status})"

/-- The verdict of a status that is no success. The body only lends its
message. -/
def ofFailure (call : Call) (status : Nat) (body : Bytes) : Verdict call :=
  let said := (Envelope.ofBytes? body).bind Envelope.message?
  let message := said.getD (statusMessage status)
  if status = 401 then .refused said
  else if 500 ≤ status then
    .failed (.server status message) Notice.serverError
  else if status = 404 then .failed (.notFound message) Notice.notFound
  else if status = 403 then .failed (.forbidden message) Notice.forbidden
  else .failed (.http status message) message

/-- The verdict of a reply. -/
def ofReply (call : Call) : Reply → Verdict call
  | .lost => .failed .network Notice.networkError
  | .response status body =>
    let body := Http.carriedBody status body
    if Http.isSuccess status then ofSuccess call body
    else ofFailure call status body

end Verdict

-- ================================================================ sending

namespace Console

/-- The texts of the pairs of a query; a value that has none spoils the
query. -/
def queryTexts? (pairs : List (String × Json)) :
    Option (List (String × String)) :=
  pairs.mapM fun p => (Resource.scalarText? p.2).map (p.1, ·)

/-- The address of a call. -/
def address? (c : Console) (call : Call) : Option Url.Address :=
  match Url.Address.parse? (Url.joinPath c.baseUrl call.path), call.query with
  | some a, none => some a
  | some a, some pairs => (queryTexts? pairs).map a.withPairs
  | none, _ => none

/-- The value of the header that carries a token. -/
def bearer (token : String) : String := "Bearer " ++ token

/-- The request that a call is sent as: it carries the token that the
session holds now. A call whose address or token cannot be written has
none, and is lost. -/
def request? (c : Console) (call : Call) : Option Request :=
  match c.address? call with
  | some address =>
    if c.session.token?.all (Http.legalHeader ∘ bearer) then
      some ⟨call.method, address, c.session.token?, call.body⟩
    else none
  | none => none

-- =============================================================== settling

/-- End the session of a token that was refused. Whoever really ends it
says so and leads the user to sign in. -/
def endSession (c : Console) (token : String) : Console :=
  match c.session.expire token with
  | (true, session) =>
    ({ c with session }.notify ⟨.warning, Notice.sessionExpired⟩).visit
      Route.loginPath
  | (false, _) => c

/-- What a verdict does to the console, and how the call ends. The token
is the one that the request was sent with. -/
def conclude (c : Console) {call : Call} (token : Option String) :
    Verdict call → call.Outcome × Console
  | .answered value => (.ok value, c)
  | .failed error text => (.error error, c.notify ⟨.error, text⟩)
  | .refused message =>
    match token with
    | some token =>
      (.error (.sessionExpired (message.getD Notice.sessionExpired)),
        c.endSession token)
    | none =>
      let message := message.getD Notice.invalidCredentials
      (.error (.unauthorized message), c.notify ⟨.error, message⟩)

/-- Settle a call with a reply: conclude, and count it once. -/
def settle (c : Console) (call : Call) (token : Option String)
    (reply : Reply) : call.Outcome × Console :=
  let (outcome, c) := c.conclude token (Verdict.ofReply call reply)
  (outcome, c.counted call.method (OutcomeLabel.of outcome))

end Console
end SecurityConsole
