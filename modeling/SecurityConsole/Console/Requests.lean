/-
Jobs of one call: an endpoint with its arguments, or a call that is
spelled out.
-/
import SecurityConsole.Console.Job
import SecurityConsole.Validation.Rules

namespace SecurityConsole

open Resource (Endpoint Answer)

namespace Console

/-- The rules that the body of a call breaks. -/
def bodyViolations (e : Endpoint) (a : e.Arguments) : List Violation :=
  Validation.violations e.rules (e.body.fields.encode a.body)

/-- Call an endpoint. A body that breaks a rule is not sent. -/
def request (e : Endpoint) (a : e.Arguments) : Job (e.call a).Outcome :=
  match bodyViolations e a with
  | [] => Job.call (e.call a)
  | violations => .done (.error (.validation violations))

/-- Call a path and take the data of the reply as it is. -/
def fetch (m : Method) (path : String)
    (query : Option (List (String × Json))) (body : Option Json) :
    Job (Except ApiError Json) :=
  Job.call ⟨m, path, query, body, .value .json⟩

/-- Call a path and ask nothing of the data of the reply. -/
def submit (m : Method) (path : String) (body : Option Json) :
    Job (Except ApiError Unit) :=
  Job.call ⟨m, path, none, body, .nothing⟩

end Console
end SecurityConsole
