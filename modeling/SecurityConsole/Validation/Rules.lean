/-
Rules on the fields of a request, checked before it is sent. A rule looks
at the text of one field; a field that is absent or has no value keeps
every rule.
-/
import SecurityConsole.Resource.Endpoint
import SecurityConsole.ApiError
import SecurityConsole.Validation.Email

namespace SecurityConsole

namespace Resource.Constraint

/-- Whether a text keeps the rule. Lengths count characters. -/
def holds : Constraint → String → Bool
  | .minLength n _, s => n ≤ s.length
  | .email, s => Validation.isEmail s

/-- The violation of the rule by a field. -/
def violation (field : String) : Constraint → Violation
  | .minLength _ message => ⟨field, "length", some message⟩
  | .email => ⟨field, "email", none⟩

end Resource.Constraint

namespace Validation

open Resource (Constraint)

/-- The violation of one rule by a request, if its field breaks it. -/
def check (request : List (String × Json)) (rule : String × Constraint) :
    Option Violation :=
  match request.lookup rule.1 with
  | some (.str s) =>
    if rule.2.holds s then none else some (rule.2.violation rule.1)
  | _ => none

/-- The violations of all rules by a request, in the order of the
rules. -/
def violations (rules : List (String × Constraint))
    (request : List (String × Json)) : List Violation :=
  rules.filterMap (check request)

end Validation
end SecurityConsole
