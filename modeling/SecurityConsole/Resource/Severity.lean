/-
Severities, and counts per severity: what alerts, rules, notifications
and risk figures have in common.
-/
import SecurityConsole.Schema.Basic

namespace SecurityConsole.Resource

open Schema

/-- How bad a finding is. -/
def severity : Schema := .oneOf ["critical", "high", "medium", "low"]

/-- One count per severity. -/
def severityCountFields : Fields := Fields.ofList
  [fill "critical" i64, fill "high" i64, fill "medium" i64, fill "low" i64]

/-- A record of one count per severity. -/
def severityCounts : Schema := .record false severityCountFields

/-- A page of a listing: the number of all items, and those on the
page. -/
def page (item : Schema) : Schema :=
  fields [need "total" i64, fill "items" (.list item)]

end SecurityConsole.Resource
