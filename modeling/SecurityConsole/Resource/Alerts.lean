/-
Alerts: findings on a host that are active until somebody resolves or
ignores them.
-/
import SecurityConsole.Resource.Severity
import SecurityConsole.Resource.Endpoint

namespace SecurityConsole.Resource

open Schema

/-- The state of an alert. -/
def alertStatus : Schema := .oneOf ["active", "resolved", "ignored"]

/-- The host an alert was raised on. -/
def alertHost : Schema :=
  fields [need "host_id" .text, need "hostname" .text, fill "ip" .text]

/-- The rule an alert was raised by. -/
def alertRule : Schema :=
  fields [need "rule_id" .text, need "title" .text]

/-- An alert. -/
def alert : Schema :=
  fields
    [need "id" i64, need "result_id" .text, need "host_id" .text,
     need "rule_id" .text, need "policy_id" .text,
     need "severity" severity, need "category" .text,
     need "title" .text, maybe "description" .text,
     maybe "actual" .text, maybe "expected" .text,
     maybe "fix_suggestion" .text, need "status" alertStatus,
     need "first_seen_at" .text, need "last_seen_at" .text,
     maybe "resolved_at" .text, maybe "resolved_by" .text,
     maybe "resolve_reason" .text, maybe "host" alertHost,
     maybe "rule" alertRule]

/-- Counts of alerts by state and by severity. -/
def alertStatistics : Schema :=
  join
    (Fields.ofList
      [fill "total" i64, fill "active" i64, fill "resolved" i64,
       fill "ignored" i64])
    severityCountFields

/-- The body of a resolved alert. -/
def resolveBody : Body := .inline (Fields.ofList [maybe "reason" .text])

/-- The endpoint that resolves alerts. -/
def resolveAlert : Endpoint :=
  { group := "alerts", action := "resolve", method := .post
    path := .slot "/alerts/" "id" i64 (.tail "/resolve")
    body := resolveBody }

/-- The endpoints of alerts. -/
def alerts : List Endpoint :=
  [{ group := "alerts", action := "list", method := .get
     path := .tail "/alerts"
     query := Fields.ofList
       [ask "page" u32, ask "page_size" u32, ask "status" alertStatus,
        ask "severity" severity, ask "host_id" .text,
        ask "rule_id" .text, ask "category" .text,
        ask "keyword" .text, ask "result_id" .text]
     answer := .value (page alert) },
   { group := "alerts", action := "get", method := .get
     path := .slot "/alerts/" "id" i64 (.tail "")
     answer := .value alert },
   { group := "alerts", action := "statistics", method := .get
     path := .tail "/alerts/statistics"
     answer := .value alertStatistics },
   resolveAlert,
   { group := "alerts", action := "ignore", method := .post
     path := .slot "/alerts/" "id" i64 (.tail "/ignore") }]

end SecurityConsole.Resource
