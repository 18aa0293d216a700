/-
Baseline policies, their rules, and the groups that policies are sorted
into. What a rule checks and how it fixes depends on the kind of rule
and is any JSON value.
-/
import SecurityConsole.Resource.Severity
import SecurityConsole.Resource.Endpoint

namespace SecurityConsole.Resource

open Schema

-- ============================================================== policies

/-- What a policy or rule applies to. -/
def targetKind : Schema := .oneOf ["host", "container", "all"]

/-- A family of operating systems and the versions of it. -/
def osRequirement : Schema :=
  fields
    [need "os_family" .text, given "min_version" .text,
     given "max_version" .text]

/-- A rule of a policy. -/
def rule : Schema :=
  fields
    [need "rule_id" .text, fill "policy_id" .text,
     fill "category" .text, need "title" .text,
     fill "description" .text, need "severity" severity,
     fill "enabled" .bool, maybe "target_type" targetKind,
     fill "check_config" .json, fill "fix_config" .json,
     maybe "created_at" .text, maybe "updated_at" .text]

/-- A policy. -/
def policy : Schema :=
  fields
    [need "id" .text, need "name" .text, fill "version" .text,
     fill "description" .text, fill "os_family" (.list .text),
     fill "os_version" .text,
     fill "os_requirements" (.list osRequirement),
     maybe "target_type" targetKind, need "enabled" .bool,
     maybe "group_id" .text, maybe "rule_count" i64,
     fill "rules" (.list rule), need "created_at" .text,
     need "updated_at" .text]

/-- Counts of passed and failed checks. -/
def passFail : Schema := fields [fill "pass" i64, fill "fail" i64]

/-- Counts of passed and failed checks by severity. -/
def severityPassFail : Schema :=
  fields
    [need "critical" passFail, need "high" passFail,
     need "medium" passFail, need "low" passFail]

/-- How the hosts stand with a policy. -/
def policyStatistics : Schema :=
  fields
    [need "policy_id" .text, fill "rule_count" i64,
     fill "host_count" i64, fill "pass_rate" .real,
     fill "pass_count" i64, fill "fail_count" i64,
     fill "risk_count" i64, maybe "last_check_time" .text,
     maybe "by_severity" severityPassFail]

/-- A rule that comes with a policy. -/
def ruleInput : Schema :=
  fields
    [need "rule_id" .text, ask "category" .text, need "title" .text,
     ask "description" .text, ask "severity" severity,
     need "check_config" .json, ask "fix_config" .json]

/-- What a policy is made from, or changed to. -/
def policyInput : Fields :=
  Fields.ofList
    [ask "id" .text, ask "name" .text, ask "version" .text,
     ask "description" .text, ask "os_family" (.list .text),
     ask "os_version" .text,
     ask "os_requirements" (.list osRequirement), ask "enabled" .bool,
     ask "group_id" .text, ask "runtime_types" (.list .text),
     ask "rules" (.list ruleInput)]

/-- The number of policies that were changed. -/
def batchUpdated : Schema := fields [fill "updated" i64]

/-- The path of a policy and what lies below it. -/
def policyPath (rest : String) : Template :=
  .slot "/policies/" "policy_id" .text (.tail rest)

/-- The endpoints of policies. -/
def policies : List Endpoint :=
  [{ group := "policies", action := "list", method := .get
     path := .tail "/policies"
     query := Fields.ofList
       [ask "os_family" .text, ask "enabled" .bool, ask "group_id" .text]
     answer := .itemsOf policy },
   { group := "policies", action := "get", method := .get
     path := policyPath "", answer := .value policy },
   { group := "policies", action := "create", method := .post
     path := .tail "/policies", body := .inline policyInput
     answer := .value policy },
   { group := "policies", action := "update", method := .put
     path := policyPath "", body := .inline policyInput
     answer := .value policy },
   { group := "policies", action := "delete", method := .delete
     path := policyPath "" },
   { group := "policies", action := "statistics", method := .get
     path := policyPath "/statistics"
     answer := .value policyStatistics },
   { group := "policies", action := "batch_enable", method := .post
     path := .tail "/policies/batch/enable"
     body := .inline (Fields.ofList
       [fill "policy_ids" (.list .text), need "enabled" .bool])
     answer := .value batchUpdated }]

-- ================================================================= rules

/-- What a new rule is made from. -/
def newRule : Schema :=
  fields
    [need "rule_id" .text, ask "category" .text, need "title" .text,
     ask "description" .text, ask "severity" severity,
     need "check_config" .json, ask "fix_config" .json]

/-- What may change of a rule. -/
def ruleChange : Schema :=
  fields
    [ask "category" .text, ask "title" .text, ask "description" .text,
     ask "severity" severity, ask "check_config" .json,
     ask "fix_config" .json]

/-- The path of a rule. -/
def rulePath : Template := .slot "/rules/" "rule_id" .text (.tail "")

/-- The endpoints of rules. -/
def rules : List Endpoint :=
  [{ group := "rules", action := "list", method := .get
     path := policyPath "/rules", answer := .itemsOf rule },
   { group := "rules", action := "get", method := .get
     path := rulePath, answer := .value rule },
   { group := "rules", action := "create", method := .post
     path := policyPath "/rules"
     body := .argument "request" newRule.fieldTable
     answer := .value rule },
   { group := "rules", action := "update", method := .put
     path := rulePath
     body := .argument "request" ruleChange.fieldTable
     answer := .value rule },
   { group := "rules", action := "delete", method := .delete
     path := rulePath }]

-- ================================================================ groups

/-- A group of policies; the policies are there only when asked for. -/
def policyGroup : Schema :=
  fields
    [need "id" .text, need "name" .text, fill "description" .text,
     maybe "icon" .text, maybe "color" .text, fill "sort_order" i64,
     need "enabled" .bool, need "created_at" .text,
     need "updated_at" .text, fill "policies" (.list policy),
     maybe "policy_count" i64, maybe "rule_count" i64,
     maybe "pass_rate" .real, maybe "host_count" i64]

/-- How the hosts stand with the policies of a group. -/
def policyGroupStatistics : Schema :=
  fields
    [need "group_id" .text, fill "policy_count" i64,
     fill "rule_count" i64, fill "host_count" i64,
     fill "pass_rate" .real, fill "pass_count" i64,
     fill "fail_count" i64, fill "risk_count" i64,
     maybe "last_check_time" .text]

/-- What a new group is made from; the server picks an id if none is
given. -/
def newPolicyGroup : Schema :=
  fields
    [ask "id" .text, need "name" .text, ask "description" .text,
     ask "icon" .text, ask "color" .text, ask "sort_order" i64,
     ask "enabled" .bool]

/-- What may change of a group. -/
def policyGroupChange : Schema :=
  fields
    [ask "name" .text, ask "description" .text, ask "icon" .text,
     ask "color" .text, ask "sort_order" i64, ask "enabled" .bool]

/-- Whether the policies of a group come with it. -/
def policyGroupQuery : Fields := Fields.ofList [ask "with_policies" .bool]

/-- The path of a group and what lies below it. -/
def policyGroupPath (rest : String) : Template :=
  .slot "/policy-groups/" "id" .text (.tail rest)

/-- The endpoints of groups. -/
def policyGroups : List Endpoint :=
  [{ group := "policy_groups", action := "list", method := .get
     path := .tail "/policy-groups", query := policyGroupQuery
     answer := .value (page policyGroup) },
   { group := "policy_groups", action := "get", method := .get
     path := policyGroupPath "", query := policyGroupQuery
     answer := .value policyGroup },
   { group := "policy_groups", action := "statistics", method := .get
     path := policyGroupPath "/statistics"
     answer := .value policyGroupStatistics },
   { group := "policy_groups", action := "create", method := .post
     path := .tail "/policy-groups"
     body := .argument "request" newPolicyGroup.fieldTable
     answer := .value policyGroup },
   { group := "policy_groups", action := "update", method := .put
     path := policyGroupPath ""
     body := .argument "request" policyGroupChange.fieldTable
     answer := .value policyGroup },
   { group := "policy_groups", action := "delete", method := .delete
     path := policyGroupPath "" }]

end SecurityConsole.Resource
