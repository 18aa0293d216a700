/-
Fixes of failed checks: the findings that can be fixed, and the tasks
that fix them on the hosts.
-/
import SecurityConsole.Resource.Severity
import SecurityConsole.Resource.Endpoint

namespace SecurityConsole.Resource

open Schema

/-- A failed check that a command can fix. -/
def fixableItem : Schema :=
  fields
    [need "result_id" .text, need "host_id" .text,
     fill "hostname" .text, fill "ip" .text,
     fill "business_line" .text, need "rule_id" .text,
     need "title" .text, fill "category" .text,
     need "severity" severity, fill "fix_suggestion" .text,
     fill "fix_command" .text, fill "actual" .text,
     fill "expected" .text, fill "has_fix" .bool]

/-- The id of a task that was just created. -/
def createdFixTask : Schema := fields [need "task_id" .text]

/-- The state of a fix task. -/
def fixTaskStatus : Schema :=
  .oneOf ["pending", "running", "completed", "failed", "cancelled"]

/-- A fix task; its progress is a percentage. -/
def fixTask : Schema :=
  fields
    [need "task_id" .text, fill "host_ids" (.list .text),
     fill "rule_ids" (.list .text), fill "severities" (.list .text),
     need "status" fixTaskStatus, fill "total_count" i64,
     fill "success_count" i64, fill "failed_count" i64,
     fill "progress" u8, fill "created_by" .text,
     need "created_at" .text, maybe "completed_at" .text]

/-- How one fix ended. -/
def fixResultStatus : Schema := .oneOf ["success", "failed", "skipped"]

/-- What a task did for one finding. -/
def fixResult : Schema :=
  fields
    [need "result_id" .text, need "task_id" .text,
     need "host_id" .text, fill "hostname" .text,
     need "rule_id" .text, fill "title" .text,
     need "status" fixResultStatus, fill "command" .text,
     fill "output" .text, fill "error_msg" .text,
     fill "message" .text, maybe "fixed_at" .text]

/-- How far a task is on one host. -/
def fixTaskHostStatus : Schema :=
  fields
    [need "task_id" .text, need "host_id" .text,
     maybe "hostname" .text, need "status" .text,
     maybe "dispatched_at" .text, maybe "completed_at" .text,
     maybe "error_message" .text]

/-- The paging of what belongs to a task. -/
def fixPageQuery : Fields :=
  Fields.ofList [ask "page" u32, ask "page_size" u32, ask "status" .text]

/-- The path of a task and what lies below it. -/
def fixTaskPath (rest : String) : Template :=
  .slot "/fix-tasks/" "task_id" .text (.tail rest)

/-- The endpoint that lists what can be fixed. -/
def fixableItems : Endpoint :=
  { group := "fix", action := "fixable_items", method := .get
    path := .tail "/fix/fixable-items"
    query := Fields.ofList
      [askList "host_ids" .text, askList "severities" severity,
       ask "business_line" .text, ask "page" u32, ask "page_size" u32]
    answer := .value (page fixableItem) }

/-- The endpoints of fixes. A task takes either the results to fix or
the filters that select them. -/
def fix : List Endpoint :=
  [fixableItems,
   { group := "fix", action := "create_task", method := .post
     path := .tail "/fix-tasks"
     body := .inline (Fields.ofList
       [ask "result_ids" (.list .text), ask "host_ids" (.list .text),
        ask "rule_ids" (.list .text), ask "severities" (.list severity),
        ask "use_filters" .bool, ask "business_line" .text])
     answer := .value createdFixTask },
   { group := "fix", action := "task", method := .get
     path := fixTaskPath "", answer := .value fixTask },
   { group := "fix", action := "tasks", method := .get
     path := .tail "/fix-tasks", query := fixPageQuery
     answer := .value (page fixTask) },
   { group := "fix", action := "results", method := .get
     path := fixTaskPath "/results", query := fixPageQuery
     answer := .value (page fixResult) },
   { group := "fix", action := "cancel_task", method := .post
     path := fixTaskPath "/cancel" },
   { group := "fix", action := "delete_task", method := .delete
     path := fixTaskPath "" },
   { group := "fix", action := "host_status", method := .get
     path := fixTaskPath "/host-status", query := fixPageQuery
     answer := .value (page fixTaskHostStatus) }]

end SecurityConsole.Resource
