/-
Scan tasks: runs of policies or rules on selected hosts, now or on a
schedule.
-/
import SecurityConsole.Resource.Hosts

namespace SecurityConsole.Resource

open Schema

/-- The kind of a task. -/
def taskType : Schema := .oneOf ["manual", "scheduled", "baseline"]

/-- The state of a task. -/
def taskStatus : Schema :=
  .oneOf ["pending", "running", "completed", "failed"]

/-- How a task selects hosts. -/
def targetType : Schema := .oneOf ["all", "host_ids", "os_family"]

/-- The hosts a task selects. -/
def targetConfig : Schema :=
  fields [given "host_ids" (.list .text), given "os_family" (.list .text)]

/-- A scan task. -/
def scanTask : Schema :=
  fields
    [need "task_id" .text, need "name" .text, need "type" taskType,
     need "target_type" targetType, fill "target_config" targetConfig,
     fill "target_hosts" (.list .text), maybe "matched_host_count" i64,
     maybe "total_host_count" i64, fill "policy_id" .text,
     fill "rule_ids" (.list .text), need "status" taskStatus,
     need "created_at" .text, maybe "executed_at" .text,
     maybe "completed_at" .text, need "updated_at" .text]

/-- The hosts that a new task is meant for. -/
def taskTargets : Schema :=
  fields
    [need "type" targetType, ask "host_ids" (.list .text),
     ask "os_family" (.list .text), ask "runtime_type" runtimeType]

/-- The path of a task and what lies below it. -/
def taskPath (rest : String) : Template :=
  .slot "/tasks/" "task_id" .text (.tail rest)

/-- The endpoints of scan tasks. -/
def tasks : List Endpoint :=
  [{ group := "tasks", action := "list", method := .get
     path := .tail "/tasks"
     query := Fields.ofList
       [ask "page" u32, ask "page_size" u32, ask "status" taskStatus,
        ask "policy_id" .text]
     answer := .value (page scanTask) },
   { group := "tasks", action := "get", method := .get
     path := taskPath "", answer := .value scanTask },
   { group := "tasks", action := "create", method := .post
     path := .tail "/tasks"
     body := .inline (Fields.ofList
       [need "name" .text, need "type" taskType,
        need "targets" taskTargets, askList "policy_ids" .text,
        askList "rule_ids" .text, ask "schedule" .json])
     answer := .value scanTask },
   { group := "tasks", action := "run", method := .post
     path := taskPath "/run", answer := .value scanTask },
   { group := "tasks", action := "cancel", method := .post
     path := taskPath "/cancel", answer := .value scanTask },
   { group := "tasks", action := "delete", method := .delete
     path := taskPath "" }]

end SecurityConsole.Resource
