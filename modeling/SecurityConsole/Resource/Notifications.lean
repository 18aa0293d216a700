/-
Notifications: which findings are announced, over which channel, and for
which part of the hosts. The server keeps the part as JSON text inside
the notification.
-/
import SecurityConsole.Resource.Severity
import SecurityConsole.Resource.Endpoint
import SecurityConsole.Schema.Reader

namespace SecurityConsole.Resource

open Schema

/-- What a notification is about. -/
def notifyCategory : Schema := .oneOf ["baseline_alert", "agent_offline"]

/-- The kind of channel. -/
def channelType : Schema := .oneOf ["lark", "webhook"]

/-- How the hosts are selected. -/
def notifyScope : Schema :=
  .oneOf ["global", "host_tags", "business_line", "specified"]

/-- Where a channel leads. -/
def channelConfig : Schema :=
  fields
    [need "webhook_url" .text, given "secret" .text,
     given "user_notes" .text]

/-- The selected hosts. -/
def scopeValue : Schema :=
  fields
    [fill "tags" (.list .text), fill "business_lines" (.list .text),
     fill "host_ids" (.list .text)]

/-- A notification. Severities matter only for alerts. -/
def notification : Schema :=
  fields
    [need "id" i64, need "name" .text, maybe "description" .text,
     need "notify_category" notifyCategory, need "enabled" .bool,
     need "type" channelType, fill "severities" (.list severity),
     need "scope" notifyScope, maybe "scope_value" .text,
     maybe "frontend_url" .text, need "config" channelConfig,
     need "created_at" .text, need "updated_at" .text]

/-- The hosts that a notification selects, if its text for them can be
read. -/
def scopeOf? (v : notification.Value) : Option scopeValue.Value :=
  match ((notification.encode v).get? "scope_value").bind Json.str? with
  | some written => scopeValue.ofString? written
  | none => none

/-- The path of a notification. -/
def notificationPath : Template :=
  .slot "/notifications/" "id" i64 (.tail "")

/-- The endpoints of notifications. A test with the id of a notification
sends what that notification would send. -/
def notifications : List Endpoint :=
  [{ group := "notifications", action := "list", method := .get
     path := .tail "/notifications"
     query := Fields.ofList
       [ask "page" u32, ask "page_size" u32, ask "enabled" .bool,
        ask "keyword" .text]
     answer := .value (page notification) },
   { group := "notifications", action := "get", method := .get
     path := notificationPath, answer := .value notification },
   { group := "notifications", action := "create", method := .post
     path := .tail "/notifications"
     body := .inline (Fields.ofList
       [need "name" .text, ask "description" .text,
        need "notify_category" notifyCategory, ask "enabled" .bool,
        need "type" channelType, askList "severities" severity,
        need "scope" notifyScope, need "scope_value" scopeValue,
        ask "frontend_url" .text, need "config" channelConfig])
     answer := .value notification },
   { group := "notifications", action := "update", method := .put
     path := notificationPath
     body := .inline (Fields.ofList
       [ask "name" .text, ask "description" .text,
        ask "notify_category" notifyCategory, ask "enabled" .bool,
        ask "type" channelType, ask "severities" (.list severity),
        ask "scope" notifyScope, ask "scope_value" scopeValue,
        ask "frontend_url" .text, ask "config" channelConfig])
     answer := .value notification },
   { group := "notifications", action := "delete", method := .delete
     path := notificationPath },
   { group := "notifications", action := "test", method := .post
     path := .tail "/notifications/test"
     body := .inline (Fields.ofList
       [need "type" channelType, need "config" channelConfig,
        ask "frontend_url" .text, ask "notification_id" i64]) }]

end SecurityConsole.Resource
