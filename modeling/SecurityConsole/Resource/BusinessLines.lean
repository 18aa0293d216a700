/-
Business lines: groups of hosts under a short code that is fixed once
the line exists.
-/
import SecurityConsole.Resource.Severity
import SecurityConsole.Resource.Endpoint

namespace SecurityConsole.Resource

open Schema

/-- A business line. -/
def businessLine : Schema :=
  fields
    [need "id" u64, need "name" .text, need "code" .text,
     maybe "description" .text, maybe "owner" .text,
     maybe "contact" .text, need "enabled" .bool,
     maybe "host_count" i64, need "created_at" .text,
     need "updated_at" .text]

/-- What a new business line is made from. -/
def newBusinessLine : Schema :=
  fields
    [need "name" .text, need "code" .text, ask "description" .text,
     ask "owner" .text, ask "contact" .text, ask "enabled" .bool]

/-- What may change of a business line. -/
def businessLineChange : Schema :=
  fields
    [ask "name" .text, ask "description" .text, ask "owner" .text,
     ask "contact" .text, ask "enabled" .bool]

/-- The endpoints of business lines. -/
def businessLines : List Endpoint :=
  [{ group := "business_lines", action := "list", method := .get
     path := .tail "/business-lines"
     query := Fields.ofList
       [ask "page" u32, ask "page_size" u32, ask "enabled" .bool,
        ask "keyword" .text]
     answer := .value (page businessLine) },
   { group := "business_lines", action := "get", method := .get
     path := .slot "/business-lines/" "id" u64 (.tail "")
     answer := .value businessLine },
   { group := "business_lines", action := "create", method := .post
     path := .tail "/business-lines"
     body := .argument "request" newBusinessLine.fieldTable
     answer := .value businessLine },
   { group := "business_lines", action := "update", method := .put
     path := .slot "/business-lines/" "id" u64 (.tail "")
     body := .argument "request" businessLineChange.fieldTable
     answer := .value businessLine },
   { group := "business_lines", action := "delete", method := .delete
     path := .slot "/business-lines/" "id" u64 (.tail "") }]

end SecurityConsole.Resource
