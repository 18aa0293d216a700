/-
Endpoints of the server as data: a method, a path with slots for ids, a
query, a body and an answer, each with the shape of what it carries. A
call is an endpoint together with its arguments; the request line and
the body are computed from the two.

Ids are put into the path as they are. What becomes of a path that an id
has bent out of shape is decided where the address is parsed.
-/
import SecurityConsole.Schema.Basic
import SecurityConsole.Number.Shortest

namespace SecurityConsole

/-- The method of a request. -/
inductive Method where
  | get
  | post
  | put
  | patch
  | delete
  deriving DecidableEq, Repr, Inhabited

/-- The method's name on the request line. -/
def Method.name : Method → String
  | .get => "GET"
  | .post => "POST"
  | .put => "PUT"
  | .patch => "PATCH"
  | .delete => "DELETE"

namespace Resource

-- =============================================================== paths

/-- A path with slots. -/
inductive Template where
  /-- The text behind the last slot. -/
  | tail (text : String)
  /-- The text before a slot, and what the slot takes. -/
  | slot (text : String) (name : String) (value : Schema) (rest : Template)
  deriving Repr

instance : Inhabited Template := ⟨.tail ""⟩

/-- What the slots of a path are filled with. -/
def Template.Value : Template → Type
  | .tail _ => Unit
  | .slot _ _ value rest => value.Value × rest.Value

/-- The text of a value in a path or a query: a string as it is, a
number or truth value as it is written in a message. Nothing else has
one. -/
def scalarText? : Json → Option String
  | .str s => some s
  | .int n => some (toString n)
  | .real x => some x.toText
  | .bool true => some "true"
  | .bool false => some "false"
  | _ => none

/-- The path with its slots filled. -/
def Template.render : (t : Template) → t.Value → String
  | .tail text, _ => text
  | .slot text _ value rest, (v, r) =>
    text ++ (scalarText? (value.encode v)).getD "" ++ rest.render r

/-- Read what fills the slots from named arguments. -/
def Template.read :
    (t : Template) → List (String × Json) → Option t.Value
  | .tail _, _ => some ()
  | .slot _ name value rest, arguments =>
    match arguments.lookup name, rest.read arguments with
    | some j, some r => (value.decode j).map (·, r)
    | _, _ => none

-- ============================================================== bodies

/-- What a request carries behind its head. -/
inductive Body where
  /-- Nothing. -/
  | none
  /-- A record of the arguments themselves. -/
  | inline (fields : Fields)
  /-- A record that is one argument of the given name. -/
  | argument (name : String) (fields : Fields)
  deriving Repr

instance : Inhabited Body := ⟨.none⟩

/-- The fields of a body. -/
def Body.fields : Body → Fields
  | .none => .nil
  | .inline fields => fields
  | .argument _ fields => fields

/-- Whether requests carry no body. -/
def Body.isAbsent : Body → Bool
  | .none => true
  | _ => false

-- ============================================================= answers

/-- What the data of a reply is read as. -/
inductive Answer where
  /-- Nothing is asked of it. -/
  | nothing
  /-- A value of a shape. -/
  | value (s : Schema)
  /-- A record of which only the items count. -/
  | itemsOf (s : Schema)
  deriving Repr

instance : Inhabited Answer := ⟨.nothing⟩

namespace Answer

/-- The values of an answer. -/
def Value : Answer → Type
  | .nothing => Unit
  | .value s => s.Value
  | .itemsOf s => List s.Value

/-- Read an answer from the data of a reply. -/
def decode : (a : Answer) → Json → Option a.Value
  | .nothing, _ => some ()
  | .value s, j => s.decode j
  | .itemsOf s, j =>
    ((Schema.fields [Schema.fill "items" (.list s)]).decode j).map (·.1)

/-- The value of an answer as JSON. -/
def encode : (a : Answer) → a.Value → Json
  | .nothing, _ => .null
  | .value s, v => s.encode v
  | .itemsOf s, v => (Schema.list s).encode v

end Answer

-- ========================================================== validation

/-- A rule that a text must keep. -/
inductive Constraint where
  /-- At least so many characters; the message says so. -/
  | minLength (n : Nat) (message : String)
  /-- The text is an e-mail address. -/
  | email
  deriving DecidableEq, Repr, Inhabited

-- =========================================================== endpoints

/-- An endpoint of the server. -/
structure Endpoint where
  /-- The group of endpoints it belongs to. -/
  group : String
  /-- Its name in the group. -/
  action : String
  method : Method
  path : Template
  query : Fields := .nil
  body : Body := .none
  /-- The fields of the body that are checked before anything is sent. -/
  rules : List (String × Constraint) := []
  answer : Answer := .nothing

instance : Inhabited Endpoint :=
  ⟨⟨"", "", .get, .tail "", .nil, .none, [], .nothing⟩⟩

namespace Endpoint

/-- The arguments of an endpoint. -/
structure Arguments (e : Endpoint) where
  path : e.path.Value
  query : e.query.Value
  body : e.body.fields.Value

/-- Read the arguments of an endpoint from their names. -/
def read (e : Endpoint) (arguments : List (String × Json)) :
    Option e.Arguments :=
  let body := match e.body with
    | .argument name _ =>
      ((arguments.lookup name).bind Json.members?).getD []
    | _ => arguments
  match e.path.read arguments, e.query.decodeNamed arguments,
      e.body.fields.decodeNamed body with
  | some p, some q, some b => some ⟨p, q, b⟩
  | _, _, _ => none

/-- The pairs of a query: one for each parameter that is set, in the
order of the fields. A list gives one pair per item, under its name with
brackets. -/
def queryPairs : (fs : Fields) → fs.Value → List (String × Json)
  | .nil, _ => []
  | .cons name _ (.list s) rest, (v, r) =>
    List.map (fun x => (name ++ "[]", s.encode x)) v ++ queryPairs rest r
  | .cons name _ (.optional s) rest, (v, r) =>
    (match (v : Option s.Value) with
      | some x => [(name, s.encode x)]
      | none => []) ++ queryPairs rest r
  | .cons name _ value rest, (v, r) =>
    (name, value.encode v) :: queryPairs rest r

/-- The body of a call, if the endpoint takes one. -/
def bodyJson (e : Endpoint) (a : e.Arguments) : Option Json :=
  if e.body.isAbsent then none
  else some (.obj (e.body.fields.encode a.body))

end Endpoint
end Resource
end SecurityConsole
