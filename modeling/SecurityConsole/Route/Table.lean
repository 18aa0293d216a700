/-
The routes of the console: names, patterns, titles, and who may see
them. A location belongs to the first route whose pattern matches; a
location that belongs to none leads to the page that says so.
-/
import SecurityConsole.Route.Pattern

namespace SecurityConsole

namespace Route

/-- Who may see a page. -/
inductive Access where
  /-- Only those who are not signed in. -/
  | guests
  /-- Only those who are signed in. -/
  | members
  /-- Everybody. -/
  | everyone
  deriving DecidableEq, Repr, Inhabited

/-- The name of an access. -/
def Access.name : Access → String
  | .guests => "Public"
  | .members => "Protected"
  | .everyone => "Any"

/-- A route. -/
structure Definition where
  name : String
  /-- The pattern as it is written; segments with a colon are
  parameters. -/
  pattern : String
  title : Option String
  access : Access
  /-- Where the route leads instead of a page of its own. -/
  redirect : Option String
  deriving DecidableEq, Repr, Inhabited

/-- A route and the location it was found for. -/
structure Match where
  route : Definition
  path : String
  params : Params
  deriving DecidableEq, Repr, Inhabited

/-- What a location leads to. -/
inductive Resolution where
  | found (m : Match)
  | redirect (target : String)
  deriving DecidableEq, Repr, Inhabited

-- =================================================== well-known locations

/-- The page to sign in. -/
def loginPath : String := "/login"

/-- The home page. -/
def homePath : String := "/"

/-- The page that home leads to. -/
def dashboardPath : String := "/dashboard"

/-- The page for locations that belong to no route. -/
def notFoundPath : String := "/404"

/-- The page for views that cannot be fetched. -/
def serverErrorPath : String := "/500"

-- ============================================================ resolution

/-- The parameters of a path under a route, if it matches. -/
def Definition.match? (r : Definition) (path : String) : Option Params :=
  (Pattern.ofString r.pattern).match? (segments path)

/-- What a route that matched leads to. -/
def Definition.resolution (r : Definition) (path : String)
    (params : Params) : Resolution :=
  match r.redirect with
  | some target => .redirect target
  | none => .found ⟨r, path, params⟩

/-- A table of routes; the first match counts. -/
abbrev Table := List Definition

/-- What a path leads to in a table. -/
def Table.resolvePath (path : String) : Table → Resolution
  | [] => .redirect notFoundPath
  | r :: rest =>
    match r.match? path with
    | some params => r.resolution path params
    | none => resolvePath path rest

/-- What a location leads to in a table. -/
def Table.resolve (t : Table) (location : String) : Resolution :=
  t.resolvePath (pathOf location)

-- ==================================================== the console's table

/-- A page for those who are signed in. -/
def page (name pattern title : String) : Definition :=
  ⟨name, pattern, some title, .members, none⟩

/-- The pages of the console. -/
def consoleTable : Table :=
  [⟨"Login", loginPath, some "Sign in", .guests, none⟩,
   ⟨"Home", homePath, none, .members, some dashboardPath⟩,
   page "Dashboard" dashboardPath "Security Overview",
   page "Hosts" "/hosts" "Hosts",
   page "HostDetail" "/hosts/:hostId" "Host Detail",
   page "BusinessLines" "/business-lines" "Business Lines",
   page "Policies" "/policies" "Baseline Checks",
   page "PolicyDetail" "/policies/:policyId" "Baseline Check Detail",
   page "PolicyGroups" "/policy-groups" "Policy Groups",
   page "PolicyRules" "/policy-groups/policies/:policyId/rules" "Rules",
   page "Tasks" "/tasks" "Tasks",
   page "BaselineFix" "/baseline/fix" "Baseline Fix",
   page "BaselineFixHistory" "/baseline/fix-history" "Fix History",
   page "SystemCollection" "/system/collection" "Platform License",
   page "SystemComponents" "/system/components" "Components",
   page "SystemInstall" "/system/install" "Installation",
   page "Users" "/users" "Users",
   page "SystemSettings" "/system/settings" "Settings",
   page "SystemNotification" "/system/notification" "Notifications",
   page "SystemReports" "/system/reports" "Reports",
   page "SystemTaskReport" "/system/task-report" "Task Reports",
   page "Alerts" "/alerts" "Alerts",
   page "AlertDetail" "/alerts/:alertId" "Alert Detail",
   page "Inspection" "/system/inspection" "Inspection",
   ⟨"NotFound", notFoundPath, some "Page Not Found", .everyone, none⟩,
   ⟨"ServerError", serverErrorPath, some "Server Error", .everyone, none⟩]

end Route
end SecurityConsole
