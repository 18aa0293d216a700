/-
Views: the pages behind routes, which are loaded when a navigation
reaches them, and how loading or navigating can fail.
-/
import SecurityConsole.Route.Table

namespace SecurityConsole.Route

/-- A page that was loaded. -/
structure View where
  name : String
  path : String
  params : Params
  deriving DecidableEq, Repr, Inhabited

/-- Why a page was not loaded. -/
inductive ViewFailure where
  /-- Its code could not be fetched. -/
  | moduleFetch (reason : String)
  /-- Its code failed. -/
  | render (name reason : String)
  deriving DecidableEq, Repr, Inhabited

/-- The failure in one line. -/
def ViewFailure.message : ViewFailure → String
  | .moduleFetch reason => "Failed to fetch view module: " ++ reason
  | .render name reason => s!"Failed to render view {name}: {reason}"

/-- Where a navigation goes when the page at a path was not loaded: code
that could not be fetched leads to the page for that, unless it was that
page's own. -/
def ViewFailure.detour? (path : String) : ViewFailure → Option String
  | .moduleFetch _ =>
    if path = serverErrorPath then none else some serverErrorPath
  | .render _ _ => none

/-- The view of a match as it stands. -/
def Match.view (m : Match) : View := ⟨m.route.name, m.path, m.params⟩

/-- A loader of views. It may treat each load differently, so it gets the
number of loads before. -/
abbrev Loader := Nat → Match → Except ViewFailure View

/-- The loader of views that are always there. -/
def staticViews : Loader := fun _ m => .ok m.view

/-- The loader of views that are always there, except those of some
routes. -/
def viewsExcept (failures : List (String × ViewFailure)) : Loader :=
  fun _ m =>
    match failures.lookup m.route.name with
    | some failure => .error failure
    | none => .ok m.view

/-- Why a navigation did not arrive. -/
inductive NavigationError where
  /-- Redirects went on too long; the location is the first one. -/
  | redirectLoop (location : String)
  | view (failure : ViewFailure)
  deriving DecidableEq, Repr, Inhabited

/-- The name of the kind of error. -/
def NavigationError.name : NavigationError → String
  | .redirectLoop _ => "RedirectLoop"
  | .view (.moduleFetch _) => "ModuleFetch"
  | .view (.render _ _) => "Render"

/-- The error in one line. -/
def NavigationError.message : NavigationError → String
  | .redirectLoop location =>
    "Too many redirects while navigating to " ++ location
  | .view failure => failure.message

/-- What the guard says about entering a route. -/
inductive Decision where
  | proceed
  | redirect (target : String)
  deriving DecidableEq, Repr, Inhabited

/-- What the guard says by what is known here: `none` if the server must
vouch for the session first. -/
def Access.decision? (access : Access) (signedIn : Bool) : Option Decision :=
  match access, signedIn with
  | .guests, true => some (.redirect homePath)
  | .guests, false => some .proceed
  | .everyone, _ => some .proceed
  | .members, false => some (.redirect loginPath)
  | .members, true => none

end SecurityConsole.Route
