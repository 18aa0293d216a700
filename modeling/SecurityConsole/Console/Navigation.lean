/-
Navigating: find the route of a location, ask the guard, load the view.
Each of the three may send the navigation elsewhere; after nine routes it
gives up. Only a navigation that arrives is a visit.
-/
import SecurityConsole.Console.SignIn
import SecurityConsole.Console.Branding
import SecurityConsole.Route.View

namespace SecurityConsole.Console

open Route

-- ================================================================== guard

/-- The title of the page of a route. -/
def pageTitle (route : Definition) (site : String) : String :=
  match route.title with
  | some title => title ++ " - " ++ site
  | none => site

/-- Before a page is entered: load the branding if it is missing, set the
title, and see who may enter. Those who are signed in enter only if the
server still vouches for them. -/
def guard (route : Definition) : Job Decision := do
  if ← Job.ask needsBranding then initBranding
  let site ← Job.ask fun c => c.site.displayName
  let _ ← Job.perform (.title (pageTitle route site))
  let signedIn ← Job.ask fun c => c.session.isAuthenticated
  match route.access.decision? signedIn with
  | some decision => return decision
  | none =>
    revalidate
    if ← Job.ask fun c => c.session.isAuthenticated then return .proceed
    else return .redirect loginPath

-- ============================================================ navigation

/-- How many routes a navigation looks at before it gives up. -/
def routeLimit : Nat := 9

/-- Load the view of a match. -/
def loadView (loader : Loader) (m : Match) :
    Job (Except ViewFailure View) := do
  let loads ← Job.ask (·.loads)
  let _ ← Job.perform .load
  return loader loads m

/-- Go to a target that a navigation from `origin` leads to, looking at
no more than the given number of routes. -/
def navigateTo (table : Table) (loader : Loader) (origin : String) :
    Nat → String → Job (Except NavigationError View)
  | 0, _ => .done (.error (.redirectLoop origin))
  | n + 1, target =>
    match table.resolve target with
    | .redirect next => navigateTo table loader origin n next
    | .found m => do
      match ← guard m.route with
      | .redirect next => navigateTo table loader origin n next
      | .proceed =>
        match ← loadView loader m with
        | .ok view =>
          let _ ← Job.perform (.visit target)
          return .ok view
        | .error failure =>
          match ViewFailure.detour? m.path failure with
          | some next => navigateTo table loader origin n next
          | none => return .error (.view failure)

/-- Navigate to a location. -/
def navigate (table : Table) (loader : Loader) (location : String) :
    Job (Except NavigationError View) :=
  navigateTo table loader location routeLimit location

end SecurityConsole.Console
