/-
Loading the branding of the site, and keeping it up to date.
-/
import SecurityConsole.Console.Job
import SecurityConsole.Resource.System

namespace SecurityConsole.Console

open Resource

/-- The call for the branding. -/
def brandingCall : Call := siteConfigEndpoint.call ⟨(), (), ()⟩

/-- The branding that an outcome gives: the default, if there is none. -/
def brandingOf : brandingCall.Outcome → SiteConfig
  | .ok value => SiteConfig.ofValue value
  | .error _ => .default

/-- Load the branding and cache it. -/
def loadBranding : Job Unit := do
  let outcome ← Job.call brandingCall
  let _ ← Job.perform (.brand (brandingOf outcome))

/-- Begin to listen to signals, and load the branding. -/
def initBranding : Job Unit := do
  let _ ← Job.perform .listen
  loadBranding

end SecurityConsole.Console
