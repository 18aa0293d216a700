/-
The branding of a site: its name, its logo and the addresses it is
reached at.
-/
import SecurityConsole.Schema.Reader

namespace SecurityConsole

open Schema

/-- The branding of a site. -/
structure SiteConfig where
  siteName : String
  siteLogo : String
  siteDomain : String
  /-- The address that agents are told to report to; empty when unset. -/
  backendUrl : String
  deriving DecidableEq, Repr, Inhabited

namespace SiteConfig

/-- The name of a site that has none of its own. -/
def defaultName : String := "Matrix Cloud Security Platform"

/-- The branding of a site that has none of its own. -/
def default : SiteConfig := ⟨defaultName, "", "", ""⟩

/-- The shape of a branding. -/
def schema : Schema :=
  fields
    [fill "site_name" .text, fill "site_logo" .text,
     fill "site_domain" .text, fill "backend_url" .text]

/-- The branding of a value of that shape. -/
def ofValue : schema.Value → SiteConfig
  | (name, logo, domain, backend, ()) => ⟨name, logo, domain, backend⟩

/-- The value of a branding. -/
def toValue (c : SiteConfig) : schema.Value :=
  (c.siteName, c.siteLogo, c.siteDomain, c.backendUrl, ())

/-- A branding as JSON. -/
def toJson (c : SiteConfig) : Json := schema.encode c.toValue

/-- The name to show: the site's own, or the default if it is empty. -/
def displayName (c : SiteConfig) : String :=
  if c.siteName = "" then defaultName else c.siteName

/-- Whether the site has no name of its own. -/
def isUnnamed (c : SiteConfig) : Bool :=
  c.siteName = "" || c.siteName = defaultName

end SiteConfig
end SecurityConsole
