/-
Settings of the platform that administrators change: the branding of the
site, and the images that agents in clusters run from. The session's own
endpoints stand here too.
-/
import SecurityConsole.Credentials
import SecurityConsole.SiteConfig

namespace SecurityConsole.Resource

open Schema

/-- Where images for clusters come from. -/
def kubernetesImageConfig : Schema :=
  fields
    [need "repository" .text, fill "versions" (.list .text),
     fill "default_version" .text]

/-- The path of the branding. -/
def sitePath : String := "/system-config/site"

/-- The path of the images for clusters. -/
def kubernetesImagePath : String := "/system-config/kubernetes-image"

/-- The endpoint that reads the settings of a path. -/
def readSettings (action path : String) (fs : Fields) : Endpoint :=
  { group := "system_config", action, method := .get, path := .tail path
    answer := .value (.record false fs) }

/-- The endpoint that writes the settings of a path. -/
def writeSettings (action path : String) (fs : Fields) : Endpoint :=
  { group := "system_config", action, method := .put, path := .tail path
    body := .argument "config" fs, answer := .value (.record false fs) }

/-- The branding. -/
def siteConfigEndpoint : Endpoint :=
  readSettings "site_config" sitePath SiteConfig.schema.fieldTable

/-- The endpoints of the settings. -/
def systemConfig : List Endpoint :=
  [siteConfigEndpoint,
   writeSettings "update_site_config" sitePath SiteConfig.schema.fieldTable,
   readSettings "kubernetes_image_config" kubernetesImagePath
     kubernetesImageConfig.fieldTable,
   writeSettings "update_kubernetes_image_config" kubernetesImagePath
     kubernetesImageConfig.fieldTable]

-- =============================================================== session

/-- The endpoint that issues tokens. -/
def loginEndpoint : Endpoint :=
  { group := "auth", action := "login", method := .post
    path := .tail "/auth/login"
    body := .argument "request" Credentials.schema.fieldTable
    answer := .value Grant.schema }

/-- The endpoint that revokes a token. -/
def logoutEndpoint : Endpoint :=
  { group := "auth", action := "logout", method := .post
    path := .tail "/auth/logout" }

/-- The endpoint that tells whose a token is. -/
def currentUserEndpoint : Endpoint :=
  { group := "auth", action := "current_user", method := .get
    path := .tail "/auth/me"
    answer := .value SessionUser.schema }

/-- The endpoint that changes the password of a user. -/
def passwordEndpoint : Endpoint :=
  { group := "auth", action := "change_password", method := .post
    path := .tail "/auth/change-password"
    body := .inline PasswordChange.schema.fieldTable }

/-- The endpoints of the session. -/
def auth : List Endpoint :=
  [loginEndpoint, logoutEndpoint, currentUserEndpoint, passwordEndpoint]

end SecurityConsole.Resource
