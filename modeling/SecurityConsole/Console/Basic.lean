/-
The state of a console: the session, the branding it has cached, the
head of its page, the channel of its listener, and what it has told the
user so far. The steps that change it one at a time stand here; what
they are put together to stands in the modules on jobs.
-/
import SecurityConsole.Session
import SecurityConsole.SiteConfig
import SecurityConsole.Notice
import SecurityConsole.History
import SecurityConsole.Console.Channel
import SecurityConsole.Console.Tally

namespace SecurityConsole

/-- A console. -/
structure Console where
  /-- The address that the paths of endpoints are joined to. -/
  baseUrl : String
  session : Session
  /-- The branding cached. -/
  site : SiteConfig
  head : DocumentHead
  /-- The channel of the listener, once there is one. -/
  channel : Option Channel
  /-- How often a view was loaded. -/
  loads : Nat
  /-- All notices, the oldest first. -/
  notices : List Notice
  /-- All locations visited, the oldest first. -/
  visits : List String
  tally : Tally

namespace Console

/-- A new console on a storage. -/
def start (baseUrl : String) (storage : Storage) : Console :=
  { baseUrl, session := .hydrate storage, site := .default, head := .empty
    channel := none, loads := 0, notices := [], visits := [], tally := [] }

instance : Inhabited Console := ⟨start "" default⟩

/-- Show a notice. -/
def notify (c : Console) (n : Notice) : Console :=
  { c with notices := c.notices ++ [n] }

/-- Go to a location. -/
def visit (c : Console) (path : String) : Console :=
  { c with visits := c.visits ++ [path] }

/-- Count a request that ended. -/
def counted (c : Console) (m : Method) (l : OutcomeLabel) : Console :=
  { c with tally := c.tally.bump (m, l) }

/-- The locations visited as a history. -/
def history (c : Console) : History := History.ofVisits c.visits

-- ============================================================== branding

/-- Cache a branding, and show its name and its logo. A branding without
a logo leaves the icon as it is. -/
def brand (c : Console) (config : SiteConfig) : Console :=
  let head := c.head.setTitle config.displayName
  let head :=
    if config.siteLogo = "" then head else head.setIcon config.siteLogo
  { c with site := config, head }

/-- Whether the branding is still to be loaded. -/
def needsBranding (c : Console) : Bool := c.site.isUnnamed

/-- Listen to signals, unless this console already does. -/
def listen (c : Console) : Console :=
  match c.channel with
  | some _ => c
  | none => { c with channel := some .empty }

/-- Whether the console listens to signals. -/
def isListening (c : Console) : Bool := c.channel.isSome

/-- Signal that the branding has changed on the server. A signal that
nobody listens to is gone. -/
def signal (c : Console) : Console :=
  { c with channel := c.channel.map Channel.send }

-- ========================================================= what is shared

/-- A console with the storage, notices, visits and counters of another.
Two consoles of one user share these. -/
def adopt (c other : Console) : Console :=
  { c with
    session := { c.session with storage := other.session.storage }
    loads := other.loads
    notices := other.notices
    visits := other.visits
    tally := other.tally }

/-- A new console in the place of an old one. -/
def restart (c : Console) : Console :=
  { start c.baseUrl c.session.storage with
    loads := c.loads, notices := c.notices, visits := c.visits
    tally := c.tally }

end Console
end SecurityConsole
