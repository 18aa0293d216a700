/-
The settings of a console, and how they are read from a tree.
-/
import SecurityConsole.Settings.Tree

namespace SecurityConsole

/-- How the server is reached. -/
structure ApiSettings where
  /-- The address of the server. -/
  baseUrl : String
  /-- The path that all endpoints share. -/
  sharedPath : String
  /-- How long a reply may take, in seconds. -/
  timeout : Nat
  deriving DecidableEq, Repr, Inhabited

/-- What is logged, and where traces go. -/
structure TelemetrySettings where
  logLevel : String
  endpoint : Option String
  deriving DecidableEq, Repr, Inhabited

/-- Where the console begins, and who is signed in then. -/
structure StartSettings where
  startPath : String
  username : Option String
  password : Option String
  deriving DecidableEq, Repr, Inhabited

/-- The settings of a console. -/
structure Settings where
  api : ApiSettings
  /-- The file of the session; without one it is kept in memory. -/
  storagePath : Option String
  telemetry : TelemetrySettings
  start : StartSettings
  deriving DecidableEq, Repr, Inhabited

namespace Settings

-- =============================================================== defaults

/-- The path that endpoints share unless set otherwise. -/
def defaultSharedPath : String := "/api/v1"

/-- The time that a reply may take unless set otherwise. -/
def defaultTimeout : Nat := 30

/-- What is logged unless set otherwise. -/
def defaultLogLevel : String := "info"

/-- Where the console begins unless set otherwise. -/
def defaultStartPath : String := "/dashboard"

-- =============================================================== sections

/-- A section: its values by name, or in a fixed order. -/
inductive Section where
  | named (entries : List (String × Tree))
  | ordered (items : List Tree)

/-- The section that a value is. -/
def Section.of? : Tree → Option Section
  | .table es => some (.named es)
  | .list items => some (.ordered items)
  | _ => none

/-- The value of a name, or at a place. -/
def Section.value? (s : Section) (place : Nat) (name : String) :
    Option Tree :=
  match s with
  | .named es => es.lookup name
  | .ordered items => items[place]?

/-- A text, or the default if it is not there. -/
def textOr (default : String) : Option Tree → Option String
  | none => some default
  | some t => t.text?

/-- A number, or the default if it is not there. -/
def natOr (default : Nat) : Option Tree → Option Nat
  | none => some default
  | some t => t.nat?

/-- A text that may be missing. In a section in a fixed order it must be
there, but it may be nothing. -/
def Section.optional? (s : Section) (place : Nat) (name : String) :
    Option (Option String) :=
  match s, s.value? place name with
  | .named _, none => some none
  | .ordered _, none => none
  | _, some .null => some none
  | _, some t => t.text?.map some

-- ================================================================ reading

/-- Read the settings of the server. -/
def readApi? (t : Tree) : Option ApiSettings := do
  let s ← Section.of? t
  let baseUrl ← (← s.value? 0 "base_url").text?
  let sharedPath ← textOr defaultSharedPath (s.value? 1 "prefix")
  let timeout ← natOr defaultTimeout (s.value? 2 "timeout_secs")
  return { baseUrl, sharedPath, timeout }

/-- Read the settings of the storage. -/
def readStorage? (t : Tree) : Option (Option String) :=
  (Section.of? t).bind (·.optional? 0 "path")

/-- Read the settings of telemetry. -/
def readTelemetry? (t : Tree) : Option TelemetrySettings := do
  let s ← Section.of? t
  let logLevel ← textOr defaultLogLevel (s.value? 0 "log_level")
  let endpoint ← s.optional? 1 "otlp_endpoint"
  return { logLevel, endpoint }

/-- Read the settings of the start. -/
def readStart? (t : Tree) : Option StartSettings := do
  let s ← Section.of? t
  let startPath ← textOr defaultStartPath (s.value? 0 "start_path")
  let username ← s.optional? 1 "username"
  let password ← s.optional? 2 "password"
  return { startPath, username, password }

/-- A section, or an empty one if it is not there. -/
def sectionOf (t : Tree) (name : String) : Tree :=
  (t.get? name).getD (.table [])

/-- Read the settings. Only the address of the server has to be set. -/
def ofTree? (t : Tree) : Option Settings := do
  let api ← readApi? (← t.get? "api")
  let storagePath ← readStorage? (sectionOf t "storage")
  let telemetry ← readTelemetry? (sectionOf t "telemetry")
  let start ← readStart? (sectionOf t "console")
  return { api, storagePath, telemetry, start }

end Settings
end SecurityConsole
