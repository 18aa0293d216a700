/-
Notices: the short messages that a user of the console sees, the texts
they have, and the queue that holds them until a view takes them.
-/

namespace SecurityConsole

/-- How grave a notice is. -/
inductive NoticeLevel where
  | success
  | info
  | warning
  | error
  deriving DecidableEq, Repr, Inhabited

/-- The name of a level. -/
def NoticeLevel.label : NoticeLevel → String
  | .success => "success"
  | .info => "info"
  | .warning => "warning"
  | .error => "error"

/-- A message for the user. -/
structure Notice where
  level : NoticeLevel
  message : String
  deriving DecidableEq, Repr, Inhabited

namespace Notice

-- ================================================================= texts

/-- A call failed, and nothing more is known. -/
def requestFailed : String := "Request failed"

/-- No reply came. -/
def networkError : String := "Network error, please check your connection"

/-- The session is over. -/
def sessionExpired : String := "Session expired, please sign in again"

/-- The credentials were refused. -/
def invalidCredentials : String := "Invalid username or password"

/-- The server failed. -/
def serverError : String := "Server error, please try again later"

/-- There is no such resource. -/
def notFound : String := "The requested resource does not exist"

/-- The user may not do this. -/
def forbidden : String :=
  "You do not have permission to perform this action"

/-- The text for an operation that went well. -/
def succeeded (operation : String) : String := operation ++ " succeeded"

/-- The text for an operation that went wrong. An empty reason counts as
none. -/
def failed (operation : String) (reason : Option String) : String :=
  let reason := (reason.filter (· ≠ "")).getD
    "operation failed, please try again later"
  operation ++ " failed: " ++ reason

end Notice

-- ================================================================= queue

/-- Notices that wait for a view, the oldest first. -/
structure NoticeQueue where
  waiting : List Notice
  deriving DecidableEq, Repr, Inhabited

namespace NoticeQueue

/-- A queue without notices. -/
def empty : NoticeQueue := ⟨[]⟩

/-- Add a notice at the end. -/
def push (q : NoticeQueue) (n : Notice) : NoticeQueue :=
  ⟨q.waiting ++ [n]⟩

/-- Take all notices. -/
def drain (q : NoticeQueue) : List Notice × NoticeQueue :=
  (q.waiting, empty)

/-- The number of notices. -/
def size (q : NoticeQueue) : Nat := q.waiting.length

end NoticeQueue

-- =================================================================== log

/-- The level of an entry in the log. -/
inductive LogLevel where
  | info
  | warn
  | error
  deriving DecidableEq, Repr, Inhabited

/-- The name of a log level. -/
def LogLevel.name : LogLevel → String
  | .info => "INFO"
  | .warn => "WARN"
  | .error => "ERROR"

/-- An entry that tells of a notice. -/
structure LogEntry where
  level : LogLevel
  noticeLevel : String
  message : String
  deriving DecidableEq, Repr, Inhabited

/-- The entry of a notice in a console without a screen: errors and
warnings keep their weight, all else is information. -/
def Notice.logEntry (n : Notice) : LogEntry :=
  let level := match n.level with
    | .error => .error
    | .warning => .warn
    | _ => .info
  ⟨level, n.level.label, n.message⟩

end SecurityConsole
