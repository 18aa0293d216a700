/-
What can go wrong with a call, and the label under which the outcome of
a call is counted.
-/

namespace SecurityConsole

/-- A rule that a field broke before anything was sent. -/
structure Violation where
  field : String
  code : String
  message : Option String
  deriving DecidableEq, Repr, Inhabited

/-- The failure of a call. -/
inductive ApiError where
  /-- The reply's code was neither success nor 401. -/
  | business (code : Int) (message : String)
  /-- A request sent with a token was answered 401. -/
  | sessionExpired (message : String)
  /-- A request sent without a token was answered 401. -/
  | unauthorized (message : String)
  /-- No reply came. -/
  | network
  /-- The server failed. -/
  | server (status : Nat) (message : String)
  /-- There is no such resource. -/
  | notFound (message : String)
  /-- The user may not do this. -/
  | forbidden (message : String)
  /-- Any other status that is no success. -/
  | http (status : Nat) (message : String)
  /-- The body is not what was asked for. -/
  | decode (reason : String)
  /-- The request was not sent because it breaks rules. -/
  | validation (violations : List Violation)
  deriving DecidableEq, Repr, Inhabited

/-- The kinds of failure, for those who need no more. -/
inductive ErrorKind where
  | business
  | authExpired
  | unauthorized
  | network
  | server
  | notFound
  | forbidden
  | http
  | decode
  | validation
  deriving DecidableEq, Repr, Inhabited

/-- The name of a kind. -/
def ErrorKind.name : ErrorKind → String
  | .business => "Business"
  | .authExpired => "AuthExpired"
  | .unauthorized => "Unauthorized"
  | .network => "Network"
  | .server => "Server"
  | .notFound => "NotFound"
  | .forbidden => "Forbidden"
  | .http => "Http"
  | .decode => "Decode"
  | .validation => "Validation"

namespace ApiError

/-- The kind of a failure. -/
def kind : ApiError → ErrorKind
  | .business .. => .business
  | .sessionExpired .. => .authExpired
  | .unauthorized .. => .unauthorized
  | .network => .network
  | .server .. => .server
  | .notFound .. => .notFound
  | .forbidden .. => .forbidden
  | .http .. => .http
  | .decode .. => .decode
  | .validation .. => .validation

/-- The failure in one line. -/
def display : ApiError → String
  | .business _ message => message
  | .sessionExpired message => message
  | .unauthorized message => message
  | .network => "Network error"
  | .server status message => s!"Server error ({status}): {message}"
  | .notFound message => s!"Not found: {message}"
  | .forbidden message => s!"Forbidden: {message}"
  | .http _ message => message
  | .decode reason => s!"Invalid response: {reason}"
  | .validation violations =>
    "Validation error: " ++ ", ".intercalate (violations.map (·.field))

/-- The message that came from the server or stands in for it; of a
failure without one, the line that tells it. -/
def message : ApiError → String
  | .server _ message => message
  | .notFound message => message
  | .forbidden message => message
  | e => e.display

/-- Whether trying again may help: only when no reply came. -/
def isTransient : ApiError → Bool
  | .network => true
  | _ => false

end ApiError

-- ================================================================ labels

/-- How a call ended, as it is counted. -/
inductive OutcomeLabel where
  | ok
  | businessError
  | sessionExpired
  | unauthorized
  | networkError
  | serverError
  | notFound
  | forbidden
  | httpError
  | decodeError
  | validationError
  deriving DecidableEq, Repr, Inhabited

/-- The name of a label. -/
def OutcomeLabel.name : OutcomeLabel → String
  | .ok => "ok"
  | .businessError => "business_error"
  | .sessionExpired => "session_expired"
  | .unauthorized => "unauthorized"
  | .networkError => "network_error"
  | .serverError => "server_error"
  | .notFound => "not_found"
  | .forbidden => "forbidden"
  | .httpError => "http_error"
  | .decodeError => "decode_error"
  | .validationError => "validation_error"

/-- The label of a failure. -/
def ApiError.label : ApiError → OutcomeLabel
  | .business .. => .businessError
  | .sessionExpired .. => .sessionExpired
  | .unauthorized .. => .unauthorized
  | .network => .networkError
  | .server .. => .serverError
  | .notFound .. => .notFound
  | .forbidden .. => .forbidden
  | .http .. => .httpError
  | .decode .. => .decodeError
  | .validation .. => .validationError

/-- The label of an outcome. -/
def OutcomeLabel.of {α : Type} : Except ApiError α → OutcomeLabel
  | .ok _ => .ok
  | .error e => e.label

end SecurityConsole
