/-
Where the settings of a console come from: a file that has to be there, a
file of local changes, variables from a file, and the environment. Each
goes before those named earlier, leaf by leaf.
-/
import SecurityConsole.Settings.Basic
import SecurityConsole.Settings.Yaml
import SecurityConsole.Settings.Dotenv

namespace SecurityConsole.Settings

/-- The texts that settings are read from. -/
structure Sources where
  /-- The file that has to be there. -/
  base : Option String
  /-- The file of local changes. -/
  localChanges : Option String
  /-- The file of variables. -/
  variableFile : Option String
  environment : Environment
  deriving DecidableEq, Repr, Inhabited

namespace Sources

/-- The environment with the variables of the file. -/
def variablesSet (s : Sources) : Environment :=
  match s.variableFile with
  | some text => Dotenv.load s.environment text
  | none => s.environment

/-- All sources merged; `none` if a file cannot be read. -/
def merged? (s : Sources) : Option Tree := do
  let base ← Yaml.read? (← s.base)
  let changes ← match s.localChanges with
    | some text => Yaml.read? text
    | none => some []
  return ((Tree.overlay (.table []) base).overlay changes).overlay
    (Environment.settings s.variablesSet)

/-- The settings of all sources; `none` if they cannot be read. -/
def settings? (s : Sources) : Option Settings := s.merged?.bind Settings.ofTree?

end Sources
end SecurityConsole.Settings
