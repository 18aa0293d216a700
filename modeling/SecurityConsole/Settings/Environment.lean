/-
Settings from the environment: a variable whose name begins with `APP_`
sets the value at the path that the rest of the name spells, with two
underscores between the names of the path.
-/
import SecurityConsole.Settings.Tree

namespace SecurityConsole.Settings

/-- The variables of an environment, by name. -/
abbrev Environment := List (String × String)

namespace Environment

/-- What the names of settings begin with. -/
def mark : List Char := ['a', 'p', 'p', '_']

/-- A text with a point for every two underscores. -/
def dotted : List Char → List Char
  | '_' :: '_' :: rest => '.' :: dotted rest
  | c :: rest => c :: dotted rest
  | [] => []

/-- The path that a variable sets, if it sets one. -/
def settingPath? (name : String) : Option String :=
  let name := name.toLower.toList
  if name.take mark.length = mark then
    some (String.ofList (dotted (name.drop mark.length)))
  else none

/-- The settings of an environment. -/
def settings (env : Environment) : List (String × Tree) :=
  env.filterMap fun (name, value) =>
    (settingPath? name).map (·, .text value)

/-- The value of a variable. -/
def value? (env : Environment) (name : String) : Option String :=
  env.lookup name

/-- Add a variable, unless there is one of that name. -/
def add (env : Environment) (name value : String) : Environment :=
  if (env.value? name).isSome then env else env ++ [(name, value)]

end Environment
end SecurityConsole.Settings
