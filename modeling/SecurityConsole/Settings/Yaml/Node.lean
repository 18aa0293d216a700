/-
The nodes of YAML text: scalars, lists and tables, some of them with an
anchor, and aliases that stand for the node with an anchor. Following
the aliases gives a tree of settings.
-/
import SecurityConsole.Settings.Tree

namespace SecurityConsole.Settings.Yaml

/-- A node. -/
inductive Node where
  | leaf (value : Tree)
  | list (items : List Node)
  | table (entries : List (Node × Node))
  /-- A node that aliases further on may refer to. -/
  | anchored (anchor : String) (node : Node)
  /-- The node before with that anchor. -/
  | alias (anchor : String)
  deriving Inhabited

/-- The trees of the anchors so far, the latest first. -/
abbrev Anchors := List (String × Tree)

/-- The name that a key is; only texts and integers are names. -/
def name? : Tree → Option String
  | .text s => some s
  | .int n => some (toString n)
  | _ => none

namespace Node

mutual
/-- The tree of a node, and the anchors known behind it; `none` if an
alias is unknown or a key is no name. -/
def tree? (known : Anchors) : Node → Option (Tree × Anchors)
  | .leaf value => some (value, known)
  | .list items => (trees? known [] items).map fun (ts, k) => (.list ts, k)
  | .table entries =>
    (entries? known [] entries).map fun (es, k) => (.table es, k)
  | .anchored anchor node =>
    (node.tree? known).map fun (t, k) => (t, (anchor, t) :: k)
  | .alias anchor => (known.lookup anchor).map fun t => (t, known)

/-- The trees of the items of a list; those read come last first. -/
def trees? (known : Anchors) (read : List Tree) :
    List Node → Option (List Tree × Anchors)
  | [] => some (read.reverse, known)
  | item :: rest =>
    match item.tree? known with
    | some (t, known) => trees? known (t :: read) rest
    | none => none

/-- The entries of a table, of which the last under a name counts. -/
def entries? (known : Anchors) (read : List (String × Tree)) :
    List (Node × Node) → Option (List (String × Tree) × Anchors)
  | [] => some (read, known)
  | (key, value) :: rest =>
    match key.tree? known with
    | none => none
    | some (k, known) =>
      match name? k, value.tree? known with
      | some name, some (t, known) =>
        entries? known (Tree.putEntry name t read) rest
      | _, _ => none
end

end Node
end SecurityConsole.Settings.Yaml
