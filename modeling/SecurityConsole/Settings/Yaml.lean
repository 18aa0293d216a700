/-
Trees of settings from YAML text. A text is one document, which is a
mapping or nothing.
-/
import SecurityConsole.Settings.Yaml.Collection
import SecurityConsole.Text.Cut

namespace SecurityConsole.Settings.Yaml

/-- Whether a line marks the beginning or the end of a document. -/
def isMarker (c : Char) (line : List Char) : Bool :=
  line.take 3 = [c, c, c] &&
    (line.drop 3).head?.all fun d => isSpace d || d = '\n' || d = '\r'

/-- Whether a line has nothing but spaces and a comment. -/
def isBlankLine (line : List Char) : Bool :=
  match line.dropWhile isSpace with
  | [] => true
  | c :: _ => c = '#' || c = '\r'

/-- The lines of the one document of a text; `none` if there is another.
What stands before the document's marker has to be blank. -/
def documentLines? (lines : List (List Char)) : Option (List (List Char)) :=
  let body := match lines.dropWhile isBlankLine with
    | line :: rest =>
      if isMarker '-' line then ([' ', ' ', ' '] ++ line.drop 3) :: rest
      else line :: rest
    | [] => []
  let document := body.takeWhile fun l => !(isMarker '-' l || isMarker '.' l)
  let behind := body.drop document.length
  if behind.any (isMarker '-') ∨ (behind.drop 1).any (!isBlankLine ·) then
    none
  else some document

/-- The entries of the mapping that a text is; a text without content is
an empty one. Directives, keys behind a question mark and single pairs
in a list between brackets are not read, and of two equal keys the last
counts. -/
def read? (text : String) : Option (List (String × Tree)) :=
  match documentLines? (Text.cutAt (· = '\n') text.toList) with
  | none => none
  | some lines =>
    let s := marks 0 (List.intercalate ['\n'] lines)
    match below? s with
    | none => none
    | some [] => some []
    | some start =>
      match node? (8 * s.length + 8) 0 start with
      | none => none
      | some (node, rest) =>
        if (skipGap rest).isEmpty then
          match node.tree? [] with
          | some (.table entries, _) => some entries
          | _ => none
        else none

end SecurityConsole.Settings.Yaml
