/-
The locations a user has been at, and the title and icon of the page.
-/

namespace SecurityConsole

-- =============================================================== history

/-- The locations visited, the latest last. -/
structure History where
  entries : List String
  deriving DecidableEq, Repr, Inhabited

namespace History

/-- A history without visits. -/
def empty : History := ⟨[]⟩

/-- The location the user is at. -/
def current? (h : History) : Option String := h.entries.getLast?

/-- Go to a location; going to where one is changes nothing. -/
def visit (h : History) (path : String) : History :=
  if h.current? = some path then h else ⟨h.entries ++ [path]⟩

/-- The history of a sequence of visits. -/
def ofVisits (paths : List String) : History := paths.foldl visit empty

end History

-- ========================================================= document head

/-- The title and the icon of the page. -/
structure DocumentHead where
  title : String
  icon : Option String
  deriving DecidableEq, Repr, Inhabited

namespace DocumentHead

/-- A page without title and icon. -/
def empty : DocumentHead := ⟨"", none⟩

/-- Replace the title. -/
def setTitle (h : DocumentHead) (title : String) : DocumentHead :=
  { h with title }

/-- Replace the icon. -/
def setIcon (h : DocumentHead) (icon : String) : DocumentHead :=
  { h with icon := some icon }

end DocumentHead
end SecurityConsole
