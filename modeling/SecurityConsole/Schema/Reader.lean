/-
Records read straight from JSON text. Members that are no field of the
record are skipped whatever they hold, and a field may occur only once.
-/
import SecurityConsole.Schema.Basic
import SecurityConsole.Json.Document

namespace SecurityConsole.Schema

open Json (Document)
open Text (Bytes)

/-- Read a record from a document. -/
def ofDocument? (s : Schema) (d : Document) : Option s.Value :=
  (d.recordJson? s.fieldTable.names).bind s.decode

/-- Read a record from bytes. -/
def ofBytes? (s : Schema) (bs : Bytes) : Option s.Value :=
  (Document.ofBytes? bs).bind s.ofDocument?

/-- Read a record from a string. -/
def ofString? (s : Schema) (text : String) : Option s.Value :=
  (Document.ofString? text).bind s.ofDocument?

end SecurityConsole.Schema
