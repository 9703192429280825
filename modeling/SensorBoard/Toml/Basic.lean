import SensorBoard.Keyed

/-!
# TOML values

The values of TOML documents. How a table was written decides what may still be added to it, so a
table remembers that; moments are checked when they are read, and nothing more is kept of them.
-/

namespace SensorBoard

namespace Toml

/-- How a table came about. -/
inductive Origin where
  /-- Between braces: it is complete. -/
  | braces
  /-- By a header of its own, or as a row of a list of tables. -/
  | header
  /-- As the place of a table with a header. -/
  | implied
  /-- By a dotted key. -/
  | dotted
  deriving DecidableEq

end Toml

/-- A value of a TOML document. -/
inductive Toml where
  | text (value : String)
  | integer (value : Int)
  | float (value : Float)
  | boolean (value : Bool)
  /-- A date, a time, or both. -/
  | moment
  | list (items : List Toml)
  /-- A list of tables with headers, the newest row last. -/
  | rows (tables : List Toml)
  | table (origin : Toml.Origin) (entries : List (String × Toml))

namespace Toml

/-- The entries of a table in ascending order of their keys. -/
abbrev Entries : Type := List (String × Toml)

/-- The items of a list, however it is written. -/
def items? : Toml → Option (List Toml)
  | list items => some items
  | rows tables => some tables
  | _ => none

end Toml

end SensorBoard
