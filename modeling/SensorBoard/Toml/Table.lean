import SensorBoard.Toml.Basic

/-!
# Growing tables

A document fills its tables from several places: headers open tables and rows, and dotted keys reach
into tables below. What is complete is not touched again: a table between braces, a list with
brackets, or a table with a header of its own from outside that header. `none` is such a fault.
-/

namespace SensorBoard.Toml

/-- Changes the table at a path, by way of tables that are made where there are none. Dotted keys do
not go through a table that has a header; a list of tables is entered at its newest row. -/
def within (byKey : Bool) (change : Origin → Entries → Option Entries) :
    List String → Origin → Entries → Option Entries
  | [], origin, entries => change origin entries
  | key :: path, _, entries =>
    match Keyed.find? key entries with
    | none => do
      let made := if byKey then Origin.dotted else .implied
      let inner ← within byKey change path made []
      return Keyed.insert key (.table made inner) entries
    | some (.table origin inner) =>
      -- a header may go through any open table, a dotted key only through those without a header
      if origin = .braces ∨ (byKey = true ∧ origin = .header) then none
      else do
        let inner ← within byKey change path origin inner
        return Keyed.insert key (.table origin inner) entries
    | some (.rows tables) =>
      match tables.getLast? with
      | some (.table origin inner) => do
        let inner ← within byKey change path origin inner
        return Keyed.insert key (.rows (tables.dropLast ++ [.table origin inner])) entries
      | _ => none
    | some _ => none

/-- The steps to the table that holds a key, and the key itself. -/
def splitLast? (path : List String) : Option (List String × String) :=
  path.getLast?.map fun key => (path.dropLast, key)

/-- Opens the table of a header. It may be there already as the place of another table. -/
def openTable (path : List String) (root : Entries) : Option Entries := do
  let (steps, key) ← splitLast? path
  let change : Origin → Entries → Option Entries := fun _ entries =>
    match Keyed.find? key entries with
    | none => some (Keyed.insert key (.table .header []) entries)
    | some (.table .implied inner) => some (Keyed.insert key (.table .header inner) entries)
    | some _ => none
  within false change steps .header root

/-- Opens a new row of a list of tables. -/
def openRow (path : List String) (root : Entries) : Option Entries := do
  let (steps, key) ← splitLast? path
  let change : Origin → Entries → Option Entries := fun _ entries =>
    match Keyed.find? key entries with
    | none => some (Keyed.insert key (.rows [.table .header []]) entries)
    | some (.rows tables) =>
      some (Keyed.insert key (.rows (tables ++ [.table .header []])) entries)
    | some _ => none
  within false change steps .header root

/-- Gives a key of a table its value, once. A dotted key may only end in a table that dotted keys
have made. -/
def assign (path : List String) (value : Toml) (origin : Origin) (entries : Entries) :
    Option Entries := do
  let (steps, key) ← splitLast? path
  let change : Origin → Entries → Option Entries := fun origin entries =>
    -- without steps the table is the one the line is about, and that is never a dotted one
    if (origin = .dotted) ↔ steps = [] then none
    else
      match Keyed.find? key entries with
      | none => some (Keyed.insert key value entries)
      | some _ => none
  within true change steps origin entries

/-- The table between braces of some keys and values. -/
def ofPairs (pairs : List (List String × Toml)) : Option Toml := do
  let entries ← pairs.foldlM (fun entries p => assign p.1 p.2 .braces entries) []
  return .table .braces entries

/-- A line of a document that says something. -/
inductive Statement where
  | table (path : List String)
  | row (path : List String)
  | pair (path : List String) (value : Toml)

/-- The tables of a document so far, and the table that the next lines are about. -/
structure Growth where
  root : Entries
  current : List String

/-- Adds what a line says. -/
def Growth.add (g : Growth) : Statement → Option Growth
  | .table path => do return ⟨← openTable path g.root, path⟩
  | .row path => do return ⟨← openRow path g.root, path⟩
  | .pair path value => do
    return ⟨← within false (assign path value) g.current .header g.root, g.current⟩

def ofStatements (statements : List Statement) : Option Entries := do
  return (← statements.foldlM Growth.add ⟨[], []⟩).root

end SensorBoard.Toml
