import SensorBoard.Text.Split

/-!
# Files

What is found at a path, among files that are given by their paths. A path is walked segment by
segment from the working directory, or from the topmost one if it begins with a slash. No segment
leads on from a place that is not a directory, not even a step back.
-/

namespace SensorBoard

/-- What is found at a path. -/
inductive Files.Entry where
  | directory
  | file (content : ByteArray)

/-- What is found at every path, if anything. -/
abbrev Files : Type := String → Option Files.Entry

namespace Files

/-- A place: the names on the way to it from the working directory, the last one first. The way to a
place outside of the working directory begins with steps up, or with a slash at the top. -/
abbrev Place : Type := List String

/-- The place above; there is none above the topmost one. -/
def above : Place → Place
  | [] => [".."]
  | name :: rest =>
    if name = ".." then ".." :: name :: rest
    else if name = "/" then [name]
    else rest

/-- The place that a segment leads to. -/
def step (place : Place) (segment : String) : Place :=
  if segment = "" ∨ segment = "." then place
  else if segment = ".." then above place
  else segment :: place

/-- The place where a path begins, and its segments. -/
def start (path : String) : Place × List String :=
  match Text.split '/' path with
  | "" :: segments => (["/"], segments)
  | segments => ([], segments)

/-- The place that a path leads to if every directory on the way is there. -/
def placeOf (path : String) : Place := (start path).2.foldl step (start path).1

/-- What is found at a place. The directories on the way to an entry are there, and so are the
working directory and those above it. -/
def entryAt? (entries : List (Place × Entry)) (place : Place) : Option Entry :=
  match entries.lookup place with
  | some entry => some entry
  | none =>
    if place.all (fun name => name = ".." ∨ name = "/") ∨ entries.any (place.isSuffixOf ·.1) then
      some .directory
    else none

/-- What is found behind the segments of a path. -/
def walk? (entries : List (Place × Entry)) : Place → List String → Option Entry
  | place, [] => entryAt? entries place
  | place, segment :: rest =>
    match entryAt? entries place with
    | some .directory => walk? entries (step place segment) rest
    | _ => none

/-- The greatest size of a path, in bytes: with the zero byte at its end it fills a page. -/
def maxPathSize : Nat := 4095

/-- Some entries by their paths; of two at one place the later one stays. Nothing is found at an
empty path, nor at one that is too long. -/
def ofList (entries : List (String × Entry)) : Files := fun path =>
  if path = "" ∨ maxPathSize < path.utf8ByteSize then none
  else
    let places := (entries.map fun e => (placeOf e.1, e.2)).reverse
    walk? places (start path).1 (start path).2

example : (start "a/./b").1 = [] ∧ placeOf "a/../../b/" = ["b", ".."] ∧
    placeOf "/../a" = ["a", "/"] := by
  decide +kernel

end Files

end SensorBoard
