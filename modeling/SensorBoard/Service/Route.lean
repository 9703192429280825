import SensorBoard.Text.Percent
import SensorBoard.Text.Split

/-!
# Routes

The four places of the service. A path is cut into segments before anything in it is decoded, so
that an encoded slash does not begin a new segment. A name may be empty, and then its segment is.
-/

namespace SensorBoard

/-- A place of the service; names are still encoded. -/
inductive Route where
  | page
  | devices
  | toggle (device sensor : String)
  | reload
  deriving DecidableEq

namespace Route

/-- May the character stand in the name of a scheme? -/
def isSchemeChar (c : Char) : Bool := c.isAlphanum || ['+', '-', '.', '~'].contains c

/-- What stands behind the scheme of a target, if the target names one. -/
def behindScheme? (cs : List Char) : Option (List Char) :=
  match cs.dropWhile isSchemeChar with
  | ':' :: '/' :: '/' :: rest => some rest
  | _ => none

/-- The characters of a path up to its query or its fragment. -/
def untilQuery (cs : List Char) : List Char := cs.takeWhile fun c => c != '?' && c != '#'

/-- The path of a target, without a query or a fragment. A target with a scheme names the server
before the path, and its path may be left out for the topmost one. -/
def pathOf (target : String) : String :=
  match behindScheme? target.toList with
  | none => String.ofList (untilQuery target.toList)
  | some rest =>
    match untilQuery (rest.dropWhile fun c => c != '/' && c != '?' && c != '#') with
    | [] => "/"
    | path => String.ofList path

/-- The place with a path, given by its segments. -/
def ofSegments? : List String → Option Route
  | ["", ""] => some page
  | ["", "api", "devices"] => some devices
  | ["", "api", "devices", device, "sensors", sensor, "toggle"] => some (toggle device sensor)
  | ["", "api", "reload"] => some reload
  | _ => none

def ofTarget? (target : String) : Option Route := ofSegments? (Text.split '/' (pathOf target))

example : ofTarget? "http://board:3000?x" = some page ∧
    ofTarget? "http://board:3000/api/reload#x" = some reload ∧
    ofTarget? "//board:3000/api/reload" = none := by
  decide +kernel

end Route

end SensorBoard
