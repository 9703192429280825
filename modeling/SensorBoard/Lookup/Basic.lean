import SensorBoard.Text.Percent

/-!
# Lookups

The four questions a device server answers, and the path of each. A path is a list of segments:
fixed words, and one percent-encoded segment for every name in the question.
-/

namespace SensorBoard

/-- A question to the device server. -/
inductive Lookup where
  | devices
  | sensors (device : String)
  /-- What is the value of a resource now? -/
  | value (device resource : String)
  /-- What were the values of a resource? -/
  | history (device resource : String)
  deriving DecidableEq

namespace Lookup

open Text.Percent (encode)

/-- The segments of the path of a question. -/
def segments : Lookup → List String
  | devices => ["devices", "list"]
  | sensors device => ["devices", encode device, "sensors", "list"]
  | value device resource => ["devices", encode device, "sensors", encode resource, "value"]
  | history device resource => ["devices", encode device, "sensors", encode resource, "stat"]

/-- The path of a question, below the base address of the server. -/
def path (lookup : Lookup) : String := "/".intercalate lookup.segments

end Lookup

/-- Why a question was not answered. -/
inductive LookupError where
  /-- The server could not be reached, or the connection broke. -/
  | unreachable (url : String)
  | status (url : String) (code : Nat)
  /-- The server's answer makes no sense. -/
  | undecodable (detail : String)

namespace LookupError

def message : LookupError → String
  | unreachable url => "request to " ++ url ++ " failed"
  | status url code => url ++ " answered with status " ++ Text.natText code
  | undecodable detail => "could not decode response: " ++ detail

end LookupError

end SensorBoard
