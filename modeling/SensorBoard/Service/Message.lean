import SensorBoard.Grid.Placement
import SensorBoard.Json.Reader
import SensorBoard.Page.Markup
import SensorBoard.Service.MediaType

/-!
# Requests and responses

What comes to the service over HTTP, and what goes back. A request is refused for its body in a
fixed order: the media type first, then the size, then the JSON, then the shape of the value.
-/

namespace SensorBoard

inductive Method where
  | get
  | head
  | post
  | options
  | other
  deriving DecidableEq

def Method.ofName : String → Method
  | "GET" => .get
  | "HEAD" => .head
  | "POST" => .post
  | "OPTIONS" => .options
  | _ => .other

structure Request where
  method : Method
  /-- The path with a query, as it was sent. -/
  target : String
  contentType : Option String
  body : String

inductive Body where
  | empty
  | json (value : Json)
  | html (page : Page.Markup)
  | notice (text : String)

def Body.contentType : Body → Option String
  | empty => none
  | json _ => some "application/json"
  | html _ => some "text/html; charset=utf-8"
  | notice _ => some "text/plain; charset=utf-8"

/-- A response. A response to a request for the head alone has the media type of its body, but
leaves the body out. -/
structure Response where
  status : Nat
  body : Body
  headOnly : Bool

namespace Response

def ofBody (status : Nat) (body : Body) : Response := ⟨status, body, false⟩

def ofStatus (status : Nat) : Response := ofBody status .empty

end Response

/-- Why a request was refused before it reached the board. -/
inductive Refusal where
  | badPath
  | notJson
  | tooLarge
  | malformedBody
  | mismatchedBody
  deriving DecidableEq

namespace Refusal

def status : Refusal → Nat
  | badPath => 400
  | notJson => 415
  | tooLarge => 413
  | malformedBody => 400
  | mismatchedBody => 422

def message : Refusal → String
  | badPath => "the path does not decode to text"
  | notJson => "expected a body of type application/json"
  | tooLarge => "the body is too large"
  | malformedBody => "the body is not valid JSON"
  | mismatchedBody => "the body does not hold the expected fields"

def response (r : Refusal) : Response := .ofBody r.status (.notice r.message)

/-- The refusal of a body that could not be read. -/
def ofReadFault : ReadFault → Refusal
  | .malformed => malformedBody
  | .mismatched => mismatchedBody

end Refusal

namespace Metrics

/-- The widths that have been read. -/
structure Draft where
  containerWidth : Option Float
  cardWidth : Option Float

/-- The two widths, both of which are needed. -/
def fields : List (Json.Field Draft) :=
  [{ name := "container_width"
     isSet := fun d => d.containerWidth.isSome
     read := fun d cs => do
       let (x, rest) ← Json.readDouble cs
       return ({ d with containerWidth := some x }, rest)
     isOptional := false },
   { name := "card_width"
     isSet := fun d => d.cardWidth.isSome
     read := fun d cs => do
       let (x, rest) ← Json.readDouble cs
       return ({ d with cardWidth := some x }, rest)
     isOptional := false }]

def read : Reader Metrics :=
  Json.readRecord fields ⟨none, none⟩ fun d => do return ⟨← d.containerWidth, ← d.cardWidth⟩

end Metrics

namespace Request

/-- The greatest size of a body, in bytes. -/
def maxBodySize : Nat := 2 * 1024 * 1024

/-- The widths in the body of a request. They are read from its front; what follows is ignored. -/
def metrics (r : Request) : Except Refusal Metrics :=
  if r.contentType.any MediaType.isJson then
    if maxBodySize < r.body.utf8ByteSize then .error .tooLarge
    else (Json.readFront Metrics.read r.body).mapError Refusal.ofReadFault
  else .error .notJson

end Request

end SensorBoard
