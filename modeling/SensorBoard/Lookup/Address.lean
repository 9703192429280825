import SensorBoard.Text.Blank
import SensorBoard.Text.Numeral
import SensorBoard.Text.Percent
import SensorBoard.Text.Split

/-!
# Addresses

Where a request goes: the host, and the target on it. Segments that mean the same place or the place
above are resolved before a request is sent, and characters that may not be sent are escaped. A path
without any of them is sent as it is.
-/

namespace SensorBoard

/-- Where a request goes. -/
structure Address where
  host : String
  /-- The path, and the query if there is one. -/
  target : String
  deriving DecidableEq

namespace Address

/-! ## Steps -/

/-- Does the segment stay where it is? -/
def isSingleDot (segment : String) : Bool := [".", "%2e"].contains (Text.lower segment)

/-- Does the segment lead to the place above? -/
def isDoubleDot (segment : String) : Bool :=
  ["..", ".%2e", "%2e.", "%2e%2e"].contains (Text.lower segment)

/-- The segments below those already passed (the last of them first), without those that are only
steps. A step at the end leaves an empty last segment. -/
def resolveFrom (passed : List String) : List String → List String
  | [] => passed.reverse
  | segment :: rest =>
    let last := rest.isEmpty
    if isDoubleDot segment then
      resolveFrom (if last then "" :: passed.tail else passed.tail) rest
    else if isSingleDot segment then resolveFrom (if last then "" :: passed else passed) rest
    else resolveFrom (segment :: passed) rest

/-- The segments of a path without those that are only steps. -/
def resolve (segments : List String) : List String := resolveFrom [] segments

/-- Segments that are no steps are passed. -/
theorem resolveFrom_append {front : List String}
    (h : ∀ s ∈ front, isSingleDot s = false ∧ isDoubleDot s = false) (passed rest : List String) :
    resolveFrom passed (front ++ rest) = resolveFrom (front.reverse ++ passed) rest := by
  induction front generalizing passed with
  | nil => rfl
  | cons s front ih =>
    obtain ⟨⟨hsingle, hdouble⟩, hfront⟩ := List.forall_mem_cons.mp h
    simp [resolveFrom, hsingle, hdouble, ih hfront]

/-- A path without steps is left as it is. -/
theorem resolve_of_noDots {segments : List String}
    (h : ∀ s ∈ segments, isSingleDot s = false ∧ isDoubleDot s = false) :
    resolve segments = segments := by
  have hpassed := resolveFrom_append h [] []
  rwa [List.append_nil, List.append_nil, resolveFrom, List.reverse_reverse] at hpassed

/-! ## Characters -/

/-- The characters of a text that count in an address: the blanks and controls at the two ends do
not, and tabs and line ends nowhere do. -/
def significant (cs : List Char) : List Char :=
  let isEdge (c : Char) : Bool := decide (c.toNat ≤ 0x20)
  ((cs.dropWhile isEdge).reverse.dropWhile isEdge).reverse.filter fun c =>
    c != '\t' && c != '\n' && c != '\r'

def isSlash (c : Char) : Bool := c == '/' || c == '\\'

/-- Does the character stand outside of printable ASCII, or is it the space? -/
def isUnsent (c : Char) : Bool := decide (c.toNat ≤ 0x20) || decide (0x7F ≤ c.toNat)

/-- A character as it is sent: its bytes are escaped if it is not sent as it is. -/
def sentChar (isEscaped : Char → Bool) (c : Char) : List Char :=
  if isEscaped c then (String.utf8EncodeChar c).flatMap Text.Percent.escape else [c]

/-- A segment as it is sent. Escapes that it has already are kept. -/
def sentSegment (segment : String) : String :=
  String.ofList (segment.toList.flatMap
    (sentChar fun c => isUnsent c || ['"', '<', '>', '\x60', '\x7b', '\x7d'].contains c))

def sentQuery (query : List Char) : String :=
  String.ofList
    (query.flatMap (sentChar fun c => isUnsent c || ['"', '<', '>', '\x27'].contains c))

/-! ## Reading -/

/-- What stands behind the scheme of a text and its slashes, if the scheme is HTTP. -/
def behindScheme? (cs : List Char) : Option (List Char) :=
  if (cs.take 5).map Char.toLower = "http:".toList then some ((cs.drop 5).dropWhile isSlash)
  else none

/-- Is it a host, with or without a number of a connection point? -/
def isHost (cs : List Char) : Bool :=
  let name := cs.takeWhile (· != ':')
  !name.isEmpty && !cs.any Text.isBlank &&
    match cs.dropWhile (· != ':') with
    | [] => true
    | _ :: digits =>
      digits.all Text.isDigit && decide (Text.digitsValue digits < 65536)

/-- The host of an authority: what stands behind the last at sign, if there is one. -/
def hostOf (authority : List Char) : List Char :=
  (authority.reverse.takeWhile (· != '@')).reverse

/-- The address of a text, unless it is none that a request can be sent to. -/
def parse? (url : String) : Option Address := do
  let rest ← behindScheme? (significant url.toList)
  let isEnd (c : Char) : Bool := isSlash c || c == '?' || c == '#'
  let host := hostOf (rest.takeWhile (!isEnd ·))
  -- what follows a number sign is never sent
  let whole := (rest.dropWhile (!isEnd ·)).takeWhile (· != '#')
  let path := (whole.takeWhile (· != '?')).map fun c => if isSlash c then '/' else c
  let query := whole.dropWhile (· != '?')
  let segments := resolve ((Text.splitChars '/' (path.drop 1)).map String.ofList)
  let target := "/" ++ "/".intercalate (segments.map sentSegment) ++ sentQuery query
  if isHost host then return ⟨String.ofList host, target⟩ else none

example : (parse? " http://u@h:80\\a b/..\t/é?'#x").map (fun a => (a.host, a.target)) =
    some ("h:80", "/%C3%A9?%27") := by
  decide +kernel

end Address

end SensorBoard
