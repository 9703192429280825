import SensorBoard.Text.Numeral

/-!
# Media types

Is the media type of a body JSON? A media type is a type, a slash and a subtype, which a last plus
sign divides into its name and a suffix; parameters may follow behind semicolons. It is JSON when
the type is `application` and the name or the suffix is `json`, in letters of any case. Whatever
does not have this form is not JSON either.
-/

namespace SensorBoard.MediaType

/-- May the character stand in a word of a media type? -/
def isWordChar (c : Char) : Bool := c.isAlphanum || "!#$%&'*+-.^_\x60|~".toList.contains c

/-- May the character stand in a header at all, as text? -/
def isHeaderChar (c : Char) : Bool := (decide (' ' ≤ c) && decide (c ≤ '~')) || c == '\t'

/-- Reads a quoted value behind its first character; only spaces may stand between the closing quote
and the next semicolon. `none` is a fault, and otherwise what follows the semicolon. -/
def afterQuoted? : List Char → Option (List Char)
  | [] => none
  | '"' :: rest =>
    match rest.dropWhile (· == ' ') with
    | [] => some []
    | ';' :: rest => some rest
    | _ :: _ => none
  | c :: rest => if c.toNat < 32 then none else afterQuoted? rest

/-- Reads the value of a parameter: a quoted value has at least one character, and a value without
quotes may only be empty at the very end. -/
def afterValue? : List Char → Option (List Char)
  | '"' :: c :: rest => if c.toNat < 32 then none else afterQuoted? rest
  | ['"'] => none
  | cs =>
    match cs.dropWhile isWordChar with
    | [] => some []
    | ';' :: rest => if cs.head? = some ';' then none else some rest
    | _ :: _ => none

/-- Reads one parameter: spaces, a name, an equals sign and a value. -/
def afterParameter? (cs : List Char) : Option (List Char) :=
  let named := cs.dropWhile (· == ' ')
  if named = [] then some []
  else
    match named.takeWhile isWordChar, named.dropWhile isWordChar with
    | _ :: _, '=' :: rest => afterValue? rest
    | _, _ => none

/-- Are these parameters? Every parameter takes at least one character, so that the length is fuel
enough. -/
def areParameters : Nat → List Char → Bool
  | _, [] => true
  | 0, _ => false
  | fuel + 1, cs =>
    match afterParameter? cs with
    | some rest => areParameters fuel rest
    | none => false

/-- The name and the suffix of a subtype; a plus sign in front does not divide. -/
def divide (subtype : List Char) : List Char × Option (List Char) :=
  let suffix := (subtype.reverse.takeWhile (· != '+')).reverse
  let front := subtype.length - suffix.length
  if front ≤ 1 then (subtype, none) else (subtype.take (front - 1), some suffix)

/-- Is it the word `json`? -/
def isJsonWord (cs : List Char) : Bool := cs.map Char.toLower == "json".toList

def isJson (s : String) : Bool :=
  let cs := s.toList
  let type := cs.takeWhile isWordChar
  match cs.dropWhile isWordChar with
  | '/' :: rest =>
    let subtype := rest.takeWhile isWordChar
    let wellFormed := match rest.dropWhile isWordChar with
      | [] => true
      | ';' :: parameters => !subtype.isEmpty && areParameters parameters.length parameters
      | _ :: _ => false
    let (name, suffix) := divide subtype
    cs.all isHeaderChar && wellFormed && type.map Char.toLower == "application".toList &&
      (isJsonWord name || suffix.any isJsonWord)
  | _ => false

end SensorBoard.MediaType
