import SensorBoard.Decimal.Reader
import SensorBoard.Json.Basic

/-!
# Reading JSON

Readers take what is left of a text and give a value together with what is left behind it. The first
fault in reading order is the one reported: the text is no JSON there, or the value there is of
the wrong kind. What a record does not ask for is skipped: it has to be JSON, but its numbers may
be of any size and its strings may hold escapes that name no character.
-/

namespace SensorBoard

/-- Why a JSON text was refused. -/
inductive ReadFault where
  /-- The text is no JSON, or holds a number or a string without a value. -/
  | malformed
  /-- The text is JSON so far, but not of the expected kind. -/
  | mismatched
  deriving DecidableEq

/-- A reader of a value from the left end of a text. -/
abbrev Reader (α : Type) : Type := List Char → Except ReadFault (α × List Char)

namespace Json

open Text

/-- Is the character a blank of JSON? -/
def isSpace (c : Char) : Bool := c == ' ' || c == '\t' || c == '\n' || c == '\r'

/-- What is left behind leading blanks. -/
def skipSpace (cs : List Char) : List Char := cs.dropWhile isSpace

/-! ## Strings -/

def hexFour? : List Char → Option (Nat × List Char)
  | a :: b :: c :: d :: rest => do
    let a ← hexValue? a
    let b ← hexValue? b
    let c ← hexValue? c
    let d ← hexValue? d
    return (((a * 16 + b) * 16 + c) * 16 + d, rest)
  | _ => none

/-- The character behind a backslash that one letter names. -/
def escaped? : Char → Option Char
  | '"' => some '"'
  | '\\' => some '\\'
  | '/' => some '/'
  | 'b' => some '\x08'
  | 'f' => some '\x0c'
  | 'n' => some '\n'
  | 'r' => some '\r'
  | 't' => some '\t'
  | _ => none

/-- The second half of a surrogate pair, as an escape, joined to its first half. -/
def joinSurrogates? (high : Nat) : List Char → Option (Char × List Char)
  | '\\' :: 'u' :: rest => do
    let (low, rest) ← hexFour? rest
    if 0xDC00 ≤ low ∧ low < 0xE000 then
      let c ← charOf? (0x10000 + (high - 0xD800) * 0x400 + (low - 0xDC00))
      return (c, rest)
    else none
  | _ => none

/-- The character of an escape by code point, behind its `u`. In a strict reading a surrogate needs
its other half. -/
def codePoint? (strict : Bool) (cs : List Char) : Option (Char × List Char) := do
  let (n, rest) ← hexFour? cs
  match charOf? n with
  | some c => return (c, rest)
  | none =>
    if !strict then return ('\ufffd', rest)
    else if n < 0xDC00 then joinSurrogates? n rest
    else none

/-- The next character of a string, or `none` in its place at the closing quote. -/
def stringStep? (strict : Bool) : List Char → Option (Option Char × List Char)
  | [] => none
  | '"' :: rest => some (none, rest)
  | '\\' :: 'u' :: rest => (codePoint? strict rest).map fun (c, rest) => (some c, rest)
  | '\\' :: e :: rest => (escaped? e).map fun c => (some c, rest)
  | c :: rest => if c = '\\' ∨ c.toNat < 0x20 then none else some (some c, rest)

/-- The characters of a string up to its closing quote; every round takes at least one character, so
that the length of the text is fuel enough. -/
def stringLoop (strict : Bool) : Nat → List Char → Reader (List Char)
  | 0, _, _ => .error .malformed
  | fuel + 1, read, cs =>
    match stringStep? strict cs with
    | none => .error .malformed
    | some (none, rest) => .ok (read.reverse, rest)
    | some (some c, rest) => stringLoop strict fuel (c :: read) rest

/-- A string behind its opening quote. -/
def readString (strict : Bool) : Reader String := fun cs => do
  let (chars, rest) ← stringLoop strict (cs.length + 1) [] cs
  return (String.ofList chars, rest)

/-! ## Numbers -/

structure NumberToken where
  negative : Bool
  parts : Decimal.Parts
  /-- It has neither a fraction nor an exponent. -/
  isInteger : Bool

/-- The digits at the left end, of which there has to be one. -/
def someDigits? (cs : List Char) : Option (List Char × List Char) :=
  let digits := cs.takeWhile isDigit
  if digits = [] then none else some (digits, cs.dropWhile isDigit)

/-- The digits before the point: a leading zero stands alone. -/
def wholeDigits? (cs : List Char) : Option (List Char × List Char) := do
  let (digits, rest) ← someDigits? cs
  if digits.head? = some '0' ∧ digits.length ≠ 1 then none else return (digits, rest)

/-- The digits behind a point, if there is a point. -/
def fractionDigits? : List Char → Option (List Char × List Char)
  | '.' :: cs => someDigits? cs
  | cs => some ([], cs)

/-- An exponent, if there is one. -/
def exponent? (cs : List Char) : Option (Option Int × List Char) :=
  match cs with
  | e :: rest =>
    if e = 'e' ∨ e = 'E' then
      let (negative, rest) := match rest with
        | '+' :: rest => (false, rest)
        | '-' :: rest => (true, rest)
        | rest => (false, rest)
      (someDigits? rest).map fun (digits, rest) =>
        let n := Int.ofNat (digitsValue digits)
        (some (if negative then -n else n), rest)
    else some (none, cs)
  | [] => some (none, cs)

/-- A written number at the left end. -/
def numberToken? (cs : List Char) : Option (NumberToken × List Char) := do
  let (negative, cs) := match cs with
    | '-' :: rest => (true, rest)
    | rest => (false, rest)
  let (whole, cs) ← wholeDigits? cs
  let (fraction, cs) ← fractionDigits? cs
  let (exponent, cs) ← exponent? cs
  return (⟨negative, ⟨whole, fraction, exponent.getD 0⟩, fraction.isEmpty && exponent.isNone⟩, cs)

/-- The value of a written number, unless it is too large: an integer that fits 64 bits stays one,
and a negative zero does not count as an integer. -/
def NumberToken.value? (t : NumberToken) : Option JsonNumber :=
  let n := digitsValue t.parts.whole
  if t.isInteger ∧ ¬t.negative ∧ n < Decimal.wordSize then some (.int n)
  else if t.isInteger ∧ t.negative ∧ 0 < n ∧ n ≤ Decimal.wordHalf then some (.int (-n))
  else t.parts.scaled?.map fun x => .float (if t.negative then -x else x)

/-- A number; one that is skipped needs no value. -/
def readNumber (strict : Bool) : Reader JsonNumber := fun cs =>
  match numberToken? cs with
  | none => .error .malformed
  | some (token, rest) =>
    match token.value? with
    | some n => .ok (n, rest)
    | none => if strict then .error .malformed else .ok (.int 0, rest)

/-! ## Values -/

/-- Takes a word off the left end. -/
def expectWord : List Char → Reader Unit
  | [], cs => .ok ((), cs)
  | w :: ws, c :: cs => if w = c then expectWord ws cs else .error .malformed
  | _ :: _, [] => .error .malformed

/-- Takes one character off the left end, behind blanks. -/
def expectChar (c : Char) : Reader Unit := fun cs => expectWord [c] (skipSpace cs)

/-- Where the next item of a list starts: `none` at the closing bracket, which stays. -/
def nextItem (first : Bool) (cs : List Char) : Except ReadFault (Option (List Char)) :=
  match skipSpace cs with
  | ']' :: _ => .ok none
  | ',' :: rest =>
    if first then .ok (some (',' :: rest))
    else
      match skipSpace rest with
      | ']' :: _ => .error .malformed
      | rest => .ok (some rest)
  | rest => if first then .ok (some rest) else .error .malformed

/-- The name of the next member of an object: `none` at the closing brace, which is taken. -/
def nextName (first : Bool) : Reader (Option String) := fun cs =>
  match skipSpace cs with
  | '\x7d' :: rest => .ok (none, rest)
  | '"' :: rest => if first then name rest else .error .malformed
  | ',' :: rest =>
    match skipSpace rest with
    | '"' :: rest => if first then .error .malformed else name rest
    | _ => .error .malformed
  | _ => .error .malformed
where
  name : Reader (Option String) := fun cs => do
    let (s, rest) ← readString true cs
    return (some s, rest)

/-- The name of the next member of an object that is skipped. -/
def skipName (first : Bool) : Reader Bool := fun cs =>
  match skipSpace cs with
  | '\x7d' :: rest => .ok (false, rest)
  | '"' :: rest => if first then name rest else .error .malformed
  | ',' :: rest =>
    match skipSpace rest with
    | '"' :: rest => if first then .error .malformed else name rest
    | _ => .error .malformed
  | _ => .error .malformed
where
  name : Reader Bool := fun cs => do
    let (_, rest) ← readString false cs
    return (true, rest)

mutual

/-- A value inside at most `depth` further levels. Every round takes at least one character, so that
twice the length of the text is fuel enough. -/
def valueLoop : Nat → Nat → Reader Json
  | 0, _, _ => .error .malformed
  | fuel + 1, depth, cs =>
    match skipSpace cs with
    | 'n' :: rest => do let (_, rest) ← expectWord "ull".toList rest; return (.null, rest)
    | 't' :: rest => do let (_, rest) ← expectWord "rue".toList rest; return (.bool true, rest)
    | 'f' :: rest => do let (_, rest) ← expectWord "alse".toList rest; return (.bool false, rest)
    | '"' :: rest => do let (s, rest) ← readString true rest; return (.text s, rest)
    | '[' :: rest =>
      if depth = 0 then .error .malformed
      else do
        let (items, rest) ← itemsLoop fuel (depth - 1) [] rest
        return (.list items, rest)
    | '\x7b' :: rest =>
      if depth = 0 then .error .malformed
      else do
        let (members, rest) ← membersLoop fuel (depth - 1) none rest
        return (.object members, rest)
    | rest => do let (n, rest) ← readNumber true rest; return (.number n, rest)

/-- The items of a list behind those already read. -/
def itemsLoop : Nat → Nat → List Json → Reader (List Json)
  | 0, _, _, _ => .error .malformed
  | fuel + 1, depth, read, cs => do
    match ← nextItem read.isEmpty cs with
    | none => do let (_, rest) ← expectChar ']' cs; return (read.reverse, rest)
    | some rest =>
      let (j, rest) ← valueLoop fuel depth rest
      itemsLoop fuel depth (j :: read) rest

/-- The members of an object behind those already read: they are kept in ascending order of their
names, and of two with one name the later one stays. -/
def membersLoop : Nat → Nat → Option (List (String × Json)) → Reader (List (String × Json))
  | 0, _, _, _ => .error .malformed
  | fuel + 1, depth, read, cs => do
    match ← nextName read.isNone cs with
    | (none, rest) => return (read.getD [], rest)
    | (some name, rest) =>
      let (_, rest) ← expectChar ':' rest
      let (j, rest) ← valueLoop fuel depth rest
      membersLoop fuel depth (some (Keyed.insert name j (read.getD []))) rest

end

mutual

/-- Skips a value. -/
def skipLoop : Nat → Reader Unit
  | 0, _ => .error .malformed
  | fuel + 1, cs =>
    match skipSpace cs with
    | 'n' :: rest => expectWord "ull".toList rest
    | 't' :: rest => expectWord "rue".toList rest
    | 'f' :: rest => expectWord "alse".toList rest
    | '"' :: rest => do let (_, rest) ← readString false rest; return ((), rest)
    | '[' :: rest => skipItems fuel true rest
    | '\x7b' :: rest => skipMembers fuel true rest
    | rest => do let (_, rest) ← readNumber false rest; return ((), rest)

def skipItems : Nat → Bool → Reader Unit
  | 0, _, _ => .error .malformed
  | fuel + 1, first, cs => do
    match ← nextItem first cs with
    | none => expectChar ']' cs
    | some rest =>
      let (_, rest) ← skipLoop fuel rest
      skipItems fuel false rest

def skipMembers : Nat → Bool → Reader Unit
  | 0, _, _ => .error .malformed
  | fuel + 1, first, cs => do
    match ← skipName first cs with
    | (false, rest) => return ((), rest)
    | (true, rest) =>
      let (_, rest) ← expectChar ':' rest
      let (_, rest) ← skipLoop fuel rest
      skipMembers fuel false rest

end

/-- The greatest number of levels of lists and objects in a value that is kept. -/
def maxDepth : Nat := 127

/-- A value that is kept, inside `outer` levels already open. -/
def readValue (outer : Nat) : Reader Json := fun cs =>
  valueLoop (2 * cs.length + 2) (maxDepth - outer) cs

/-- A value that nobody asks for. -/
def skipValue : Reader Unit := fun cs => skipLoop (2 * cs.length + 2) cs

/-- The fault of a value of the wrong kind. A word, a number or a string is read to its end first
and may be faulty itself; a list or an object is not. -/
def mismatch (cs : List Char) : ReadFault :=
  match skipSpace cs with
  | '[' :: _ => .mismatched
  | '\x7b' :: _ => .mismatched
  | cs =>
    match valueLoop 1 0 cs with
    | .ok _ => .mismatched
    | .error fault => fault

/-- A number, as a double. -/
def readDouble : Reader Float := fun cs =>
  match skipSpace cs with
  | c :: rest =>
    if c = '-' ∨ isDigit c = true then do
      let (n, rest) ← readNumber true (c :: rest)
      return (n.toFloat, rest)
    else .error (mismatch (c :: rest))
  | [] => .error .malformed

def readText : Reader String := fun cs =>
  match skipSpace cs with
  | '"' :: rest => readString true rest
  | rest => .error (mismatch rest)

/-- A text or `null`. -/
def readOptionalText : Reader (Option String) := fun cs =>
  match skipSpace cs with
  | 'n' :: rest => do let (_, rest) ← expectWord "ull".toList rest; return (none, rest)
  | rest => do let (s, rest) ← readText rest; return (some s, rest)

/-! ## Records

A record is written as an object with its fields as members, or as a list of its fields in order.
An object may have other members, which are skipped; it may not name a field twice. -/

/-- A field of a record that is gathered in a state. -/
structure Field (σ : Type) where
  name : String
  /-- Has the state the field already? -/
  isSet : σ → Bool
  /-- Reads the field into the state. -/
  read : σ → Reader σ
  /-- May the field be missing? -/
  isOptional : Bool

variable {σ α : Type}

/-- Reads members into the state until the object is closed. -/
def memberFields (fields : List (Field σ)) : Nat → Bool → σ → Reader σ
  | 0, _, _, _ => .error .malformed
  | fuel + 1, first, state, cs => do
    match ← nextName first cs with
    | (none, rest) => return (state, rest)
    | (some name, rest) =>
      match fields.find? (fun f => f.name == name) with
      | none =>
        let (_, rest) ← expectChar ':' rest
        let (_, rest) ← skipValue rest
        memberFields fields fuel false state rest
      | some field =>
        if field.isSet state then .error .mismatched
        else
          let (_, rest) ← expectChar ':' rest
          let (state, rest) ← field.read state rest
          memberFields fields fuel false state rest

/-- Reads the items of a list into the fields in order. -/
def itemFields : List (Field σ) → Bool → σ → Reader σ
  | [], _, state, cs => .ok (state, cs)
  | field :: fields, first, state, cs => do
    match ← nextItem first cs with
    | none => if field.isOptional then itemFields fields first state cs else .error .mismatched
    | some rest =>
      let (state, rest) ← field.read state rest
      itemFields fields false state rest

/-- Reads a record; `finish` is `none` when a field is missing. -/
def readRecord (fields : List (Field σ)) (start : σ) (finish : σ → Option α) : Reader α := fun cs =>
  match skipSpace cs with
  | '\x7b' :: rest => do
    let (state, rest) ← memberFields fields (rest.length + 1) true start rest
    match finish state with
    | some a => return (a, rest)
    | none => .error .mismatched
  | '[' :: rest => do
    let (state, rest) ← itemFields fields true start rest
    match finish state with
    | some a => do let (_, rest) ← expectChar ']' rest; return (a, rest)
    | none => .error .mismatched
  | rest => .error (mismatch rest)

/-- Reads a value at the front of a text, whatever follows it. -/
def readFront (reader : Reader α) (s : String) : Except ReadFault α :=
  (reader s.toList).map Prod.fst

/-- Reads a whole text: nothing but blanks may follow the value. -/
def readWhole (reader : Reader α) (s : String) : Except ReadFault α := do
  let (a, rest) ← reader s.toList
  if skipSpace rest = [] then return a else .error .malformed

def parse (s : String) : Except ReadFault Json := readWhole (readValue 0) s

end Json

end SensorBoard
