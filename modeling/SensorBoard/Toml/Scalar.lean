import SensorBoard.Decimal.Reader
import SensorBoard.Toml.Basic

/-!
# Texts, numbers and moments of TOML

Readers take what is left of a document and give a value together with what is left behind it, or
`none` where the document is at fault. A line ends with a line feed, with or without a carriage
return before it; no other control character but the tab may stand anywhere.
-/

namespace SensorBoard.Toml

open Text

/-- A reader of something from the left end of a document. -/
abbrev Scan (α : Type) : Type := List Char → Option (α × List Char)

/-- Is the character a blank within a line? -/
def isSpace (c : Char) : Bool := c == ' ' || c == '\t'

/-- What is left behind blanks. -/
def skipSpace (cs : List Char) : List Char := cs.dropWhile isSpace

/-- May the character stand in a comment or, as it is, in a text? -/
def isPlain (c : Char) : Bool := c == '\t' || (decide (' ' ≤ c) && c != '\x7f')

/-- What is left behind the end of a line. -/
def newline? : List Char → Option (List Char)
  | '\n' :: rest => some rest
  | '\r' :: '\n' :: rest => some rest
  | _ => none

/-- Takes a word off the left end. -/
def word? : List Char → List Char → Option (List Char)
  | [], cs => some cs
  | w :: ws, c :: cs => if w = c then word? ws cs else none
  | _ :: _, [] => none

/-! ## Texts -/

/-- The character with a code point of so many hexadecimal digits. -/
def codePoint? (digits : Nat) : Scan Char := fun cs => do
  let values ← (cs.take digits).mapM hexValue?
  if values.length = digits then
    let c ← charOf? (values.foldl (fun n d => 16 * n + d) 0)
    return (c, cs.drop digits)
  else none

/-- The character of an escape, behind the backslash. -/
def escape? : Scan Char
  | 'b' :: rest => some ('\x08', rest)
  | 't' :: rest => some ('\t', rest)
  | 'n' :: rest => some ('\n', rest)
  | 'f' :: rest => some ('\x0c', rest)
  | 'r' :: rest => some ('\r', rest)
  | '"' :: rest => some ('"', rest)
  | '\\' :: rest => some ('\\', rest)
  | 'u' :: rest => codePoint? 4 rest
  | 'U' :: rest => codePoint? 8 rest
  | _ => none

/-- A text on one line, up to its closing quote; every round takes at least one character. -/
def lineLoop (quote : Char) : Nat → List Char → Scan String
  | 0, _, _ => none
  | _ + 1, _, [] => none
  | fuel + 1, read, c :: rest =>
    if c = quote then some (String.ofList read.reverse, rest)
    else if c = '\\' ∧ quote = '"' then
      match escape? rest with
      | some (c, rest) => lineLoop quote fuel (c :: read) rest
      | none => none
    else if isPlain c then lineLoop quote fuel (c :: read) rest
    else none

/-- What is left behind blanks and ends of lines; at most as many as there are characters. -/
def skipBlankLines : Nat → List Char → List Char
  | 0, cs => cs
  | fuel + 1, cs =>
    match newline? (skipSpace cs) with
    | some rest => skipBlankLines fuel rest
    | none => skipSpace cs

/-- What goes on behind the backslash at the end of a line: the next character that is neither a
blank nor an end of line. -/
def continuation? (cs : List Char) : Option (List Char) :=
  (newline? (skipSpace cs)).map fun rest => skipBlankLines rest.length rest

/-- A text over several lines, up to its three closing quotes, in front of which one or two more
belong to the text. Every round takes at least one character. -/
def linesLoop (quote : Char) : Nat → List Char → Scan String
  | 0, _, _ => none
  | _ + 1, _, [] => none
  | fuel + 1, read, c :: rest =>
    if c = quote then
      -- fewer than three quotes are text; of more, the last three close
      let run := 1 + (rest.takeWhile (· == quote)).length
      if run < 3 then linesLoop quote fuel (c :: read) rest
      else if run ≤ 5 then
        some (String.ofList (List.replicate (run - 3) quote ++ read).reverse, rest.drop (run - 1))
      else none
    else if c = '\\' ∧ quote = '"' then
      match continuation? rest with
      | some rest => linesLoop quote fuel read rest
      | none =>
        match escape? rest with
        | some (c, rest) => linesLoop quote fuel (c :: read) rest
        | none => none
    else
      match newline? (c :: rest) with
      | some rest => linesLoop quote fuel ('\n' :: read) rest
      | none => if isPlain c then linesLoop quote fuel (c :: read) rest else none

/-- A text over several lines, behind its three opening quotes; an end of line right behind them
does not count. -/
def lines? (quote : Char) : Scan String := fun cs =>
  let cs := (newline? cs).getD cs
  linesLoop quote (cs.length + 1) [] cs

/-- A text on one line. -/
def line? : Scan String
  | '"' :: rest => lineLoop '"' (rest.length + 1) [] rest
  | '\'' :: rest => lineLoop '\'' (rest.length + 1) [] rest
  | _ => none

/-- A text of any kind. -/
def text? : Scan String
  | '"' :: '"' :: '"' :: rest => lines? '"' rest
  | '\'' :: '\'' :: '\'' :: rest => lines? '\'' rest
  | cs => line? cs

/-! ## Numbers -/

/-- Digits, between any two of which one underscore may stand; the underscores are left out. -/
def digits? (isDigit : Char → Bool) : Scan (List Char)
  | [] => none
  | c :: cs => if isDigit c then some (c :: (more cs).1, (more cs).2) else none
where
  more : List Char → List Char × List Char
    | '_' :: c :: cs =>
      if isDigit c then (c :: (more cs).1, (more cs).2) else ([], '_' :: c :: cs)
    | c :: cs => if isDigit c then (c :: (more cs).1, (more cs).2) else ([], c :: cs)
    | [] => ([], [])

/-- The digits before a point: a leading zero stands alone. -/
def wholeDigits? : Scan (List Char)
  | '0' :: rest => some (['0'], rest)
  | cs => digits? isDigit cs

/-- Is a minus in front of the number? A plus may stand there as well. -/
def sign : List Char → Bool × List Char
  | '-' :: rest => (true, rest)
  | '+' :: rest => (false, rest)
  | cs => (false, cs)

/-- An exponent behind its letter. -/
def exponent? : Scan Int := fun cs => do
  let (negative, cs) := sign cs
  let (digits, rest) ← digits? isDigit cs
  let size := Int.ofNat (digitsValue digits)
  return (if negative then -size else size, rest)

/-- The exponent zero, or one that is written. -/
def optionalExponent? : Scan Int
  | 'e' :: rest => exponent? rest
  | 'E' :: rest => exponent? rest
  | cs => some (0, cs)

/-- The value of a float; one that is too large above has none. -/
def floatOf? (negative : Bool) (p : Decimal.Parts) : Option Toml :=
  if negative then some (.float (-p.value))
  else if p.value.isInf then none
  else some (.float p.value)

/-- An integer that fits 64 bits. -/
def integerOf? (i : Int) : Option Toml :=
  if Decimal.fitsWord i then some (.integer i) else none

def decimal? : Scan Toml := fun cs => do
  let (negative, cs) := sign cs
  let (whole, cs) ← wholeDigits? cs
  match cs with
  | '.' :: rest =>
    let (fraction, rest) ← digits? isDigit rest
    let (exponent, rest) ← optionalExponent? rest
    return (← floatOf? negative ⟨whole, fraction, exponent⟩, rest)
  | 'e' :: _ | 'E' :: _ =>
    let (exponent, rest) ← optionalExponent? cs
    return (← floatOf? negative ⟨whole, [], exponent⟩, rest)
  | _ =>
    let n : Int := digitsValue whole
    return (← integerOf? (if negative then -n else n), cs)

/-- Infinity or no number, behind the sign. -/
def named? (negative : Bool) : Scan Toml
  | 'i' :: 'n' :: 'f' :: rest =>
    some (.float (if negative then -Decimal.infinity else Decimal.infinity), rest)
  | 'n' :: 'a' :: 'n' :: rest => some (.float Decimal.notANumber, rest)
  | _ => none

/-- An integer in a base of its own, behind the letter of the base. -/
def based? (base : Nat) : Scan Toml := fun cs => do
  let (digits, rest) ← digits? (fun c => (hexValue? c).any fun d => decide (d < base)) cs
  let n := digits.foldl (fun n c => base * n + (hexValue? c).getD 0) 0
  return (← integerOf? n, rest)

def number? : Scan Toml
  | '0' :: 'x' :: rest => based? 16 rest
  | '0' :: 'o' :: rest => based? 8 rest
  | '0' :: 'b' :: rest => based? 2 rest
  | cs =>
    let (negative, rest) := sign cs
    (named? negative rest).or (decimal? cs)

/-! ## Moments -/

/-- A number of so many digits, between two bounds. -/
def field? (digits low high : Nat) : Scan Nat := fun cs => do
  let taken := cs.take digits
  let n := digitsValue taken
  if taken.length = digits ∧ taken.all isDigit = true ∧ low ≤ n ∧ n ≤ high then
    return (n, cs.drop digits)
  else none

/-- Takes one character off the left end. -/
def char? (c : Char) (cs : List Char) : Option (List Char) := word? [c] cs

/-- The number of days of a month. -/
def daysOf (year month : Nat) : Nat :=
  if month = 2 then
    if year % 4 = 0 ∧ (year % 100 ≠ 0 ∨ year % 400 = 0) then 29 else 28
  else if month = 4 ∨ month = 6 ∨ month = 9 ∨ month = 11 then 30
  else 31

/-- What is left behind a date. -/
def date? (cs : List Char) : Option (List Char) := do
  let (year, cs) ← field? 4 0 9999 cs
  let (month, cs) ← field? 2 1 12 (← char? '-' cs)
  let (_, cs) ← field? 2 1 (daysOf year month) (← char? '-' cs)
  return cs

/-- What is left behind a fraction of a second, if there is one. -/
def secondFraction (cs : List Char) : List Char :=
  match cs with
  | '.' :: d :: rest => if isDigit d then rest.dropWhile isDigit else cs
  | _ => cs

/-- What is left behind a time of day; a minute may have a sixty-first second. -/
def time? (cs : List Char) : Option (List Char) := do
  let (_, cs) ← field? 2 0 23 cs
  let (_, cs) ← field? 2 0 59 (← char? ':' cs)
  let (_, cs) ← field? 2 0 60 (← char? ':' cs)
  return secondFraction cs

/-- What is left behind hours and minutes away from universal time. -/
def distance? (cs : List Char) : Option (List Char) := do
  let (_, cs) ← field? 2 0 23 cs
  let (_, cs) ← field? 2 0 59 (← char? ':' cs)
  return cs

/-- What is left behind the distance from universal time, if it is given. -/
def offset (cs : List Char) : List Char :=
  match cs with
  | 'Z' :: rest | 'z' :: rest => rest
  | '+' :: rest | '-' :: rest => (distance? rest).getD cs
  | _ => cs

/-- What is left behind a time of day that follows a date, if one does. -/
def dayTime (cs : List Char) : List Char :=
  match cs with
  | 'T' :: rest | 't' :: rest | ' ' :: rest =>
    match time? rest with
    | some rest => offset rest
    | none => cs
  | _ => cs

/-- What is left behind a date, a time, or both. -/
def moment? (cs : List Char) : Option (List Char) := ((date? cs).map dayTime).or (time? cs)

/-- A moment or a number. A faulty moment begins with a number, but nothing that may follow one. -/
def numeral? : Scan Toml := fun cs =>
  match moment? cs with
  | some rest => some (.moment, rest)
  | none => number? cs

end SensorBoard.Toml
