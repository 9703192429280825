import SensorBoard.Toml.Scalar
import SensorBoard.Toml.Table

/-!
# Reading TOML

A document is a sequence of lines: headers of tables, keys with values, comments, and nothing. Lists
may go over several lines, tables between braces may not. Values are read to a depth of 79 levels,
and a dotted key has at most 79 parts.
-/

namespace SensorBoard.Toml

/-- The number at which levels and parts of keys are too many. -/
def limit : Nat := 80

/-- May the character stand in a key without quotes? -/
def isKeyChar (c : Char) : Bool := c.isAlphanum || c == '_' || c == '-'

def keyPart? : Scan String
  | '"' :: rest => line? ('"' :: rest)
  | '\'' :: rest => line? ('\'' :: rest)
  | cs =>
    let word := cs.takeWhile isKeyChar
    if word = [] then none else some (String.ofList word, cs.dropWhile isKeyChar)

/-- The parts of a key behind those already read, with blanks around each of them. -/
def keyLoop : Nat → List String → Scan (List String)
  | 0, _, _ => none
  | fuel + 1, read, cs => do
    let (part, rest) ← keyPart? (skipSpace cs)
    match skipSpace rest with
    | '.' :: rest => keyLoop fuel (part :: read) rest
    | rest => return ((part :: read).reverse, rest)

def key? : Scan (List String) := fun cs => keyLoop (limit - 1) [] cs

/-- What is left behind a comment, if there is one; `none` where it holds a control character. -/
def comment? (cs : List Char) : Option (List Char) :=
  match cs with
  | '#' :: rest =>
    match rest.dropWhile isPlain with
    | [] => some []
    | c :: rest => (newline? (c :: rest)).map fun _ => c :: rest
  | _ => some cs

/-- What is left behind blanks, comments and ends of lines; at most as many as there are
characters. -/
def skipLines? : Nat → List Char → Option (List Char)
  | 0, cs => some cs
  | fuel + 1, cs => do
    let rest ← comment? (skipSpace cs)
    match newline? rest with
    | some rest => skipLines? fuel rest
    | none => return rest

/-- What is left behind blanks, comments and ends of lines. -/
def skipGap? (cs : List Char) : Option (List Char) := skipLines? (cs.length + 1) cs

mutual

/-- A value inside at most `depth` further levels; every round takes at least one character. -/
def valueLoop : Nat → Nat → Scan Toml
  | 0, _, _ => none
  | fuel + 1, depth, cs =>
    match cs with
    | [] => none
    | c :: rest =>
      if c = '"' ∨ c = '\'' then (text? cs).map fun (s, rest) => (.text s, rest)
      else if c = '[' then
        if depth = 0 then none
        else do
          let (items, rest) ← itemsLoop fuel (depth - 1) [] rest
          return (.list items, rest)
      else if c = '\x7b' then
        if depth = 0 then none
        else
          match skipSpace rest with
          | '\x7d' :: rest => some (.table .braces [], rest)
          | rest => do
            let (pairs, rest) ← pairsLoop fuel (depth - 1) [] rest
            return (← ofPairs pairs, rest)
      else if c = 't' then (word? "true".toList cs).map fun rest => (.boolean true, rest)
      else if c = 'f' then (word? "false".toList cs).map fun rest => (.boolean false, rest)
      else numeral? cs

/-- The items of a list behind those already read, up to the closing bracket. -/
def itemsLoop : Nat → Nat → List Toml → Scan (List Toml)
  | 0, _, _, _ => none
  | fuel + 1, depth, read, cs => do
    match ← skipGap? cs with
    | ']' :: rest => return (read.reverse, rest)
    | rest =>
      let (value, rest) ← valueLoop fuel depth rest
      match ← skipGap? rest with
      | ',' :: rest => itemsLoop fuel depth (value :: read) rest
      | ']' :: rest => return ((value :: read).reverse, rest)
      | _ => none

/-- The pairs between braces behind those already read, up to the closing brace. -/
def pairsLoop : Nat → Nat → List (List String × Toml) → Scan (List (List String × Toml))
  | 0, _, _, _ => none
  | fuel + 1, depth, read, cs => do
    let (key, rest) ← key? cs
    let rest ← char? '=' rest
    let (value, rest) ← valueLoop fuel depth (skipSpace rest)
    match skipSpace rest with
    | ',' :: rest => pairsLoop fuel depth ((key, value) :: read) rest
    | '\x7d' :: rest => return (((key, value) :: read).reverse, rest)
    | _ => none

end

def value? : Scan Toml := fun cs => valueLoop (2 * cs.length + 2) (limit - 1) cs

/-- What is left behind the rest of a line: blanks, a comment, and the end of the line or of the
document. -/
def lineEnd? (cs : List Char) : Option (List Char) := do
  match ← comment? (skipSpace cs) with
  | [] => return []
  | rest => newline? rest

/-- What a line says, without the rest of the line. -/
def statement? : Scan Statement
  | '[' :: '[' :: rest => do
    let (path, rest) ← key? rest
    return (.row path, ← word? "]]".toList rest)
  | '[' :: rest => do
    let (path, rest) ← key? rest
    return (.table path, ← char? ']' rest)
  | cs => do
    let (path, rest) ← key? cs
    let (value, rest) ← value? (skipSpace (← char? '=' rest))
    return (.pair path value, rest)

/-- The statements of a document behind those already read; every line takes at least one
character. -/
def statementsLoop : Nat → List Statement → List Char → Option (List Statement)
  | 0, _, _ => none
  | fuel + 1, read, cs => do
    match ← skipGap? cs with
    | [] => return read.reverse
    | rest =>
      let (statement, rest) ← statement? rest
      statementsLoop fuel (statement :: read) (← lineEnd? rest)

/-- The tables of a document, in front of which there may be a byte order mark. -/
def parse? (s : String) : Option Entries := do
  let cs := match s.toList with
    | '\ufeff' :: rest => rest
    | cs => cs
  ofStatements (← statementsLoop (cs.length + 1) [] cs)

end SensorBoard.Toml
