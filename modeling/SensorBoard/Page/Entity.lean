/-!
# Entities

Texts inside markup: the characters that would begin or end a tag, an entity or an attribute are
written as entities. The ampersand is replaced first, so that no entity is replaced again, and
decoding in one pass gives the text back.
-/

namespace SensorBoard.Page.Entity

/-- The entity of a character that may not stand for itself. -/
def entity? : Char → Option String
  | '&' => some "&amp;"
  | '<' => some "&lt;"
  | '>' => some "&gt;"
  | '"' => some "&quot;"
  | _ => none

def escapeChar (c : Char) : List Char :=
  match entity? c with
  | some e => e.toList
  | none => [c]

def replaceAll (c : Char) (new : List Char) (cs : List Char) : List Char :=
  cs.flatMap fun x => if x = c then new else [x]

/-- A text inside markup, by one replacement of the whole text after the other. -/
def escapeChars (cs : List Char) : List Char :=
  -- in any other order the ampersands of entities already written would be replaced as well
  ['&', '<', '>', '"'].foldl (fun cs c => replaceAll c (escapeChar c) cs) cs

def escape (s : String) : String := String.ofList (escapeChars s.toList)

/-- The text that stands inside markup; what is no entity stands for itself. -/
def decode : List Char → List Char
  | '&' :: 'a' :: 'm' :: 'p' :: ';' :: rest => '&' :: decode rest
  | '&' :: 'l' :: 't' :: ';' :: rest => '<' :: decode rest
  | '&' :: 'g' :: 't' :: ';' :: rest => '>' :: decode rest
  | '&' :: 'q' :: 'u' :: 'o' :: 't' :: ';' :: rest => '"' :: decode rest
  | c :: rest => c :: decode rest
  | [] => []

example : escape "<a href=\"?x&y\">" = "&lt;a href=&quot;?x&amp;y&quot;&gt;" := by
  decide +kernel

end SensorBoard.Page.Entity
