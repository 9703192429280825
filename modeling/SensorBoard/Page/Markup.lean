import SensorBoard.Page.Entity

/-!
# Markup

A page is put together from pieces. What the page says itself is markup; whatever comes from
elsewhere is text. Only rendering turns pieces into a string, and it escapes every text, so that no
text can become markup.
-/

namespace SensorBoard.Page

/-- A piece of a page. -/
inductive Piece where
  /-- Markup of the page's own. -/
  | markup (source : String)
  /-- A text from elsewhere. -/
  | text (content : String)

abbrev Markup : Type := List Piece

def Piece.render : Piece → String
  | markup source => source
  | text content => Entity.escape content

def Markup.render (pieces : Markup) : String := String.join (pieces.map Piece.render)

end SensorBoard.Page
