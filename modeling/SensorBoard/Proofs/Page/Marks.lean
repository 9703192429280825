import Mathlib.Data.List.Infix
import SensorBoard.Page.Document
import SensorBoard.Proofs.Page.Entity

/-!
# Marks

The marks of a page are the characters in it that begin or end a tag or the value of an attribute.
Only the page's own markup has any (`marks_render`), so two pages with the same markup around their
texts have the same marks (`marks_eq_of_skeleton_eq`). By its marks a page without a board is told
not to have the block of a card in it (`not_infix_cardBlock`).
-/

namespace SensorBoard.Page

/-- The marks of a text in their order. -/
def marks (s : String) : List Char := s.toList.filter Entity.isMark

/-- The marks of a text that is given by its characters; such are all texts of the page's own. -/
theorem marks_ofList (cs : List Char) : marks (String.ofList cs) = cs.filter Entity.isMark := by
  rw [marks, String.toList_ofList]

theorem marks_literal {cs ms : List Char} (h : cs.filter Entity.isMark = ms) :
    marks (String.ofList cs) = ms :=
  (marks_ofList cs).trans h

@[simp] theorem marks_append (s t : String) : marks (s ++ t) = marks s ++ marks t := by
  rw [marks, String.toList_append, List.filter_append]
  rfl

theorem marks_join (texts : List String) : marks (String.join texts) = texts.flatMap marks := by
  rw [marks, String.toList_join, List.filter_flatMap]
  rfl

theorem filter_intercalate {p : Char → Bool} {sep : List Char} (h : sep.filter p = [])
    (parts : List (List Char)) :
    (sep.intercalate parts).filter p = parts.flatMap fun part => part.filter p := by
  induction parts with
  | nil => rfl
  | cons part rest ih =>
    cases rest with
    | nil => simp [List.intercalate]
    | cons next rest =>
      -- of the separator between two parts nothing is left
      rw [List.intercalate_cons_cons, List.filter_append, List.filter_append, h, List.append_nil, ih]
      rfl

theorem marks_intercalate {sep : String} (h : marks sep = []) (texts : List String) :
    marks (sep.intercalate texts) = texts.flatMap marks := by
  rw [marks, String.toList_intercalate, filter_intercalate h, List.flatMap_map]
  rfl

@[simp] theorem marks_escape (s : String) : marks (Entity.escape s) = [] :=
  List.filter_eq_nil_iff.mpr fun _ hx => by simp [Entity.isMark_of_mem_escape hx]

/-! ## Pieces -/

/-- The markup of a piece; a text has none. -/
def Piece.source? : Piece → Option String
  | markup source => some source
  | text _ => none

/-- The markup of a page with a gap for every text. -/
def skeleton (page : Markup) : List (Option String) := page.map Piece.source?

@[simp] theorem skeleton_append (page page' : Markup) :
    skeleton (page ++ page') = skeleton page ++ skeleton page' :=
  List.map_append

/-- No text brings a mark to the page. -/
theorem marks_render (page : Markup) :
    marks page.render = (page.filterMap Piece.source?).flatMap marks := by
  rw [Markup.render, marks_join, List.flatMap_map]
  induction page with
  | nil => rfl
  | cons piece rest ih =>
    rw [List.flatMap_cons, ih]
    cases piece with
    | markup source => rfl
    | text content => rw [Piece.render, marks_escape]; rfl

/-- Whatever is put on a page is found there. -/
theorem render_infix_of_mem {page : Markup} {piece : Piece} (h : piece ∈ page) :
    piece.render.toList <:+: page.render.toList := by
  rw [Markup.render, String.toList_join, List.flatMap_map]
  exact List.infix_of_mem_flatten (List.mem_map_of_mem h)

theorem marks_eq_of_skeleton_eq {page page' : Markup} (h : skeleton page = skeleton page') :
    marks page.render = marks page'.render := by
  -- the sources are what is left of the skeleton without its gaps
  have hsources : page.filterMap Piece.source? = page'.filterMap Piece.source? := by
    have hgaps := congrArg (List.filterMap id) h
    rwa [skeleton, skeleton, List.filterMap_map, List.filterMap_map] at hgaps
  rw [marks_render, marks_render, hsources]

/-! ## Blocks of cards -/

theorem marks_wrapperClasses (card : Card) : marks (wrapperClasses card) = [] := by
  unfold wrapperClasses
  rw [marks_append]
  -- a lamp, an open card and a closed one
  split_ifs <;> rw [marks_ofList, marks_ofList] <;> rfl

/-- The opening tag of a card holds the values of three attributes. -/
theorem marks_cardBlock (card : Card) :
    List.replicate 6 '"' <:+: marks (cardBlock card).render := by
  have hclasses : marks "<div class=\"" = ['<', '"'] := marks_literal rfl
  have hdevice : marks "\" data-device=\"" = ['"', '"'] := marks_literal rfl
  have hsensor : marks "\" data-sensor=\"" = ['"', '"'] := marks_literal rfl
  have hinner : marks "\"><div class=\"" = ['"', '>', '<', '"'] := marks_literal rfl
  -- the device and the sensor are texts, so nothing stands between the marks around them
  rw [marks_render]
  simp only [cardBlock, List.filterMap_cons, Piece.source?, List.flatMap_cons, marks_append,
    marks_wrapperClasses, hclasses, hdevice, hsensor, hinner]
  exact ⟨['<'], _, rfl⟩

theorem marks_script : marks script = [] := by
  have hnewline : marks "\n" = [] := marks_literal rfl
  rw [script, marks_append, marks_append, marks_intercalate hnewline, hnewline]
  simp only [scriptLines, List.flatMap_cons, List.flatMap_nil, marks_append]
  repeat rw [marks_ofList]
  rfl

/-- No tag of a page without a board has more than two attributes. -/
theorem not_infix_marks_document (message : Option String) :
    ¬ List.replicate 6 '"' <:+: marks (document none message).render := by
  have hnewline : marks "\n" = [] := marks_literal rfl
  rw [marks_render]
  cases message
  -- the text of a banner has no marks, so with a banner all marks are known as well
  all_goals
    simp only [document, banner, boardGrid, List.append_nil, List.cons_append, List.nil_append,
      List.filterMap_cons, List.filterMap_nil, Piece.source?, List.flatMap_cons, List.flatMap_nil,
      marks_append, marks_intercalate hnewline, headLines, marks_script]
    repeat rw [marks_ofList]
    decide +kernel

/-- There is no card on a page without a board. -/
theorem not_infix_cardBlock (card : Card) (message : Option String) :
    ¬ (cardBlock card).render.toList <:+: (document none message).render.toList := by
  intro hblock
  exact not_infix_marks_document message ((marks_cardBlock card).trans (hblock.filter _))

end SensorBoard.Page
