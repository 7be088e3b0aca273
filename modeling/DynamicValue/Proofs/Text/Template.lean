/-
# What filling makes of a template

The placeholders of a template divide it into pieces that have no placeholder in them. Filling a
template with as many arguments puts one of them between each two pieces, in their order and as they
are. This holds whatever the arguments are, since the search for a placeholder goes on behind each
of them.
-/

import DynamicValue.Text.Template
import Mathlib.Data.List.Basic

namespace DynamicValue.Text

/-- The pieces of a template in front of, between and behind its placeholders. -/
def pieces : List Char → List (List Char)
  | '\x7b' :: '\x7d' :: rest => [] :: pieces rest
  | c :: rest => (pieces rest).modifyHead (c :: ·)
  | [] => [[]]

/-- Pieces with one argument between each two of them. -/
def woven : List String → List String → String
  | piece :: next :: rest, argument :: arguments =>
    woven ((piece ++ argument ++ next) :: rest) arguments
  | piece :: _, _ => piece
  | [], _ => ""

variable {text front back piece : List Char}

theorem pieces_ne_nil (text : List Char) : pieces text ≠ [] := by
  fun_induction pieces text with
  | case1 rest ih => exact List.cons_ne_nil _ _
  | case2 c rest _ ih => simpa using ih
  | case3 => exact List.cons_ne_nil _ _

theorem exists_pieces_eq_cons (text : List Char) : ∃ piece rest, pieces text = piece :: rest :=
  List.exists_cons_of_ne_nil (pieces_ne_nil text)

/-- Without a placeholder a template is one piece. -/
theorem pieces_of_none (hsplit : splitAtPlaceholder text = none) : pieces text = [text] := by
  fun_induction splitAtPlaceholder text with
  | case1 rest => cases hsplit
  | case2 c rest hbrace ih =>
      rw [pieces, ih (Option.map_eq_none_iff.mp hsplit), List.modifyHead_cons]
      exact hbrace
  | case3 => rfl

/-- The first placeholder ends the first piece. -/
theorem pieces_of_some (hsplit : splitAtPlaceholder text = some (front, back)) :
    pieces text = front :: pieces back := by
  fun_induction splitAtPlaceholder text generalizing front back with
  | case1 rest =>
      cases hsplit
      rfl
  | case2 c rest hbrace ih =>
      obtain ⟨⟨front', back'⟩, hrest, hsame⟩ := Option.map_eq_some_iff.mp hsplit
      cases hsame
      rw [pieces, ih hrest, List.modifyHead_cons]
      exact hbrace
  | case3 => cases hsplit

/-- The pieces and the placeholders between them are the template. -/
theorem intercalate_pieces (text : List Char) : placeholder.intercalate (pieces text) = text := by
  fun_induction pieces text with
  | case1 rest ih =>
      obtain ⟨piece, pieces', hpieces⟩ := exists_pieces_eq_cons rest
      rw [hpieces] at ih ⊢
      rw [List.intercalate_cons_cons, ih]
      rfl
  | case2 c rest _ ih =>
      obtain ⟨piece, pieces', hpieces⟩ := exists_pieces_eq_cons rest
      rw [hpieces] at ih ⊢
      cases pieces' with
      | nil => simpa using ih
      | cons next pieces' => simpa [List.intercalate_cons_cons] using ih
  | case3 => rfl

/-- A template begins with its first piece. -/
theorem prefix_of_pieces_eq_cons {rest : List (List Char)} (hpieces : pieces text = piece :: rest) :
    piece <+: text := by
  rw [← intercalate_pieces text, hpieces]
  cases rest with
  | nil => exact List.intercalate_singleton ▸ List.prefix_rfl
  | cons next rest =>
      rw [List.intercalate_cons_cons, List.append_assoc]
      exact List.prefix_append _ _

/-- No placeholder is in a piece. -/
theorem not_placeholder_infix_of_mem (hmem : piece ∈ pieces text) : ¬ placeholder <:+: piece := by
  fun_induction pieces text generalizing piece with
  | case1 rest ih =>
      rcases List.mem_cons.mp hmem with rfl | hmem
      · decide
      · exact ih hmem
  | case2 c rest hbrace ih =>
      obtain ⟨first, pieces', hpieces⟩ := exists_pieces_eq_cons rest
      rw [hpieces, List.modifyHead_cons] at hmem
      rw [hpieces] at ih
      rcases List.mem_cons.mp hmem with rfl | hmem
      · intro hinfix
        rcases List.infix_cons_iff.mp hinfix with hprefix | hinfix
        · -- The piece begins like the rest of the template, which would begin with a brace.
          obtain ⟨hopening, hclosing⟩ := List.cons_prefix_cons.mp hprefix
          obtain ⟨behind, hbehind⟩ :=
            hclosing.trans (prefix_of_pieces_eq_cons hpieces)
          exact hbrace behind hopening.symm hbehind.symm
        · exact ih List.mem_cons_self hinfix
      · exact ih (List.mem_cons_of_mem _ hmem)
  | case3 => rw [List.mem_singleton.mp hmem]; decide

/-- Filling a text that has as many placeholders as there are arguments. What is settled already
belongs to the first piece. -/
theorem fillBehind_eq (settled : String) {part : String} {rest arguments : List String}
    (hpieces : pieces text = (part :: rest).map String.toList)
    (hlength : rest.length = arguments.length) :
    fillBehind settled.toList text (arguments.map String.toList) =
      (woven ((settled ++ part) :: rest) arguments).toList := by
  induction arguments generalizing settled text part rest with
  | nil =>
      obtain rfl := List.eq_nil_of_length_eq_zero hlength
      have htext := intercalate_pieces text
      rw [hpieces, List.map_singleton, List.intercalate_singleton] at htext
      rw [← htext]
      exact String.toList_append.symm
  | cons argument arguments ih =>
      obtain ⟨next, rest, rfl⟩ := List.exists_cons_of_length_eq_add_one hlength
      rw [List.map_cons, fillBehind]
      cases hsplit : splitAtPlaceholder text with
      | none =>
          rw [pieces_of_none hsplit] at hpieces
          cases hpieces
      | some halves =>
          obtain ⟨front, back⟩ := halves
          rw [pieces_of_some hsplit, List.map_cons] at hpieces
          obtain ⟨rfl, hback⟩ := List.cons.inj hpieces
          have hfilled := ih (settled ++ part ++ argument) hback (Nat.succ.inj hlength)
          rw [String.toList_append, String.toList_append] at hfilled
          exact hfilled

/-- A template that has as many placeholders as there are arguments is filled with all of them. -/
theorem fill_eq {template : String} {parts arguments : List String}
    (hpieces : pieces template.toList = parts.map String.toList)
    (hlength : parts.length = arguments.length + 1) :
    fill template arguments = woven parts arguments := by
  obtain ⟨part, rest, rfl⟩ := List.exists_cons_of_length_eq_add_one hlength
  have hfilled := fillBehind_eq "" hpieces (Nat.succ.inj hlength)
  rw [String.empty_append, String.toList_empty] at hfilled
  rw [fill, hfilled, String.ofList_toList]

end DynamicValue.Text
