/-
# Messages are filled by substitution

A template is divided by its placeholders in one way only, since a placeholder has no end that it
could begin with. All arguments take the places of placeholders at once: the first goes where the
first placeholder was, and so on. What is left of either side is treated as if each missing argument
were the placeholder itself and further arguments were not there. It makes no difference that the
message is filled in place, with an offset in bytes carried from one argument to the next.
-/

import DynamicValue.Message.Catalog
import DynamicValue.Proofs.Text.Template
import Mathlib.Data.List.TakeDrop
import Mathlib.Data.String.Basic

namespace DynamicValue.Text

/-! ## Offsets -/

theorem byteLength_toList (text : String) : byteLength text.toList = text.utf8ByteSize := by
  rw [← text.utf8Len_toList]
  generalize text.toList = chars
  induction chars with
  | nil => rfl
  | cons c chars ih =>
      rw [String.utf8Len_cons, ← ih]
      exact Nat.add_comm _ _

/-- A cut leaves what is in front of it and what is behind it. -/
theorem cutAt?_eq_some_iff {offset : Nat} {text front back : List Char} :
    cutAt? offset text = some (front, back) ↔ text = front ++ back ∧ byteLength front = offset := by
  constructor
  · intro hcut
    fun_induction cutAt? offset text generalizing front back with
    | case1 text =>
        cases hcut
        exact ⟨rfl, rfl⟩
    | case2 => cases hcut
    | case3 offset c rest hfits ih =>
        obtain ⟨⟨front', back'⟩, hrest, hsame⟩ := Option.map_eq_some_iff.mp hcut
        cases hsame
        obtain ⟨rfl, hlength⟩ := ih hrest
        refine ⟨rfl, ?_⟩
        rw [byteLength_cons]
        omega
    | case4 => cases hcut
  · rintro ⟨rfl, rfl⟩
    exact cutAt?_append front back

/-- A text can be cut at the ends of its characters and nowhere else. -/
theorem cutAt?_isSome_iff (text : String) (offset : Nat) :
    (cutAt? offset text.toList).isSome ↔ String.Pos.Raw.IsValid text ⟨offset⟩ := by
  rw [String.Pos.Raw.isValid_iff_exists_append, Option.isSome_iff_exists]
  constructor
  · rintro ⟨⟨front, back⟩, hcut⟩
    obtain ⟨htext, rfl⟩ := cutAt?_eq_some_iff.mp hcut
    refine ⟨String.ofList front, String.ofList back, ?_, ?_⟩
    · rw [← String.ofList_append, ← htext, String.ofList_toList]
    · rw [← String.toList_ofList (l := front), byteLength_toList, String.toList_ofList]
      rfl
  · rintro ⟨front, back, rfl, hoffset⟩
    obtain rfl : offset = front.utf8ByteSize := congrArg String.Pos.Raw.byteIdx hoffset
    rw [String.toList_append, ← byteLength_toList]
    exact ⟨_, cutAt?_append front.toList back.toList⟩

/-! ## Dividing a template -/

/-- The parts of a template in front of, between and behind its placeholders. -/
structure IsDivided (template : String) (parts : List String) : Prop where
  nonempty : parts ≠ []
  joined : template.toList = placeholder.intercalate (parts.map String.toList)
  free : ∀ part ∈ parts, ¬ placeholder <:+: part.toList

theorem splitAtPlaceholder_of_free {piece : List Char} (hfree : ¬ placeholder <:+: piece) :
    splitAtPlaceholder piece = none := by
  cases hsplit : splitAtPlaceholder piece with
  | none => rfl
  | some halves =>
      exact absurd ⟨halves.1, halves.2, (eq_of_splitAtPlaceholder hsplit).symm⟩ hfree

/-- A piece without a placeholder ends at the first placeholder, also if it ends with a brace. -/
theorem splitAtPlaceholder_append {piece : List Char} (back : List Char)
    (hfree : ¬ placeholder <:+: piece) :
    splitAtPlaceholder (piece ++ placeholder ++ back) = some (piece, back) := by
  induction piece with
  | nil => rfl
  | cons c piece ih =>
      have hrest := ih fun hinfix => hfree (List.infix_cons hinfix)
      have hopen : ∀ behind, c = '\x7b' → piece ++ placeholder ++ back = '\x7d' :: behind →
          False := by
        rintro behind rfl hbehind
        cases piece with
        | nil => cases hbehind
        | cons d piece =>
            obtain ⟨rfl, -⟩ := List.cons.inj hbehind
            exact hfree ⟨[], piece, rfl⟩
      rw [List.cons_append, List.cons_append, splitAtPlaceholder, hrest]
      · rfl
      · exact hopen

/-- Whatever parts a template is divided into, they are its pieces. -/
theorem eq_pieces_of_free {piece : List Char} {rest : List (List Char)}
    (hfree : ∀ part ∈ piece :: rest, ¬ placeholder <:+: part) :
    pieces (placeholder.intercalate (piece :: rest)) = piece :: rest := by
  induction rest generalizing piece with
  | nil =>
      rw [List.intercalate_singleton]
      exact pieces_of_none (splitAtPlaceholder_of_free (hfree piece List.mem_cons_self))
  | cons next rest ih =>
      rw [List.intercalate_cons_cons]
      have hsplit := splitAtPlaceholder_append (placeholder.intercalate (next :: rest))
        (hfree piece List.mem_cons_self)
      rw [pieces_of_some hsplit, ih fun part hmem => hfree part (List.mem_cons_of_mem _ hmem)]

/-- The parts that a template is divided into are its pieces. -/
theorem IsDivided.pieces_eq {template : String} {parts : List String}
    (hdivided : IsDivided template parts) :
    pieces template.toList = parts.map String.toList := by
  obtain ⟨part, rest, rfl⟩ := List.exists_cons_of_ne_nil hdivided.nonempty
  rw [hdivided.joined, List.map_cons]
  apply eq_pieces_of_free
  rw [← List.map_cons]
  exact List.forall_mem_map.mpr hdivided.free

/-- Every template is divided by its placeholders, and in one way only. -/
theorem existsUnique_isDivided (template : String) : ∃! parts, IsDivided template parts := by
  have htoList : ((pieces template.toList).map String.ofList).map String.toList =
      pieces template.toList := by
    simp only [List.map_map, Function.comp_def, String.toList_ofList, List.map_id']
  refine ⟨(pieces template.toList).map String.ofList, ⟨?_, ?_, ?_⟩, fun parts hdivided => ?_⟩
  · exact mt List.map_eq_nil_iff.mp (pieces_ne_nil _)
  · rw [htoList, intercalate_pieces]
  · intro part hmem
    obtain ⟨piece, hpiece, rfl⟩ := List.mem_map.mp hmem
    rw [String.toList_ofList]
    exact not_placeholder_infix_of_mem hpiece
  · rw [hdivided.pieces_eq]
    simp only [List.map_map, Function.comp_def, String.ofList_toList, List.map_id']

/-! ## Too few and too many arguments -/

theorem fillBehind_of_none {text : List Char} (settled : List Char)
    (arguments : List (List Char)) (hsplit : splitAtPlaceholder text = none) :
    fillBehind settled text arguments = settled ++ text := by
  induction arguments with
  | nil => rfl
  | cons argument arguments ih =>
      rw [fillBehind, hsplit]
      exact ih

/-- As many arguments count as there are placeholders, and a missing one is the placeholder. -/
theorem fillBehind_takeD (settled text : List Char) (arguments : List (List Char)) {count : Nat}
    (hcount : (pieces text).length = count + 1) :
    fillBehind settled text arguments =
      fillBehind settled text (arguments.takeD count placeholder) := by
  induction count generalizing settled text arguments with
  | zero =>
      cases hsplit : splitAtPlaceholder text with
      | none => exact fillBehind_of_none settled arguments hsplit
      | some halves =>
          obtain ⟨piece, rest, hback⟩ := exists_pieces_eq_cons halves.2
          rw [pieces_of_some hsplit, hback] at hcount
          cases hcount
  | succ count ih =>
      cases hsplit : splitAtPlaceholder text with
      | none =>
          rw [pieces_of_none hsplit] at hcount
          cases hcount
      | some halves =>
          obtain ⟨front, back⟩ := halves
          rw [pieces_of_some hsplit, List.length_cons] at hcount
          have hback : (pieces back).length = count + 1 := Nat.succ.inj hcount
          cases arguments with
          | nil =>
              have htext := eq_of_splitAtPlaceholder hsplit
              rw [List.takeD_succ, fillBehind, fillBehind, hsplit]
              refine Eq.trans ?_ (ih (settled ++ front ++ placeholder) back [] hback)
              rw [fillBehind, htext]
              simp only [List.append_assoc]
          | cons argument arguments =>
              rw [List.takeD_succ, fillBehind, fillBehind, hsplit]
              exact ih (settled ++ front ++ argument) back arguments hback

theorem map_takeD {α β : Type} (f : α → β) (count : Nat) (items : List α) (default : α) :
    (items.takeD count default).map f = (items.map f).takeD count (f default) := by
  induction count generalizing items with
  | zero => rfl
  | succ count ih => cases items <;> simp [ih]

/-- A template that is filled with any arguments is its parts with one argument between each two. -/
theorem IsDivided.fill_eq_woven {template : String} {parts : List String}
    (hdivided : IsDivided template parts) (arguments : List String) :
    fill template arguments = woven parts (arguments.takeD (parts.length - 1) "\x7b\x7d") := by
  have hlength : parts.length = parts.length - 1 + 1 :=
    (Nat.sub_add_cancel (List.length_pos_iff.mpr hdivided.nonempty)).symm
  have hpieces := hdivided.pieces_eq
  rw [← fill_eq hpieces (by rwa [List.takeD_length]), fill, fill, map_takeD]
  congr 1
  apply fillBehind_takeD
  rw [hpieces, List.length_map]
  exact hlength

end DynamicValue.Text

namespace DynamicValue.Message

/-- What is made of the template of a key, whatever the arguments are: the template is divided by
its placeholders in one way, it can be filled in place, which is never done by a cut inside a
character or behind the end, and between each two parts stands the argument that belongs there, or
still the placeholder if there are not so many arguments. -/
theorem formatFor_substitutes (key : String) (locale : Locale) :
    ∃ parts, (∀ other, Text.IsDivided (templateFor key locale) other ↔ other = parts) ∧
      ∀ arguments,
        Text.fillInPlace? (templateFor key locale) arguments =
          some (formatFor key locale arguments) ∧
        formatFor key locale arguments =
          Text.woven parts (arguments.takeD (parts.length - 1) "\x7b\x7d") := by
  obtain ⟨parts, hdivided, hunique⟩ := Text.existsUnique_isDivided (templateFor key locale)
  refine ⟨parts, fun other => ⟨hunique other, fun heq => heq ▸ hdivided⟩,
    fun arguments => ⟨(Option.some_get _).symm, ?_⟩⟩
  rw [← hdivided.fill_eq_woven arguments, formatFor, Option.get_of_eq_some _
    (Text.fillInPlace?_eq _ _)]

/-- Braces in an argument, or at its end in front of a brace of the template, stay as they are. -/
example : formatFor "err.cast.invalid_text" .chinese ["\x7b\x7d\x7b"] =
    "无法把 \"\x7b\x7d\x7b\" 解析为 '\x7b\x7d'" := by decide +kernel

end DynamicValue.Message
