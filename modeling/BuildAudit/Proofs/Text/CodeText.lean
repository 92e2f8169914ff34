import BuildAudit.Text.CodeText
import Mathlib.Data.List.Basic
import Mathlib.Order.RelClasses

/-!
# Texts of code points told apart

No two code points have the same code (`toNat_injective`), since no character has the code of a
half. So code points are in a strict order by their codes, and texts in the one of their code
points. Strings and texts are told apart by their code points also where strings have been added
(`ofString_injective`, `string_append_injective`, `append_string_injective`).
-/

namespace BuildAudit

namespace CodePoint

/-- No character has the code of a half. -/
theorem toNat_char_ne_toNat_half (c : Char) (index : Fin 0x800) :
    toNat (.char c) ≠ toNat (.half index) := by
  -- The codes of halves are the gap between the two ranges of characters.
  have hvalid : c.toNat < 0xD800 ∨ 0xDFFF < c.toNat ∧ c.toNat < 0x110000 := c.valid
  have hindex := index.isLt
  rw [toNat, toNat]
  omega

theorem toNat_injective {left right : CodePoint} (h : left.toNat = right.toNat) : left = right := by
  cases left with
  | char c =>
    cases right with
    | char d => rw [Char.toNat_inj.1 h]
    | half index => exact absurd h (toNat_char_ne_toNat_half c index)
  | half index =>
    cases right with
    | char c => exact absurd h.symm (toNat_char_ne_toNat_half c index)
    | half other => rw [Fin.ext (Nat.add_left_cancel h)]

/-- The code point of a code is found again. -/
@[simp]
theorem ofNat_toNat (point : CodePoint) : ofNat point.toNat = point := by
  cases point with
  | char c =>
    have hvalid : c.toNat < 0xD800 ∨ 0xDFFF < c.toNat ∧ c.toNat < 0x110000 := c.valid
    rw [ofNat, toNat, dif_neg (by omega), Char.ofNat_toNat]
  | half index =>
    have hindex := index.isLt
    rw [ofNat, toNat, dif_pos (by omega)]
    exact congrArg half (Fin.ext (Nat.add_sub_cancel_left _ _))

instance : IsStrictTotalOrder CodePoint (· < ·) where
  irrefl point := Nat.lt_irrefl point.toNat
  trans _ _ _ h h' := Nat.lt_trans h h'
  trichotomous _ _ h h' := toNat_injective (Nat.le_antisymm (Nat.not_lt.1 h') (Nat.not_lt.1 h))

end CodePoint

namespace CodeText

/-- Texts with the same code points are the same. -/
theorem eq_of_points_eq {left right : CodeText} (h : left.points = right.points) :
    left = right := by
  cases left
  cases right
  cases h
  rfl

/-- The characters of a string are the code points of its text. -/
theorem char_mem_points_ofString {c : Char} {text : String} :
    .char c ∈ (ofString text).points ↔ c ∈ text.toList :=
  List.mem_map_of_injective fun _ _ => CodePoint.char.inj

/-- A string is found again in the text of its characters. -/
@[grind inj]
theorem ofString_injective : Function.Injective ofString := fun _ _ h =>
  String.toList_inj.1
    (Function.Injective.list_map (fun _ _ => CodePoint.char.inj) (congrArg points h))

@[simp]
theorem ofString_inj {first second : String} :
    ofString first = ofString second ↔ first = second :=
  ofString_injective.eq_iff

/-- A string after another one is the text of the two. -/
theorem ofString_append (first second : String) :
    ofString (first ++ second) = first ++ ofString second :=
  eq_of_points_eq (by simp)

/-- A text is found again after a string. -/
theorem string_append_injective (before : String) :
    Function.Injective fun text : CodeText => before ++ text := fun _ _ h =>
  eq_of_points_eq (List.append_cancel_left (congrArg points h))

/-- A text is found again before a string. -/
theorem append_string_injective (after : String) :
    Function.Injective fun text : CodeText => text ++ after := fun _ _ h =>
  eq_of_points_eq (List.append_cancel_right (congrArg points h))

/-- Strings that are added to a text in turn are added together. -/
theorem append_string_append (text : CodeText) (first second : String) :
    text ++ (first ++ second) = text ++ first ++ second :=
  eq_of_points_eq (by simp)

instance : IsStrictTotalOrder CodeText (· < ·) where
  irrefl text := List.lt_irrefl text.points
  trans _ _ _ h h' := List.lt_trans h h'
  trichotomous left right h h' := by
    have hpoints : Std.Trichotomous (@LT.lt (List CodePoint) _) := inferInstance
    exact eq_of_points_eq (hpoints.trichotomous left.points right.points h h')

end CodeText

end BuildAudit
