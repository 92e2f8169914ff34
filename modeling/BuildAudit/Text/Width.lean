import BuildAudit.Text.Width.Table

/-!
# Widths of texts

A text takes as many columns as its characters. A joiner takes none and hides the character after
it, and the emoji variation selector widens the character before it if that is an emoji of one
column.
-/

namespace BuildAudit.Text

/-- The character that joins the emoji around it to one. -/
def joiner : Char := '\u200D'

/-- The character that asks for the emoji form of the one before it. -/
def emojiSelector : Char := '\uFE0F'

/-- The columns that a character takes by itself. -/
def charWidth (c : Char) : Nat :=
  if columnlessCodePoints.contains c then 0 else if wideCodePoints.contains c then 2 else 1

/-- The columns that a variation selector adds to the character before it. -/
def widening : Option Char → Nat
  | some c => if widenedCodePoints.contains c then 1 else 0
  | none => 0

/-- The columns of a text that follows a character; only one that takes columns counts as such. -/
def widthAfter (last? : Option Char) : List Char → Nat
  | [] => 0
  | c :: rest =>
    if c = joiner then
      match rest with
      | [] => 0
      | _ :: more => widthAfter last? more
    else if c = emojiSelector then widening last? + widthAfter none rest
    else if charWidth c = 0 then widthAfter last? rest
    else charWidth c + widthAfter (some c) rest

/-- The columns that a text takes. -/
def width (cs : List Char) : Nat :=
  widthAfter none cs

end BuildAudit.Text
