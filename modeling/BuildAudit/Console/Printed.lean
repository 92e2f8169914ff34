import BuildAudit.Text.Pieces
import BuildAudit.Text.Width

/-!
# Printed text

What is printed holds no characters that move the cursor, and blanks in place of tabs. A tab leads
to the next column whose number is a multiple of `tabWidth`.
-/

namespace BuildAudit.Console

/-- The width of the columns that tabs lead to. -/
def tabWidth : Nat := 8

/-- Whether a character moves the cursor or rings and is not printed: a bell, a backspace, a
vertical tab, a form feed or a carriage return. -/
def isCursorControl (c : Char) : Bool :=
  c.toNat = 7 || c.toNat = 8 || c.toNat = 11 || c.toNat = 12 || c.toNat = 13

/-- A line from a column on, with blanks for the tabs between its parts. -/
def joinParts (column : Nat) : List (List Char) → List Char
  | [] => []
  | [part] => part
  | part :: rest =>
    let reached := column + Text.width (part ++ [' '])
    let missing := (tabWidth - reached % tabWidth) % tabWidth
    part ++ List.replicate (missing + 1) ' ' ++ joinParts (reached + missing) rest

/-- A text with blanks for its tabs. -/
def expandTabs (cs : List Char) : List Char :=
  ['\n'].intercalate ((Text.pieces '\n' cs).map fun line => joinParts 0 (Text.pieces '\t' line))

/-- A text as it is printed. -/
def printed (text : String) : String :=
  String.ofList (expandTabs (text.toList.filter fun c => !isCursorControl c))

end BuildAudit.Console
