import BuildAudit.Text.CodePoints

/-!
# Blank characters

The characters that are trimmed from names, commands and captured messages, and that divide words:
the Unicode white space together with the four ASCII information separators U+001C to U+001F. A
zero-width space and a byte order mark are not blank.
-/

namespace BuildAudit.Text

/-- The code points trimmed at the ends of a text. -/
def blankCodePoints : CodePoints where
  ranges := [
    (9, 13), (28, 32), (133, 133), (160, 160), (5760, 5760), (8192, 8202), (8232, 8233),
    (8239, 8239), (8287, 8287), (12288, 12288)]

/-- Whether a character is trimmed at the ends of a text. -/
def isBlank (c : Char) : Bool :=
  blankCodePoints.contains c

/-- The text without the blank characters at its start. -/
def trimStart (cs : List Char) : List Char :=
  cs.dropWhile isBlank

/-- The text without the blank characters at its end. -/
def trimEnd (cs : List Char) : List Char :=
  (cs.reverse.dropWhile isBlank).reverse

/-- The text without the blank characters at either end. -/
def trim (cs : List Char) : List Char :=
  trimEnd (trimStart cs)

/-- Whether nothing remains of a text once it is trimmed. -/
def isBlankText (text : String) : Bool :=
  text.toList.all isBlank

/-- The words of a text, which blanks divide. -/
def words : List Char → List (List Char)
  | [] => []
  | c :: rest =>
    if isBlank c then words rest
    else
      match rest with
      | [] => [[c]]
      | next :: _ =>
        if isBlank next then [c] :: words rest
        else
          match words rest with
          | [] => [[c]]
          | word :: more => (c :: word) :: more

end BuildAudit.Text
