/-!
# Digits with underscores between them

Long numbers may be written with single underscores between their digits. An underscore that does
not stand between two digits does not belong to the number.
-/

namespace BuildAudit.Text

/-- The digits that go on a run of digits, each after an underscore or not, and what follows. -/
def moreDigits (isDigit : Char → Bool) : List Char → List Char × List Char
  | '_' :: c :: rest =>
    if isDigit c then
      let (digits, rest) := moreDigits isDigit rest
      (c :: digits, rest)
    else ([], '_' :: c :: rest)
  | c :: rest =>
    if isDigit c then
      let (digits, rest) := moreDigits isDigit rest
      (c :: digits, rest)
    else ([], c :: rest)
  | [] => ([], [])

/-- A run of digits with single underscores between them, and what follows it. -/
def underscored? (isDigit : Char → Bool) : List Char → Option (List Char × List Char)
  | c :: rest =>
    if isDigit c then
      let (digits, rest) := moreDigits isDigit rest
      some (c :: digits, rest)
    else none
  | [] => none

end BuildAudit.Text
