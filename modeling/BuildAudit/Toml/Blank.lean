import BuildAudit.Toml.Fault

/-!
# Blanks and comments of TOML

Tokens on a line are separated by spaces and tabs; inside a list line feeds and comments separate
them as well. A comment runs to the end of its line and holds no control character but the tab.
-/

namespace BuildAudit.Toml

/-- Whether a character is a space or a tab. -/
def isBlank (c : Char) : Bool :=
  c = ' ' || c = '\t'

/-- Whether a character is a control character of ASCII. -/
def isControl (c : Char) : Bool :=
  c.toNat < 32 || c.toNat = 127

/-- Whether a character may stand inside a line of text. -/
def isInline (c : Char) : Bool :=
  !isControl c || c = '\t'

/-- What follows the blanks at the start of a text. -/
def skipBlanks (cs : List Char) : List Char :=
  cs.dropWhile isBlank

/-- What follows a comment, if one starts here. -/
def skipComment (cs : List Char) : Except Refusal (List Char) :=
  match cs with
  | '#' :: rest =>
    match rest.dropWhile isInline with
    | [] => .ok []
    | c :: rest => if c = '\n' then .ok (c :: rest) else .error (.at (.forbidden c) (c :: rest))
  | cs => .ok cs

/-- What follows the blanks, line feeds and comments at the start of a text, which begins inside a
comment or not. -/
def skipFiller (inComment : Bool) : List Char → Except Refusal (List Char)
  | [] => .ok []
  | c :: rest =>
    if c = '\n' then skipFiller false rest
    else if inComment then
      if isInline c then skipFiller true rest else .error (.at (.forbidden c) (c :: rest))
    else if isBlank c then skipFiller false rest
    else if c = '#' then skipFiller true rest
    else .ok (c :: rest)

end BuildAudit.Toml
