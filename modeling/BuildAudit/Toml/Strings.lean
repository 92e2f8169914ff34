import BuildAudit.Text.Hexadecimal
import BuildAudit.Text.Pieces
import BuildAudit.Toml.Blank

/-!
# Strings of TOML

A string is literal, between apostrophes, or basic, between quotation marks and with escapes. Either
is written on one line, or between triple marks over several lines. A line feed right after an
opening triple mark is not part of the string, and up to two marks may stand before a closing one.
-/

namespace BuildAudit.Toml

/-- The character that a one-letter escape stands for. -/
def escaped? : Char → Option Char
  | 'b' => some '\x08'
  | 't' => some '\t'
  | 'n' => some '\n'
  | 'f' => some '\x0c'
  | 'r' => some '\r'
  | '"' => some '"'
  | '\\' => some '\\'
  | _ => none

/-- The character of a code, if it is not half of a pair and not beyond the last code point. -/
def scalar? (cs : List Char) : Option Char :=
  (Text.hexNumber? cs).bind fun code =>
    if code < 0xD800 || (0xE000 ≤ code && code ≤ 0x10FFFF) then some (Char.ofNat code) else none

/-- The refusal of digits that are to be the code of a character and are not. -/
def codeRefusal (digits rest : List Char) : Refusal :=
  if (Text.hexNumber? digits).isSome then .at .noScalar rest else .at .invalidCode (digits ++ rest)

/-- Where the reader of a basic string stands. -/
inductive Place where
  /-- Among the characters of the string. -/
  | text
  /-- After a backslash and blanks, with a line feed still to come. -/
  | lineEnd
  /-- After a backslash at the end of a line, before the next character of the string. -/
  | indent
deriving DecidableEq

/-- Reads a basic string up to its closing mark, after the characters that are read already, the
last one first. -/
def readBasic (multiline : Bool) (place : Place) (before : List Char) :
    List Char → Except Refusal (List Char × List Char)
  | [] => .error (.at .unterminated [])
  | c :: rest =>
    if place = .lineEnd then
      if isBlank c then readBasic multiline .lineEnd before rest
      else if c = '\n' then readBasic multiline .indent before rest
      else .error (.at .strayBackslash (c :: rest))
    else if place = .indent && (isBlank c || c = '\n') then
      readBasic multiline .indent before rest
    else if c = '"' then
      if multiline then
        match rest with
        | '"' :: '"' :: rest => .ok (before.reverse, rest)
        | _ => readBasic multiline .text (c :: before) rest
      else .ok (before.reverse, rest)
    else if c = '\\' then
      match rest with
      | 'u' :: a :: b :: c :: d :: rest =>
        match scalar? [a, b, c, d] with
        | some image => readBasic multiline .text (image :: before) rest
        | none => .error (codeRefusal [a, b, c, d] rest)
      | 'U' :: a :: b :: c :: d :: e :: f :: g :: h :: rest =>
        match scalar? [a, b, c, d, e, f, g, h] with
        | some image => readBasic multiline .text (image :: before) rest
        | none => .error (codeRefusal [a, b, c, d, e, f, g, h] rest)
      | mark :: rest =>
        if multiline && isBlank mark then readBasic multiline .lineEnd before rest
        else if multiline && mark = '\n' then readBasic multiline .indent before rest
        else
          match escaped? mark with
          | some image => readBasic multiline .text (image :: before) rest
          | none =>
            .error (.at (if mark = 'u' || mark = 'U' then .invalidCode else .strayBackslash) rest)
      | [] => .error (.at .strayBackslash [])
    else if isInline c || (multiline && c = '\n') then
      readBasic multiline .text (c :: before) rest
    else .error (.at (.illegal c) (c :: rest))

/-- What stands before three apostrophes, and what follows them. -/
def cutLiteral? : List Char → Option (List Char × List Char)
  | '\'' :: '\'' :: '\'' :: rest => some ([], rest)
  | c :: rest => (cutLiteral? rest).map fun parts => (c :: parts.1, parts.2)
  | [] => none

/-- A literal string that is cut at its closing mark. It must have one and hold allowed characters
only. -/
def checkLiteral (mark : String) (allowed : Char → Bool) :
    Option (List Char × List Char) → Except Refusal (List Char × List Char)
  | none => .error (.at (.expectedMark mark) [])
  | some (body, rest) =>
    match body.dropWhile allowed with
    | [] => .ok (body, rest)
    | c :: more => .error (.at (.forbidden c) (c :: more ++ mark.toList ++ rest))

/-- Adds to a string of several lines the marks, at most two, that stand right after a closing
triple mark. -/
def withTrailingMarks (mark : Char) (body rest : List Char) : String × List Char :=
  match rest with
  | a :: b :: rest' =>
    if a = mark && b = mark then (String.ofList (body ++ [mark, mark]), rest')
    else if a = mark then (String.ofList (body ++ [mark]), b :: rest')
    else (String.ofList body, rest)
  | [a] => if a = mark then (String.ofList (body ++ [mark]), []) else (String.ofList body, rest)
  | [] => (String.ofList body, rest)

/-- The text without a line feed at its start. -/
def dropLineFeed : List Char → List Char
  | '\n' :: rest => rest
  | cs => cs

/-- Reads a basic string on one line. The text starts after the opening mark. -/
def readBasicLine (cs : List Char) : Except Refusal (String × List Char) :=
  (readBasic false .text [] cs).map fun (body, rest) => (String.ofList body, rest)

/-- Reads a literal string on one line. The text starts after the opening mark. -/
def readLiteralLine (cs : List Char) : Except Refusal (String × List Char) :=
  (checkLiteral "'" isInline (Text.cutAt? '\'' (fun _ => false) cs)).map fun (body, rest) =>
    (String.ofList body, rest)

/-- Reads a basic string of several lines. The text starts after the opening mark. -/
def readBasicLines (cs : List Char) : Except Refusal (String × List Char) :=
  (readBasic true .text [] (dropLineFeed cs)).map fun (body, rest) =>
    withTrailingMarks '"' body rest

/-- Reads a literal string of several lines. The text starts after the opening mark. -/
def readLiteralLines (cs : List Char) : Except Refusal (String × List Char) :=
  let cut := cutLiteral? (dropLineFeed cs)
  (checkLiteral "'''" (fun c => isInline c || c = '\n') cut).map fun (body, rest) =>
    withTrailingMarks '\'' body rest

/-- Reads a string of any form, if the text starts with a mark. -/
def readString? : List Char → Option (Except Refusal (String × List Char))
  | '"' :: '"' :: '"' :: rest => some (readBasicLines rest)
  | '\'' :: '\'' :: '\'' :: rest => some (readLiteralLines rest)
  | '"' :: rest => some (readBasicLine rest)
  | '\'' :: rest => some (readLiteralLine rest)
  | _ => none

end BuildAudit.Toml
