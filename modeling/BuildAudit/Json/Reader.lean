import BuildAudit.Decimal.Dyadic
import BuildAudit.Json.Fault
import BuildAudit.Text.CodeText
import BuildAudit.Text.Hexadecimal
import BuildAudit.Text.Integer
import BuildAudit.Value.Basic

/-!
# Reading JSON

A JSON text is read into a `Value` with texts of code points, as a string may name halves of
characters. Beyond the standard, `NaN`, `Infinity` and `-Infinity` are read as numbers, and of
members with one name the last counts, in the place of the first. Reading stops at the first fault,
and at a number that is too long or a nesting that is too deep.
-/

namespace BuildAudit.Json

/-- The blank characters between tokens. -/
def isSpace (c : Char) : Bool :=
  c = ' ' || c = '\t' || c = '\n' || c = '\r'

/-- What follows the blanks at the start of a text. -/
def skipSpace (cs : List Char) : List Char :=
  cs.dropWhile isSpace

/-- The character that a one-letter escape stands for. -/
def escaped? : Char → Option Char
  | '"' => some '"'
  | '\\' => some '\\'
  | '/' => some '/'
  | 'b' => some '\x08'
  | 'f' => some '\x0c'
  | 'n' => some '\n'
  | 'r' => some '\r'
  | 't' => some '\t'
  | _ => none

/-- Reads a string up to its closing mark, after the codes that are read already, the last one
first. `opening` is the text from the opening mark on. -/
def readCodes (opening : List Char) (codes : List Nat) :
    List Char → Except Refusal (List Nat × List Char)
  | [] => .error (Refusal.at .unterminated opening)
  | '"' :: rest => .ok (codes.reverse, rest)
  | '\\' :: 'u' :: a :: b :: c :: d :: e :: rest =>
    match Text.hexNumber? [a, b, c, d] with
    | some code => readCodes opening (code :: codes) (e :: rest)
    | none => .error (Refusal.at .invalidCode ('u' :: a :: b :: c :: d :: e :: rest))
  | '\\' :: 'u' :: rest => .error (Refusal.at .invalidCode ('u' :: rest))
  | '\\' :: c :: rest =>
    match escaped? c with
    | some image => readCodes opening (image.toNat :: codes) rest
    | none => .error (Refusal.at .invalidEscape ('\\' :: c :: rest))
  | ['\\'] => .error (Refusal.at .unterminated opening)
  | c :: rest =>
    if c.toNat < 32 then .error (Refusal.at .controlCharacter (c :: rest))
    else readCodes opening (c.toNat :: codes) rest

/-- The text of a list of codes. Two codes that make up one character beyond the first plane are
joined. -/
def textOfCodes (codes : List Nat) : CodeText :=
  .ofPoints (codes.map .ofNat)

/-- Reads a string. The text starts after the opening mark. -/
def readString (rest : List Char) : Except Refusal (CodeText × List Char) :=
  match readCodes ('"' :: rest) [] rest with
  | .ok (codes, rest) => .ok (textOfCodes codes, rest)
  | .error refusal => .error refusal

/-- The number that a run of decimal digits denotes. -/
def decimalNumber (cs : List Char) : Nat :=
  cs.foldl (fun number c => 10 * number + (c.toNat - 48)) 0

/-- The digits after a decimal point, and what follows them. Without a digit there is no
fraction. -/
def splitFraction : List Char → List Char × List Char
  | '.' :: rest =>
    let digits := rest.takeWhile Char.isDigit
    if digits.isEmpty then ([], '.' :: rest) else (digits, rest.dropWhile Char.isDigit)
  | cs => ([], cs)

/-- The exponent of a number, and what follows it. Without a digit there is no exponent. -/
def splitExponent (cs : List Char) : Option Int × List Char :=
  match cs with
  | mark :: rest =>
    if mark = 'e' || mark = 'E' then
      let (negative, body) := match rest with
        | '-' :: body => (true, body)
        | '+' :: body => (false, body)
        | body => (false, body)
      let digits := body.takeWhile Char.isDigit
      if digits.isEmpty then (none, cs)
      else
        let exponent : Int := decimalNumber digits
        (some (if negative then -exponent else exponent), body.dropWhile Char.isDigit)
    else (none, cs)
  | [] => (none, cs)

/-- The whole part of a number: a zero by itself, or digits that do not start with zero. -/
def splitWhole? : List Char → Option (List Char × List Char)
  | '0' :: rest => some (['0'], rest)
  | cs =>
    let digits := cs.takeWhile Char.isDigit
    if digits.isEmpty then none else some (digits, cs.dropWhile Char.isDigit)

/-- Reads a number: a whole number if it has neither a fraction nor an exponent, else the nearest
double. -/
def readNumber (cs : List Char) : Except Refusal (JsonValue × List Char) :=
  let (negative, body) := match cs with
    | '-' :: body => (true, body)
    | body => (false, body)
  match splitWhole? body with
  | none => .error (Refusal.at .expectedValue cs)
  | some (whole, rest) =>
    let (fraction, rest) := splitFraction rest
    let (exponent, rest) := splitExponent rest
    if fraction.isEmpty && exponent.isNone then
      if whole.length > Text.maxDigits then .error (.excess (.digits whole.length))
      else
        let number : Int := decimalNumber whole
        .ok (.int (if negative then -number else number), rest)
    else
      let digits := decimalNumber (whole ++ fraction)
      let scale := exponent.getD 0 - fraction.length
      .ok (.float (Decimal.nearestFloat negative digits scale), rest)

/-- The double with all bits of infinity. -/
def infinity : Float := Float.ofBits 0x7FF0000000000000

/-- The double that is not a number. -/
def notANumber : Float := Float.ofBits 0x7FF8000000000000

/-- Reads a value other than a string, a list or a table. -/
def readPlain (cs : List Char) : Except Refusal (JsonValue × List Char) :=
  match cs with
  | 'n' :: 'u' :: 'l' :: 'l' :: rest => .ok (.null, rest)
  | 't' :: 'r' :: 'u' :: 'e' :: rest => .ok (.bool true, rest)
  | 'f' :: 'a' :: 'l' :: 's' :: 'e' :: rest => .ok (.bool false, rest)
  | 'N' :: 'a' :: 'N' :: rest => .ok (.float notANumber, rest)
  | 'I' :: 'n' :: 'f' :: 'i' :: 'n' :: 'i' :: 't' :: 'y' :: rest => .ok (.float infinity, rest)
  | '-' :: 'I' :: 'n' :: 'f' :: 'i' :: 'n' :: 'i' :: 't' :: 'y' :: rest =>
    .ok (.float (-infinity), rest)
  | _ => readNumber cs

/-- How deeply lists and tables may be nested. -/
def maxNesting : Nat := 990

mutual

/-- Reads a value. The first argument bounds the number of values that are nested or follow one
another, the second one is how much deeper lists and tables may be nested. -/
def readValue : Nat → Nat → List Char → Except Refusal (JsonValue × List Char)
  | 0, _, cs => .error (Refusal.at .expectedValue cs)
  | fuel + 1, room, cs =>
    match cs with
    | '"' :: rest =>
      match readString rest with
      | .ok (text, rest) => .ok (.string text, rest)
      | .error refusal => .error refusal
    | '[' :: rest =>
      match room with
      | 0 => .error (.excess .nesting)
      | room + 1 =>
        match skipSpace rest with
        | ']' :: rest => .ok (.list [], rest)
        | rest => readItems fuel room [] rest
    | '{' :: rest =>
      match room with
      | 0 => .error (.excess .nesting)
      | room + 1 =>
        match skipSpace rest with
        | '}' :: rest => .ok (.table [], rest)
        | rest => readMembers fuel room [] rest
    | cs => readPlain cs

/-- Reads the items of a list from one of them on, after those that are read already, the last one
first. -/
def readItems : Nat → Nat → List JsonValue → List Char → Except Refusal (JsonValue × List Char)
  | 0, _, _, cs => .error (Refusal.at .expectedValue cs)
  | fuel + 1, room, items, cs =>
    match readValue fuel room cs with
    | .error refusal => .error refusal
    | .ok (value, rest) =>
      match skipSpace rest with
      | ']' :: rest => .ok (.list (value :: items).reverse, rest)
      | ',' :: rest => readItems fuel room (value :: items) (skipSpace rest)
      | rest => .error (Refusal.at .expectedComma rest)

/-- Reads the members of a table from one of them on, after those that are read already, the last
one first. -/
def readMembers :
    Nat → Nat → List (CodeText × JsonValue) → List Char → Except Refusal (JsonValue × List Char)
  | 0, _, _, cs => .error (Refusal.at .expectedValue cs)
  | fuel + 1, room, entries, cs =>
    match cs with
    | '"' :: rest =>
      match readString rest with
      | .error refusal => .error refusal
      | .ok (name, rest) =>
        match skipSpace rest with
        | ':' :: rest =>
          match readValue fuel room (skipSpace rest) with
          | .error refusal => .error refusal
          | .ok (value, rest) =>
            match skipSpace rest with
            | '}' :: rest =>
              .ok (.table (Table.ofEntries ((name, value) :: entries).reverse), rest)
            | ',' :: rest => readMembers fuel room ((name, value) :: entries) (skipSpace rest)
            | rest => .error (Refusal.at .expectedComma rest)
        | rest => .error (Refusal.at .expectedColon rest)
    | cs => .error (Refusal.at .expectedName cs)

end

/-- Reads a JSON text. -/
def read (text : String) : Except Refusal JsonValue :=
  let cs := text.toList
  match cs with
  | '\uFEFF' :: _ => .error (Refusal.at .byteOrderMark cs)
  | _ =>
    match readValue (2 * cs.length + 2) maxNesting (skipSpace cs) with
    | .error refusal => .error refusal
    | .ok (value, rest) =>
      match skipSpace rest with
      | [] => .ok value
      | rest => .error (Refusal.at .extraData rest)

end BuildAudit.Json
