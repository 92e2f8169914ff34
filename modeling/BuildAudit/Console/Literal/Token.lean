import BuildAudit.Text.CharacterName
import BuildAudit.Text.Integer
import BuildAudit.Text.LineEnds
import BuildAudit.Text.Pieces
import BuildAudit.Text.Underscored

/-!
# Tokens of literals

Literals are made of numbers, quoted texts, words and marks. A number may have a letter for its
base, a fraction, an exponent, and a letter at its end that makes it imaginary. A text stands
between one or three quotation marks, and letters in front of it say that its backslashes mean
nothing or that it is made of octets. Lines that are empty or hold only a comment may go before the
first token, which must not be indented.
-/

namespace BuildAudit.Console

/-- A token. -/
inductive Token where
  /-- A number. -/
  | number (imaginary : Bool)
  /-- A quoted text, of octets or of characters. -/
  | text (octets : Bool)
  /-- A word. -/
  | word (name : String)
  /-- A mark. -/
  | mark (c : Char)
  /-- The end of a line. -/
  | lineEnd
deriving DecidableEq, Repr

namespace Token

/-- Whether a character may stand in a word. -/
def isWordChar (c : Char) : Bool :=
  c.isAlphanum || c = '_' || 128 ≤ c.toNat

/-- Whether a character is a digit of a base. -/
def isDigitOf (base : Nat) (c : Char) : Bool :=
  match Text.hexValue? c with
  | some value => value < base
  | none => false

/-- The base that a letter after a zero stands for. -/
def baseOf? (c : Char) : Option Nat :=
  if c = 'x' || c = 'X' then some 16
  else if c = 'o' || c = 'O' then some 8
  else if c = 'b' || c = 'B' then some 2
  else none

/-- What follows digits of a base, in front of which one underscore may stand. -/
def afterBased? (base : Nat) (cs : List Char) : Option (List Char) :=
  let digits :=
    match cs with
    | '_' :: rest => rest
    | cs => cs
  (Text.underscored? (isDigitOf base) digits).map (·.2)

/-- What follows a fraction, if there is one. -/
def afterFraction (cs : List Char) : List Char :=
  match cs with
  | '.' :: rest => ((Text.underscored? Char.isDigit rest).map (·.2)).getD rest
  | cs => cs

/-- What follows an exponent, if there is one. -/
def afterExponent (cs : List Char) : List Char :=
  match cs with
  | [] => []
  | letter :: rest =>
    if letter = 'e' || letter = 'E' then
      ((Text.underscored? Char.isDigit (Text.splitSign rest).2).map (·.2)).getD cs
    else cs

/-- Whether digits make no whole number. Zeros alone always do; other digits must not start with a
zero, and there must not be too many of them. -/
def isWrongWhole (digits : List Char) : Bool :=
  digits.any (· ≠ '0') && (digits.head? == some '0' || digits.length > Text.maxDigits)

/-- A decimal and what follows it. It begins with a digit, or with a point and a digit. -/
def decimal? (cs : List Char) : Option (Bool × List Char) :=
  let run :=
    match cs with
    | '.' :: rest => (Text.underscored? Char.isDigit rest).map fun _ => ([], cs)
    | _ => Text.underscored? Char.isDigit cs
  run.bind fun (digits, rest) =>
    let after := afterExponent (afterFraction rest)
    match after with
    | letter :: more =>
      if letter = 'j' || letter = 'J' then some (true, more)
      else if isWrongWhole digits && after.length = rest.length then none
      else some (false, after)
    | [] => if rest.isEmpty && isWrongWhole digits then none else some (false, [])

/-- A number and what follows it, which no word may begin. -/
def number? (cs : List Char) : Option (Bool × List Char) :=
  let found : Option (Bool × List Char) :=
    match cs with
    | '0' :: letter :: rest =>
      match baseOf? letter with
      | some base => (afterBased? base rest).map (false, ·)
      | none => decimal? cs
    | _ => decimal? cs
  found.filter fun (_, rest) => !rest.head?.any isWordChar

/-- How a quoted text is written. -/
structure Quotation where
  /-- The quotation mark. -/
  quote : Char
  /-- Whether three quotation marks stand at each end. -/
  triple : Bool
  /-- Whether backslashes mean nothing. -/
  raw : Bool
  /-- Whether the text is made of octets. -/
  octets : Bool
deriving DecidableEq, Repr

/-- The number of hexadecimal digits that a letter after a backslash asks for. -/
def Quotation.digitsAfter (form : Quotation) (letter : Char) : Nat :=
  if form.raw then 0
  else if letter = 'x' then 2
  else if form.octets then 0
  else if letter = 'u' then 4
  else if letter = 'U' then 8
  else 0

/-- Whether a text begins with the name of a character in braces. -/
def beginsNamed : List Char → Bool
  | '\x7b' :: rest =>
    (Text.cutAt? '\x7d' (fun _ => false) rest).any fun parts => Text.isCharacterName parts.1
  | _ => false

/-- Whether what a letter after a backslash asks for is there: digits that give a code point, or the
name of a character. -/
def Quotation.isEscape (form : Quotation) (letter : Char) (rest : List Char) : Bool :=
  if letter = 'N' && !form.raw && !form.octets then beginsNamed rest
  else
    let count := form.digitsAfter letter
    let digits := rest.take count
    digits.length = count && (Text.hexNumber? digits).any (· ≤ 0x10FFFF)

/-- Whether a character may stand in a text as it is. -/
def Quotation.allows (form : Quotation) (c : Char) : Bool :=
  (form.triple || c ≠ '\n') && (!form.octets || c.toNat < 128)

/-- What follows the end of a quoted text. -/
def afterText? (form : Quotation) : List Char → Option (List Char)
  | [] => none
  | [c] => if c = form.quote && !form.triple then some [] else none
  | c :: next :: rest =>
    if c = '\\' then
      if form.isEscape next rest && (next = '\n' || form.allows next) then afterText? form rest
      else none
    else if c = form.quote then
      if !form.triple then some (next :: rest)
      else
        match rest with
        | last :: more =>
          if next = form.quote && last = form.quote then some more
          else afterText? form (next :: rest)
        | [] => none
    else if form.allows c then afterText? form (next :: rest)
    else none

/-- Whether letters in front of a quotation mark make backslashes mean nothing, and whether they
make the text one of octets. -/
def form? (letters : List Char) : Option (Bool × Bool) :=
  match letters.map Char.toLower with
  | [] | ['u'] => some (false, false)
  | ['r'] => some (true, false)
  | ['b'] => some (false, true)
  | ['b', 'r'] | ['r', 'b'] => some (true, true)
  | _ => none

/-- A quoted text with the letters in front of it, and what follows it. -/
def text? (letters : List Char) : List Char → Option (Token × List Char)
  | [] => none
  | quote :: rest =>
    (form? letters).bind fun (raw, octets) =>
      let triple := [quote, quote].isPrefixOf rest
      let form : Quotation := { quote, triple, raw, octets }
      (afterText? form (if triple then rest.drop 2 else rest)).map (.text octets, ·)

/-- Whether a character is a quotation mark. -/
def isQuote (c : Char) : Bool :=
  c = '\'' || c = '"'

/-- A word, or the quoted text that it stands in front of, and what follows. -/
def word? (cs : List Char) : Option (Token × List Char) :=
  let letters := cs.takeWhile isWordChar
  let rest := cs.drop letters.length
  if rest.head?.any isQuote then text? letters rest
  else some (.word (String.ofList letters), rest)

/-- The marks. -/
def marks : List Char := ['(', ')', '\x7b', '\x7d', ',', ':', '+', '-']

/-- The first token of a text that does not start with a blank, and what follows it. -/
def first? (cs : List Char) : Option (Token × List Char) :=
  match cs with
  | [] => none
  | '\n' :: rest => some (.lineEnd, rest)
  | '.' :: '.' :: '.' :: rest => some (.word "...", rest)
  | '.' :: _ => (number? cs).map fun found => (.number found.1, found.2)
  | c :: rest =>
    if c.isDigit then (number? cs).map fun found => (.number found.1, found.2)
    else if isQuote c then text? [] cs
    else if isWordChar c then word? cs
    else if marks.contains c then some (.mark c, rest)
    else none

/-- What follows the blanks and the comment at the start of a text. A line end after a backslash is
one of the blanks. -/
def skipBlanks : List Char → List Char
  | [] => []
  | '\\' :: '\n' :: rest => skipBlanks rest
  | c :: rest =>
    if c = ' ' || c = '\t' || c = '\x0c' then skipBlanks rest
    else if c = '#' then rest.dropWhile (· ≠ '\n')
    else c :: rest

/-- Whether the blanks at the start of a line indent it, and what follows them. A form feed takes an
indentation back; where a line end after a backslash goes on with the line, an indentation in front
of the backslash stays. -/
def indentation (fixed indented : Bool) : List Char → Bool × List Char
  | '\\' :: '\n' :: rest => indentation (fixed || indented) indented rest
  | '\x0c' :: rest => indentation fixed false rest
  | ' ' :: rest | '\t' :: rest => indentation fixed true rest
  | cs => (fixed || indented, cs)

/-- What follows the blanks of a line is no longer than the line. -/
theorem length_indentation_le (fixed indented : Bool) (cs : List Char) :
    (indentation fixed indented cs).2.length ≤ cs.length := by
  fun_induction indentation fixed indented cs <;> simp only [List.length_cons] at * <;> omega

/-- The text from its first token on, which must not be indented. -/
def fromFirstToken? (cs : List Char) : Option (List Char) :=
  match _h : indentation false false cs with
  | (_, '\n' :: rest) => fromFirstToken? rest
  | (_, '#' :: rest) => fromFirstToken? ((rest.dropWhile (· ≠ '\n')).drop 1)
  | (indented, rest) => if indented then none else some rest
termination_by cs.length
decreasing_by
  all_goals
    have hle := length_indentation_le false false cs
    simp only [_h, List.length_cons] at hle
  · omega
  · have := (List.dropWhile_sublist (fun c => decide (c ≠ '\n')) (l := rest)).length_le
    simp only [List.length_drop]
    omega

/-- The tokens of a text, as many as there may be at most. -/
def upTo? : Nat → List Char → Option (List Token)
  | 0, _ => none
  | most + 1, cs =>
    match skipBlanks cs with
    | [] => some []
    | rest => (first? rest).bind fun (token, rest) => (upTo? most rest).map (token :: ·)

/-- The tokens of a text, which must not hold the character of code zero. -/
def ofText? (cs : List Char) : Option (List Token) :=
  if cs.contains '\x00' then none
  else (fromFirstToken? (Text.unifyLineEnds cs)).bind (upTo? (cs.length + 1))

end Token

end BuildAudit.Console
