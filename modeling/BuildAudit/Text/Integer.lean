import BuildAudit.Text.Blank
import BuildAudit.Text.Digit
import BuildAudit.Text.Quoted

/-!
# Whole numbers in text

A whole number is read in base ten: an optional sign and decimal digits of any script, single
underscores allowed between them, blanks allowed around. At most `maxDigits` digits are read or
written; a number with more digits is refused before anything after its digits is looked at.
-/

namespace BuildAudit.Text

/-- Why a text is not read as a whole number. -/
inductive IntegerFault where
  /-- The text does not have the form of a number. -/
  | malformed (text : String)
  /-- The number has more digits than are read. -/
  | tooLong (digits : Nat)

/-- The most digits a number may have. -/
def maxDigits : Nat := 4300

/-- The message about a number with too many digits, which tells their count if it is known. -/
def tooLongMessage (digits? : Option Nat) : String :=
  let count :=
    match digits? with
    | none => ""
    | some digits => s!": value has {digits} digits"
  s!"Exceeds the limit ({maxDigits} digits) for integer string conversion{count}; " ++
    "use sys.set_int_max_str_digits() to increase the limit"

/-- The message of a fault. A malformed text is shown quoted, up to two hundred characters. -/
def IntegerFault.message : IntegerFault → String
  | .malformed text =>
    "invalid literal for int() with base 10: " ++ String.ofList ((quoted text).toList.take 200)
  | .tooLong digits => tooLongMessage (some digits)

/-- Whether a number has more digits than are written. -/
def isTooLong (number : Int) : Bool :=
  decide (Nat.pow 10 maxDigits ≤ number.natAbs)

/-- Whether a character may surround a number: a blank other than the information separators. -/
def isNumberSpace (c : Char) : Bool :=
  isBlank c && !(0x1C ≤ c.toNat && c.toNat ≤ 0x1F)

/-- The text without the characters that may surround a number. -/
def trimNumber (cs : List Char) : List Char :=
  ((cs.dropWhile isNumberSpace).reverse.dropWhile isNumberSpace).reverse

/-- The values of a run of digits with single underscores between them, and what follows the run;
`none` if there is no such run, or if an underscore in it or after it does not join two digits. -/
def digitRun? : List Char → Option (List Nat × List Char)
  | [] => none
  | c :: rest =>
    match decimalValue? c with
    | none => none
    | some digit =>
      match rest with
      | [] => some ([digit], [])
      | next :: more =>
        if next = '_' then (digitRun? more).map fun run => (digit :: run.1, run.2)
        else if (decimalValue? next).isSome then
          (digitRun? (next :: more)).map fun run => (digit :: run.1, run.2)
        else some ([digit], next :: more)

/-- The number that a list of decimal digits denotes, the most significant digit first. -/
def ofDigits (digits : List Nat) : Nat :=
  digits.foldl (fun number digit => 10 * number + digit) 0

/-- The sign of a number and the text after it; a number without a sign is positive. -/
def splitSign : List Char → Bool × List Char
  | '-' :: rest => (true, rest)
  | '+' :: rest => (false, rest)
  | cs => (false, cs)

/-- Reads a whole number. -/
def readInteger (text : String) : Except IntegerFault Int :=
  let (negative, body) := splitSign (trimNumber text.toList)
  match digitRun? body with
  | none => .error (.malformed text)
  | some (digits, rest) =>
    if digits.length > maxDigits then .error (.tooLong digits.length)
    else if rest.isEmpty then
      let number : Int := ofDigits digits
      .ok (if negative then -number else number)
    else .error (.malformed text)

end BuildAudit.Text
