import BuildAudit.Console.Literal.Token

/-!
# Literals

A literal is a number with or without a sign, a real and an imaginary number added or subtracted,
texts side by side, one of the words `None`, `True` and `False`, three dots, or a collection of
literals: a tuple, which needs no parentheses where it stands alone, a set, or a table. Members of a
set and keys of a table must not be sets or tables themselves, or hold any. The empty set is written
as a call: a name, which may be in parentheses, and parentheses with nothing between them.

The parts of a literal lie deeper than the literal, and what lies too deep cannot be read.
-/

namespace BuildAudit.Console

/-- A literal, or the name of the empty set, as far as it matters where it may stand. -/
inductive Literal where
  /-- A number without a sign. -/
  | number (imaginary : Bool)
  /-- A number with a sign. -/
  | signed (imaginary : Bool)
  /-- Any other literal, with whether it is or holds a set or a table. -/
  | other (changeable : Bool)
  /-- The name that makes an empty set when it is called, which is no literal by itself. -/
  | setName
deriving DecidableEq, Repr

namespace Literal

/-- Whether a literal is or holds a set or a table. -/
def isChangeable : Literal → Bool
  | .other changeable => changeable
  | _ => false

/-- Reads something at the start of tokens and gives what follows it. -/
abbrev Reader := List Token → Option (Literal × List Token)

/-- The opening brace. -/
def openBrace : Token := .mark '\x7b'

/-- The closing brace. -/
def closeBrace : Token := .mark '\x7d'

/-- The deepest place that is read. -/
def maxDepth : Nat := 6000

/-- How much deeper than a literal its operands lie. -/
def operandDepth : Nat := 22

/-- How much deeper an operand lies after a sign. -/
def signDepth : Nat := 1

/-- How deep the texts of an operand lie. -/
def textDepth : Nat := 2

/-- How deep the parentheses of a call lie, the name of which is an operand. -/
def callDepth : Nat := 24

/-- The depth of the literals that stand in no parentheses, by their places in the list. -/
def outerDepth : Nat → Nat
  | 0 => 3
  | _ => 5

/-- How much deeper than a tuple its items lie, by their places. -/
def tupleDepth : Nat → Nat
  | 0 => 6
  | 1 => 8
  | _ => 9

/-- How much deeper than a set or a table its elements lie, by their places. -/
def bracedDepth : Nat → Nat
  | 0 => 7
  | _ => 8

/-- The literals of a list, and what follows them. -/
structure Items where
  /-- The literals. -/
  items : List Literal
  /-- Whether one of them has a comma after it. -/
  comma : Bool
  /-- What follows. -/
  rest : List Token

/-- The tuple that a list makes, or its only item if that has no comma. -/
def Items.literal? (list : Items) : Option Literal :=
  match list with
  | { items := [item], comma := false, .. } => some item
  | { items, .. } =>
    if items.contains .setName then none else some (.other (items.any isChangeable))

/-- Reads literals with commas between them from a place in a list on, as many as there may be at
most. Where one may follow there must be the depth for it. -/
def items? (read : Nat → Reader) (depth : Nat → Nat) (place : Nat) :
    Nat → List Token → Option Items
  | 0, _ => none
  | most + 1, tokens =>
    if depth place + operandDepth > maxDepth then none
    else
      match read (depth place) tokens with
      | none => some { items := [], comma := false, rest := tokens }
      | some (item, .mark ',' :: rest) =>
        (items? read depth (place + 1) most rest).map fun more =>
          { more with items := item :: more.items, comma := true }
      | some (item, rest) => some { items := [item], comma := false, rest }

/-- Reads literals with commas between them. -/
def list? (read : Nat → Reader) (depth : Nat → Nat) (tokens : List Token) : Option Items :=
  items? read depth 0 (tokens.length + 1) tokens

/-- Reads a literal and not the name of the empty set. -/
def proper? (read : Reader) : Reader := fun tokens =>
  (read tokens).filter fun found => found.1 ≠ .setName

/-- Reads a member of a set, or an entry of a table: a key with a colon and a value after it. An
entry counts as changeable, which a member never is. -/
def element? (read : Reader) : Reader := fun tokens =>
  match (proper? read tokens).filter fun found => !found.1.isChangeable with
  | some (_, .mark ':' :: rest) => (proper? read rest).map fun found => (.other true, found.2)
  | found => found

/-- A number with a sign in front of it. -/
def withSign? : Literal → Option Literal
  | .number imaginary => some (.signed imaginary)
  | _ => none

/-- The sum or the difference of a real and an imaginary number. -/
def combined? : Literal → Literal → Option Literal
  | .number false, .number true => some (.other false)
  | .signed false, .number true => some (.other false)
  | _, _ => none

/-- Whether a token is a sign. -/
def isSign (token : Token) : Bool :=
  token == .mark '+' || token == .mark '-'

/-- Reads an operand with a sign or without. -/
def signed? (operand : Nat → Reader) (depth : Nat) : Reader := fun tokens =>
  match tokens with
  | [] => none
  | token :: rest =>
    if isSign token then
      (operand (depth + signDepth) rest).bind fun (found, rest) => (withSign? found).map (·, rest)
    else operand depth tokens

/-- Reads an operand, or two with a sign between them. -/
def sum? (operand : Nat → Reader) (depth : Nat) : Reader := fun tokens =>
  (signed? operand (depth + operandDepth) tokens).bind fun (left, rest) =>
    match rest with
    | [] => some (left, [])
    | token :: more =>
      if isSign token then
        (operand (depth + operandDepth) more).bind fun (right, rest) =>
          (combined? left right).map (·, rest)
      else some (left, rest)

/-- What follows texts side by side, which are all made of octets or all of characters. -/
def afterTexts? (octets : Bool) : List Token → Option (List Token)
  | .text further :: rest => if further = octets then afterTexts? octets rest else none
  | rest => some rest

/-- Reads what follows an opening parenthesis. -/
def tuple? (read : Nat → Reader) (depth : Nat) : Reader := fun tokens =>
  match list? read (depth + tupleDepth ·) tokens with
  | some list =>
    match list.rest with
    | .mark ')' :: rest => list.literal?.map (·, rest)
    | _ => none
  | none => none

/-- Reads what follows an opening brace: members alone, or entries alone. -/
def braced? (read : Nat → Reader) (depth : Nat) : Reader := fun tokens =>
  match list? (element? ∘ read) (depth + bracedDepth ·) tokens with
  | some list =>
    match list.rest with
    | token :: rest =>
      let uniform := list.items.all isChangeable || !list.items.any isChangeable
      if token == closeBrace && uniform then some (.other true, rest) else none
    | [] => none
  | none => none

/-- The letters of the name of the empty set, each in all its forms. -/
def setNameForms : List String := [
  "sſˢₛｓ𝐬𝑠𝒔𝓈𝓼𝔰𝕤𝖘𝗌𝘀𝘴𝙨𝚜", "eᵉₑℯⅇｅ𝐞𝑒𝒆𝓮𝔢𝕖𝖊𝖾𝗲𝘦𝙚𝚎", "tᵗₜｔ𝐭𝑡𝒕𝓉𝓽𝔱𝕥𝖙𝗍𝘁𝘵𝙩𝚝"]

/-- Whether a word is the name of the empty set, its letters in any form. -/
def isSetName (word : String) : Bool :=
  word.length = setNameForms.length &&
    (word.toList.zip setNameForms).all fun (c, forms) => forms.toList.contains c

/-- The words that are literals. -/
def constants : List String := ["None", "True", "False", "..."]

/-- What a word is. -/
def ofWord? (word : String) : Option Literal :=
  if constants.contains word then some (.other false)
  else if isSetName word then some .setName
  else none

/-- The empty set if its name is called, or else what is read already. -/
def called? (depth : Nat) : Literal × List Token → Option (Literal × List Token)
  | (.setName, .mark '(' :: .mark ')' :: rest) =>
    if depth + callDepth > maxDepth then none else some (.other true, rest)
  | found => some found

/-- Reads a literal that is not a sum and has no sign at a depth, with fewer collections around
another than there may be. -/
def operand? : Nat → Nat → Reader
  | 0, _, _ => none
  | nesting + 1, depth, tokens =>
    let read := sum? (operand? nesting)
    if depth > maxDepth then none
    else
      match tokens with
      | .number imaginary :: rest => some (.number imaginary, rest)
      | .text octets :: rest =>
        if depth + textDepth > maxDepth then none
        else (afterTexts? octets rest).map (.other false, ·)
      | .word name :: rest => (ofWord? name).bind fun found => called? depth (found, rest)
      | .mark '(' :: rest => (tuple? read depth rest).bind (called? depth)
      | token :: rest =>
        if token == openBrace then braced? read depth rest else none
      | [] => none

/-- The most parentheses and braces that are open at a time. -/
def maxOpened : Nat := 200

/-- The tokens without the line ends between parentheses and braces, given how many are open, and
without those at the end; elsewhere lines must not end. -/
def joinLines? (opened : Nat) : List Token → Option (List Token)
  | [] => some []
  | token :: rest =>
    if token == .lineEnd then
      if opened > 0 then joinLines? opened rest
      else if rest.all (· == .lineEnd) then some []
      else none
    else if token == .mark '(' || token == openBrace then
      if opened = maxOpened then none else (joinLines? (opened + 1) rest).map (token :: ·)
    else
      let now := if token == .mark ')' || token == closeBrace then opened - 1 else opened
      (joinLines? now rest).map (token :: ·)

/-- The tokens of a text without the line ends that do not matter. -/
def tokens? (cs : List Char) : Option (List Token) :=
  (Token.ofText? cs).bind (joinLines? 0)

/-- Whether a text is a literal. -/
def isWritten (cs : List Char) : Bool :=
  let read := sum? (operand? (maxOpened + 1))
  match (tokens? cs).bind (list? read outerDepth) with
  | some list =>
    list.rest.isEmpty && !list.items.isEmpty && list.literal?.any (· ≠ .setName)
  | none => false

end Literal

end BuildAudit.Console
