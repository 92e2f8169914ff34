import BuildAudit.Toml.Strings

/-!
# Keys of TOML

A key is a path of parts with points between them. A part is a word of ASCII letters, digits,
hyphens and underscores, or a string on one line.
-/

namespace BuildAudit.Toml

/-- Whether a character may stand in an unquoted part of a key. -/
def isBareChar (c : Char) : Bool :=
  c.isAlphanum || c = '-' || c = '_'

/-- Whether a character may stand at the start of a key. -/
def beginsKey (c : Char) : Bool :=
  isBareChar c || c = '"' || c = '\''

/-- Reads a part of a key. -/
def readKeyPart (cs : List Char) : Except Refusal (String × List Char) :=
  match cs with
  | '"' :: rest => readBasicLine rest
  | '\'' :: rest => readLiteralLine rest
  | _ =>
    let word := cs.takeWhile isBareChar
    if word.isEmpty then .error (.at .invalidKey cs)
    else .ok (String.ofList word, cs.dropWhile isBareChar)

/-- Reads a key and the blanks after it. The first argument bounds the number of its parts. -/
def readKeyParts : Nat → List Char → Except Refusal (Key × List Char)
  | 0, cs => .error (.at .invalidKey cs)
  | fuel + 1, cs => do
    let (part, rest) ← readKeyPart cs
    match skipBlanks rest with
    | '.' :: rest =>
      let (parts, rest) ← readKeyParts fuel (skipBlanks rest)
      return (part :: parts, rest)
    | rest => return ([part], rest)

/-- Reads a key and the blanks after it. -/
def readKey (cs : List Char) : Except Refusal (Key × List Char) :=
  readKeyParts (cs.length + 1) cs

/-- Reads a key with the equals sign and the blanks after it. -/
def readKeyEquals (cs : List Char) : Except Refusal (Key × List Char) := do
  let (key, rest) ← readKey cs
  match rest with
  | '=' :: rest => return (key, skipBlanks rest)
  | _ => throw (.at .expectedEquals rest)

end BuildAudit.Toml
