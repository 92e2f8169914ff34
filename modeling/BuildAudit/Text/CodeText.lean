import BuildAudit.Text.Hexadecimal

/-!
# Texts of code points

A JSON string may name each half of a character beyond the first plane by a code of its own. Two
halves that belong together make up a character, a half by itself stays what it is. So the names
that are read from JSON are texts of code points, which are characters and such halves; the texts
of a build's own are among them.
-/

namespace BuildAudit

/-- A character, or a half of a character beyond the first plane. -/
inductive CodePoint where
  /-- A character. -/
  | char (c : Char)
  /-- A half, by its place among the codes of halves. Those of the first 1024 go before others. -/
  | half (index : Fin 0x800)
deriving DecidableEq, Repr

namespace CodePoint

/-- The code of a code point. -/
def toNat : CodePoint → Nat
  | .char c => c.toNat
  | .half index => 0xD800 + index.val

/-- The code point of a code. -/
def ofNat (code : Nat) : CodePoint :=
  if h : 0xD800 ≤ code ∧ code < 0xE000 then .half ⟨code - 0xD800, by omega⟩
  else .char (Char.ofNat code)

/-- Code points are ordered by their codes. -/
instance : LT CodePoint where
  lt a b := a.toNat < b.toNat

instance : DecidableLT CodePoint := fun a b =>
  inferInstanceAs (Decidable (a.toNat < b.toNat))

/-- The character that a half makes up with the half after it. -/
def pair? : CodePoint → CodePoint → Option Char
  | .half high, .half low =>
    if high.val < 0x400 && 0x400 ≤ low.val then
      some (Char.ofNat (0x10000 + high.val * 0x400 + (low.val - 0x400)))
    else none
  | _, _ => none

/-- The code points with a character for any two halves that make one up. -/
def joinPairs : List CodePoint → List CodePoint
  | [] => []
  | [point] => [point]
  | first :: second :: rest =>
    match pair? first second with
    | some c => .char c :: joinPairs rest
    | none => first :: joinPairs (second :: rest)

/-- A half does not go with a character. -/
@[simp]
theorem pair?_char (first : CodePoint) (c : Char) : pair? first (.char c) = none := by
  cases first <;> rfl

/-- A character stays what it is. -/
@[simp]
theorem joinPairs_char_cons (c : Char) (rest : List CodePoint) :
    joinPairs (.char c :: rest) = .char c :: joinPairs rest := by
  cases rest <;> rfl

/-- Code points around a character are joined apart from each other. -/
@[simp]
theorem joinPairs_append_char_cons (before : List CodePoint) (c : Char) (rest : List CodePoint) :
    joinPairs (before ++ .char c :: rest) = joinPairs before ++ .char c :: joinPairs rest := by
  fun_induction joinPairs before with
  | case1 => exact joinPairs_char_cons c rest
  | case2 point => simp [joinPairs]
  | case3 first second more d hpair ih => simp [joinPairs, hpair, ih]
  | case4 first second more hpair ih =>
    simp only [List.cons_append] at ih ⊢
    rw [joinPairs, hpair, ih]

/-- Code points after characters are joined apart from them. -/
theorem joinPairs_map_char_append (cs : List Char) (points : List CodePoint) :
    joinPairs (cs.map .char ++ points) = cs.map .char ++ joinPairs points := by
  induction cs with
  | nil => rfl
  | cons c rest ih => rw [List.map_cons, List.cons_append, joinPairs_char_cons, ih]; rfl

/-- Characters stay what they are. -/
theorem joinPairs_map_char (cs : List Char) :
    joinPairs (cs.map .char) = cs.map .char := by
  simpa [joinPairs] using joinPairs_map_char_append cs []

/-- Code points before characters are joined apart from them. -/
theorem joinPairs_append_map_char (points : List CodePoint) (cs : List Char) :
    joinPairs (points ++ cs.map .char) = joinPairs points ++ cs.map .char := by
  cases cs with
  | nil => simp
  | cons c rest => rw [List.map_cons, joinPairs_append_char_cons, joinPairs_map_char]

/-- A text begins with the same code point once it is joined, or with a character. -/
theorem joinPairs_cons_cases (first : CodePoint) (rest : List CodePoint) :
    ∃ more, joinPairs (first :: rest) = first :: more ∨
      ∃ c, joinPairs (first :: rest) = .char c :: more := by
  cases rest with
  | nil => exact ⟨[], Or.inl rfl⟩
  | cons second rest =>
    rw [joinPairs]
    split
    · next c _ => exact ⟨_, Or.inr ⟨c, rfl⟩⟩
    · exact ⟨_, Or.inl rfl⟩

/-- What is joined is not joined further. -/
theorem joinPairs_joinPairs (points : List CodePoint) :
    joinPairs (joinPairs points) = joinPairs points := by
  fun_induction joinPairs points with
  | case1 => rfl
  | case2 point => rfl
  | case3 first second more c hpair ih => rw [joinPairs_char_cons, ih]
  | case4 first second more hpair ih =>
    -- What follows the first code point begins as it did or with a character, and neither goes with
    -- the first one.
    obtain ⟨others, heq | ⟨c, heq⟩⟩ := joinPairs_cons_cases second more
    · rw [heq] at ih ⊢
      rw [joinPairs, hpair, ih]
    · rw [heq] at ih ⊢
      rw [joinPairs, pair?_char, ih]

end CodePoint

/-- A text of code points in which no two neighbours make up a character. -/
structure CodeText where
  /-- The code points. -/
  points : List CodePoint
  /-- No two neighbours make up a character. -/
  joined : CodePoint.joinPairs points = points
deriving DecidableEq, Repr

namespace CodeText

/-- The text of given code points. -/
def ofPoints (points : List CodePoint) : CodeText where
  points := CodePoint.joinPairs points
  joined := CodePoint.joinPairs_joinPairs points

/-- A text without halves. -/
def ofString (text : String) : CodeText where
  points := text.toList.map .char
  joined := CodePoint.joinPairs_map_char text.toList

instance : Coe String CodeText where
  coe := ofString

/-- Texts are ordered by the codes of their code points. -/
instance : LT CodeText where
  lt a b := a.points < b.points

instance : DecidableLT CodeText := fun a b => inferInstanceAs (Decidable (a.points < b.points))

/-- Two texts with a character between them. -/
def joinWith (mark : Char) (left right : CodeText) : CodeText where
  points := left.points ++ .char mark :: right.points
  joined := by rw [CodePoint.joinPairs_append_char_cons, left.joined, right.joined]

/-- A text after one without halves. -/
def prepend (before : String) (text : CodeText) : CodeText where
  points := before.toList.map .char ++ text.points
  joined := by rw [CodePoint.joinPairs_map_char_append, text.joined]

/-- A text before one without halves. -/
def append (text : CodeText) (after : String) : CodeText where
  points := text.points ++ after.toList.map .char
  joined := by rw [CodePoint.joinPairs_append_map_char, text.joined]

instance : HAppend String CodeText CodeText where
  hAppend := prepend

instance : HAppend CodeText String CodeText where
  hAppend := append

@[simp]
theorem points_ofString (text : String) : (ofString text).points = text.toList.map .char := rfl

@[simp]
theorem points_joinWith (mark : Char) (left right : CodeText) :
    (joinWith mark left right).points = left.points ++ .char mark :: right.points := rfl

@[simp]
theorem points_string_append (before : String) (text : CodeText) :
    (before ++ text).points = before.toList.map .char ++ text.points := rfl

@[simp]
theorem points_append_string (text : CodeText) (after : String) :
    (text ++ after).points = text.points ++ after.toList.map .char := rfl

/-- Texts with a character between any two of them. -/
def separatedBy (mark : Char) : List CodeText → CodeText
  | [] => ""
  | [text] => text
  | text :: rest => joinWith mark text (separatedBy mark rest)

/-- Texts with commas between them. -/
def listing : List CodeText → CodeText
  | [] => ""
  | [text] => text
  | text :: rest => joinWith ' ' (text ++ ",") (listing rest)

/-- The text as it is shown to people, with its halves by their codes. -/
def shown (text : CodeText) : String :=
  String.ofList (text.points.flatMap fun point =>
    match point with
    | .char c => [c]
    | .half index => '\\' :: 'u' :: Text.hexDigits 4 (0xD800 + index.val))

end CodeText

/-- Symbols of which texts are made, among which is every character. -/
class Alphabet (α : Type) where
  /-- A character as a symbol. -/
  ofChar : Char → α
  /-- Different characters are different symbols. -/
  ofChar_injective : Function.Injective ofChar

instance : Alphabet Char where
  ofChar := id
  ofChar_injective _ _ h := h

instance : Alphabet CodePoint where
  ofChar := .char
  ofChar_injective _ _ := CodePoint.char.inj

@[simp]
theorem Alphabet.ofChar_char (c : Char) : (ofChar c : Char) = c := rfl

@[simp]
theorem Alphabet.ofChar_codePoint (c : Char) : (ofChar c : CodePoint) = .char c := rfl

end BuildAudit
