import BuildAudit.Text.Lowercase.Table

/-!
# Lower case

Full lower-casing as the Unicode standard defines it without a language: every character is
replaced by its lower-case form, the dotted capital I by two characters, and the Greek capital sigma
by its final form where it ends a word.
-/

namespace BuildAudit.Text

/-- The Greek capital letter sigma, whose lower case depends on its neighbours. -/
def capitalSigma : Char := 'Σ'

/-- The lower-case form of a character that does not depend on its neighbours. -/
def lowerChar (c : Char) : List Char :=
  if c.toNat < 128 then [c.toLower]
  else if c = 'İ' then ['i', '\u0307']
  else
    match lowercaseRuns.findSome? (·.mapped? c.toNat) with
    | some code => [Char.ofNat code]
    | none => [c]

/-- Whether the first character that is not case-ignorable is a cased letter. -/
def startsCased (cs : List Char) : Bool :=
  match cs.dropWhile caseIgnorableCodePoints.contains with
  | [] => false
  | c :: _ => casedCodePoints.contains c

/-- Lower-cases a text of which `afterCased` says whether a cased letter, with only case-ignorable
characters after it, goes before. A sigma after a cased letter and before none takes its final
form. -/
def lowerAfter (afterCased : Bool) : List Char → List Char
  | [] => []
  | c :: rest =>
    let image :=
      if c = capitalSigma then
        if afterCased && !startsCased rest then ['ς'] else ['σ']
      else
        lowerChar c
    let nowCased :=
      if caseIgnorableCodePoints.contains c then afterCased else casedCodePoints.contains c
    image ++ lowerAfter nowCased rest

/-- The text in lower case. -/
def lower (cs : List Char) : List Char :=
  lowerAfter false cs

end BuildAudit.Text
