import BuildAudit.Text.CharacterName.Table
import BuildAudit.Text.CodePoints
import BuildAudit.Text.Hexadecimal

/-!
# Names of characters

Every character has a name of its own, and some have aliases; letters of any case will do. A unified
ideograph is named by its code point, and a Hangul syllable by the sounds that it begins with, has
in its middle and ends with; those names have capital letters only.
-/

namespace BuildAudit.Text

/-- The names on a line of the list of names, given what is read of the first one, the last
character first. -/
def namesAfter (before : List Char) : List Char → List (List Char)
  | [] => [before.reverse]
  | c :: rest =>
    if c.isLower then before.reverse :: namesAfter (before.drop (c.toNat - 'a'.toNat)) rest
    else namesAfter (c :: before) rest

/-- Whether a name in capital letters is in the list of names. -/
def isListedName (name : List Char) : Bool :=
  characterNameLines.any fun line => (namesAfter [] line.toList).contains name

/-- The code points of unified ideographs. -/
def unifiedIdeographs : CodePoints where
  ranges := [
    (13312, 19903), (19968, 40959), (131072, 173791), (173824, 177976), (177984, 178205),
    (178208, 183969), (183984, 191456), (196608, 201546)]

/-- Whether digits with capital letters are the code point of a unified ideograph, in four or five
digits. -/
def isIdeographNumber (digits : List Char) : Bool :=
  (digits.length = 4 || digits.length = 5) && !digits.any Char.isLower &&
    ((hexNumber? digits).map Char.ofNat).any unifiedIdeographs.contains

/-- The sounds that a Hangul syllable may begin with. -/
def hangulInitials : List String := [
  "G", "GG", "N", "D", "DD", "R", "M", "B", "BB", "S", "SS", "", "J", "JJ", "C", "K", "T", "P", "H"]

/-- The sounds that may be in the middle of a Hangul syllable. -/
def hangulVowels : List String := [
  "A", "AE", "YA", "YAE", "EO", "E", "YEO", "YE", "O", "WA", "WAE", "OE", "YO", "U", "WEO", "WE",
  "WI", "YU", "EU", "YI", "I"]

/-- The sounds that a Hangul syllable may end with. -/
def hangulFinals : List String := [
  "", "G", "GG", "GS", "N", "NJ", "NH", "D", "L", "LG", "LM", "LB", "LS", "LT", "LP", "LH", "M",
  "B", "BS", "S", "SS", "NG", "J", "C", "K", "T", "P", "H"]

/-- What follows the beginning of a text, unless the text begins otherwise. -/
def afterBeginning? (beginning : String) (cs : List Char) : Option (List Char) :=
  if beginning.toList.isPrefixOf cs then some (cs.drop beginning.length) else none

/-- What may follow one of some sounds at the start of a text. -/
def afterSound (sounds : List String) (cs : List Char) : List (List Char) :=
  sounds.filterMap fun sound => afterBeginning? sound cs

/-- Whether a text spells a Hangul syllable. -/
def isHangulSyllable (cs : List Char) : Bool :=
  (afterSound hangulInitials cs).any fun rest =>
    (afterSound hangulVowels rest).any fun rest => hangulFinals.contains (String.ofList rest)

/-- Whether a text is the name or an alias of a character. -/
def isCharacterName (name : List Char) : Bool :=
  match afterBeginning? "CJK UNIFIED IDEOGRAPH-" name with
  | some digits => isIdeographNumber digits
  | none =>
    match afterBeginning? "HANGUL SYLLABLE " name with
    | some sounds => isHangulSyllable sounds
    | none => isListedName (name.map Char.toUpper)

end BuildAudit.Text
