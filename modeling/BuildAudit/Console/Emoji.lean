import BuildAudit.Console.Emoji.Table
import BuildAudit.Text.Blank
import BuildAudit.Text.Lowercase
import BuildAudit.Text.Pieces

/-!
# Emoji in printed texts

A printed text may name an emoji between two colons, in letters of any case. A name that ends in
`-emoji` or `-text` asks for one of the two forms of the emoji. Names without an emoji, and colons
with a blank between them, stay as they are.
-/

namespace BuildAudit.Console

/-- The names of a list of names and emoji by turns, each with its emoji. -/
def namedEmoji : List (List Char) → List (List Char × List Char)
  | name :: emoji :: rest => (name, emoji) :: namedEmoji rest
  | _ => []

/-- The emoji by their names. -/
def emojiTable : List (List Char × List Char) :=
  emojiLines.flatMap fun line => namedEmoji (Text.pieces ' ' line.toList)

/-- The text without an ending, unless it does not end so. -/
def dropEnding? (ending : String) (cs : List Char) : Option (List Char) :=
  if ending.toList.isSuffixOf cs then some (cs.take (cs.length - ending.length)) else none

/-- The name of a code and the character that asks for the form of the emoji, if there is one. -/
def splitForm (code : List Char) : List Char × List Char :=
  match dropEnding? "-emoji" code, dropEnding? "-text" code with
  | some name, _ => (name, ['\uFE0F'])
  | none, some name => (name, ['\uFE0E'])
  | none, none => (code, [])

/-- The emoji that a code between colons stands for. -/
def emojiOf? (code : List Char) : Option (List Char) :=
  let (name, form) := splitForm code
  (emojiTable.lookup (Text.lower name)).map (· ++ form)

/-- The text with the emoji that it names. -/
def withEmoji (cs : List Char) : List Char :=
  match cs with
  | [] => []
  | c :: rest =>
    if c = ':' then
      match _h : Text.cutAt? ':' Text.isBlank rest with
      | some (code, after) => (emojiOf? code).getD (':' :: code ++ [':']) ++ withEmoji after
      | none => ':' :: withEmoji rest
    else c :: withEmoji rest
termination_by cs.length
decreasing_by
  all_goals simp only [List.length_cons]
  · have := Text.length_lt_of_cutAt? _h
    omega
  · omega
  · omega

end BuildAudit.Console
