import BuildAudit.Console.Color
import BuildAudit.Text.Blank

/-!
# Styles

A style says how a text looks. It is written in words: effects that are switched on or off, a
colour, a colour behind the text, and an address that the text links to. Two texts that mean the
same style have the same normal form; a text that means no style stands for itself, in lower case
and without blanks around it.
-/

namespace BuildAudit.Console

/-- An effect of a style. -/
inductive Effect where
  /-- Heavy letters. -/
  | bold
  /-- Faint letters. -/
  | dim
  /-- Slanted letters. -/
  | italic
  /-- A line under the text. -/
  | underline
  /-- Slow blinking. -/
  | blink
  /-- Fast blinking. -/
  | blink2
  /-- The two colours exchanged. -/
  | reverse
  /-- Hidden letters. -/
  | conceal
  /-- A line through the text. -/
  | strike
  /-- Two lines under the text. -/
  | underline2
  /-- A frame around the text. -/
  | frame
  /-- A circle around the text. -/
  | encircle
  /-- A line over the text. -/
  | overline
deriving DecidableEq, Repr

/-- The effects in the order of a normal form. -/
def Effect.list : List Effect := [
  .bold, .dim, .italic, .underline, .blink, .blink2, .reverse, .conceal, .strike, .underline2,
  .frame, .encircle, .overline]

/-- The name of an effect. -/
def Effect.name : Effect → String
  | .bold => "bold"
  | .dim => "dim"
  | .italic => "italic"
  | .underline => "underline"
  | .blink => "blink"
  | .blink2 => "blink2"
  | .reverse => "reverse"
  | .conceal => "conceal"
  | .strike => "strike"
  | .underline2 => "underline2"
  | .frame => "frame"
  | .encircle => "encircle"
  | .overline => "overline"

/-- The short name of an effect. -/
def Effect.short? : Effect → Option String
  | .bold => some "b"
  | .dim => some "d"
  | .italic => some "i"
  | .underline => some "u"
  | .reverse => some "r"
  | .conceal => some "c"
  | .strike => some "s"
  | .underline2 => some "uu"
  | .overline => some "o"
  | .blink | .blink2 | .frame | .encircle => none

/-- The effect that a word names. -/
def Effect.ofWord? (word : List Char) : Option Effect :=
  list.find? fun effect =>
    let text := String.ofList word
    effect.name == text || effect.short? == some text

/-- How a text looks. -/
structure Style where
  /-- What is said of the effects, the last word on an effect first. -/
  effects : List (Effect × Bool) := []
  /-- The colour of the text. -/
  color? : Option (List Char) := none
  /-- The colour behind the text. -/
  background? : Option (List Char) := none
  /-- The address that the text links to. -/
  link? : Option (List Char) := none
deriving DecidableEq, Repr

/-- Why a text does not mean a style. -/
inductive StyleFault where
  /-- It is not written like a style. -/
  | unknown
  /-- It names a colour by a part that is not a number. -/
  | part (fault : Text.IntegerFault)

namespace Style

/-- The colour that a word names. -/
def colorOf (word : List Char) : Except StyleFault (List Char) :=
  let color := Text.lower word
  match isColor color with
  | .error fault => .error (.part fault)
  | .ok true => .ok color
  | .ok false => .error .unknown

/-- Reads a style, word by word, on top of one that is read already. -/
def readOnto (style : Style) : List (List Char) → Except StyleFault Style
  | [] => .ok style
  | word :: rest =>
    let small := Text.lower word
    if small = "on".toList then
      match rest with
      | [] => .error .unknown
      | color :: rest => do readOnto { style with background? := some (← colorOf color) } rest
    else if small = "not".toList then
      match rest with
      | [] => .error .unknown
      | name :: rest =>
        match Effect.ofWord? name with
        | none => .error .unknown
        | some effect =>
          readOnto { style with effects := (effect, false) :: style.effects } rest
    else if small = "link".toList then
      match rest with
      | [] => .error .unknown
      | address :: rest => readOnto { style with link? := some address } rest
    else
      match Effect.ofWord? small with
      | some effect =>
        readOnto { style with effects := (effect, true) :: style.effects } rest
      | none => do readOnto { style with color? := some (← colorOf word) } rest

/-- Reads a style. The word `none` alone means the style that changes nothing. -/
def read (text : List Char) : Except StyleFault Style :=
  if Text.trim text = "none".toList then .ok {} else readOnto {} (Text.words text)

/-- What a normal form says of an effect. -/
def effectText (style : Style) (effect : Effect) : Option String :=
  (style.effects.lookup effect).map fun isOn =>
    if isOn then effect.name else "not " ++ effect.name

/-- The normal form of a style. -/
def text (style : Style) : String :=
  let parts :=
    Effect.list.filterMap style.effectText ++
      (style.color?.map String.ofList).toList ++
      (style.background?.map fun color => "on " ++ String.ofList color).toList ++
      (style.link?.map fun address => "link " ++ String.ofList address).toList
  if parts.isEmpty then "none" else " ".intercalate parts

end Style

/-- The normal form of a text that may mean a style. -/
def normalForm (text : List Char) : Except Text.IntegerFault (List Char) :=
  match Style.read text with
  | .ok style => .ok style.text.toList
  | .error .unknown => .ok (Text.lower (Text.trim text))
  | .error (.part fault) => .error fault

end BuildAudit.Console
