import BuildAudit.Console.Emoji
import BuildAudit.Console.Literal
import BuildAudit.Console.Printed
import BuildAudit.Console.Span
import BuildAudit.Text.Alphanumeric

/-!
# Marked-up text

Messages to the user are printed as marked-up text. A tag is put in brackets and begins with a small
letter, a slash, a number sign or an at sign; tags change how the text looks and are not part of it.
A backslash in front of a bracket makes it an ordinary character. A closing tag begins with a slash
and closes the innermost open tag, or the innermost one of the same style. What follows an equals
sign in a tag are its parameters; those of a tag that begins with an at sign must be a literal, with
or without a name in front, once the tag is closed. Text between tags may name emoji.
-/

namespace BuildAudit.Console

/-- A tag. -/
structure Tag where
  /-- What stands before the first equals sign. -/
  name : List Char
  /-- What follows the first equals sign. -/
  parameters? : Option (List Char)
deriving DecidableEq, Repr

/-- A piece of a marked-up text. -/
inductive Piece where
  /-- Characters that are shown. -/
  | shown (text : List Char)
  /-- A tag. -/
  | tag (tag : Tag)
deriving DecidableEq, Repr

/-- Why a marked-up text cannot be printed. -/
inductive MarkupFault where
  /-- A closing tag closes nothing. -/
  | unopened
  /-- Parameters are not a literal. -/
  | parameters
  /-- A colour is named by a part that is not a number. -/
  | part (fault : Text.IntegerFault)

/-- The message of a fault, if it has one. -/
def MarkupFault.message? : MarkupFault → Option String
  | .part fault => some fault.message
  | .unopened | .parameters => none

/-- The tag with an inside. -/
def Tag.ofInside (inside : List Char) : Tag :=
  match Text.cutAt? '=' (fun _ => false) inside with
  | some (name, parameters) => { name, parameters? := some parameters }
  | none => { name := inside, parameters? := none }

/-- Whether a character may stand at the beginning of a tag. -/
def beginsTag (c : Char) : Bool :=
  c.isLower || c = '/' || c = '#' || c = '@'

/-- The inside of the tag that an opening bracket begins, and what follows its closing bracket. -/
def tagAfter? : List Char → Option (List Char × List Char)
  | [] => none
  | first :: rest =>
    if beginsTag first then
      (Text.cutAt? ']' (· == '[') rest).map fun parts => (first :: parts.1, parts.2)
    else none

/-- What follows a tag is shorter than the text that the tag is at the start of. -/
theorem length_lt_of_tagAfter? {cs inside after : List Char}
    (h : tagAfter? cs = some (inside, after)) : after.length < cs.length := by
  cases cs with
  | nil => simp [tagAfter?] at h
  | cons first rest =>
    simp only [tagAfter?] at h
    split at h
    · simp only [Option.map_eq_some_iff, Prod.mk.injEq] at h
      obtain ⟨⟨before, last⟩, hcut, -, rfl⟩ := h
      have := Text.length_lt_of_cutAt? hcut
      simp only [List.length_cons]
      omega
    · simp at h

/-- The pieces of a text that follows characters, the last of them first. Of the backslashes in
front of a tag every second one is shown, and one that is left over makes the tag a part of the
text. -/
def piecesAfter (before : List Char) (cs : List Char) : List Piece :=
  match cs with
  | [] => [.shown before.reverse]
  | c :: rest =>
    if c = '[' then
      match _h : tagAfter? rest with
      | some (inside, after) =>
        let backslashes := (before.takeWhile (· = '\\')).length
        [.shown (before.drop backslashes).reverse,
          .shown (List.replicate (backslashes / 2) '\\'),
          if backslashes % 2 = 1 then .shown ('[' :: inside ++ [']'])
          else .tag (.ofInside inside)] ++ piecesAfter [] after
      | none => piecesAfter (c :: before) rest
    else piecesAfter (c :: before) rest
termination_by cs.length
decreasing_by
  all_goals simp only [List.length_cons]
  · have := length_lt_of_tagAfter? _h
    omega
  · omega
  · omega

/-- The text with an opening bracket for every one that has a backslash in front of it. -/
def unescape : List Char → List Char
  | [] => []
  | '\\' :: '[' :: rest => '[' :: unescape rest
  | c :: rest => c :: unescape rest

/-- The style that a tag stands for, its parameters included. -/
def Tag.style (tag : Tag) : List Char :=
  match tag.parameters? with
  | some parameters => tag.name ++ ' ' :: parameters
  | none => tag.name

/-- Whether a tag calls a handler. -/
def Tag.isHandler (tag : Tag) : Bool :=
  tag.name.head? == some '@'

/-- The normal form of a style. -/
def styleName (text : List Char) : Except MarkupFault (List Char) :=
  (normalForm text).mapError .part

/-- Whether a character may stand in the name of a handler. -/
def isHandlerChar (c : Char) : Bool :=
  Text.isAlphanumeric c || c = '_' || c = '.'

/-- Whether parameters are a name, or a literal with or without a name in front; one with a name in
front is in parentheses and on one line. -/
def isArgument (parameters : List Char) : Bool :=
  let called := parameters.dropWhile isHandlerChar
  called.isEmpty ||
    (if called.head? == some '(' && [')'].isSuffixOf called && !called.contains '\n' then
      Literal.isWritten called
    else Literal.isWritten parameters)

/-- Whether the parameters of a tag have the form that the tag asks for. -/
def Tag.isComplete (tag : Tag) : Bool :=
  !tag.isHandler ||
    match tag.parameters? with
    | none | some [] => true
    | some parameters => isArgument (Text.trim parameters)

/-- A tag that is open. -/
structure OpenTag where
  /-- The tag, with the normal form of its name. -/
  tag : Tag
  /-- The number of characters in front of it. -/
  start : Nat
deriving DecidableEq, Repr

/-- The span of an open tag that ends at a place; a tag that calls a handler has none. -/
def OpenTag.span? (opened : OpenTag) (stop : Nat) : Option Span :=
  if opened.tag.isHandler then none
  else some { start := opened.start, stop, style := opened.tag.style }

/-- The open tag that a closing tag of a name closes, given the open tags, the innermost first. -/
def closed? (opened : List OpenTag) (name : List Char) :
    Except MarkupFault (Option OpenTag) :=
  let name := Text.trim name
  if name.isEmpty then .ok opened.head?
  else (styleName name).map fun style => opened.find? (·.tag.name == style)

/-- The tags that are open after a tag at a place, and the span that it closes. -/
def afterTag (opened : List OpenTag) (start : Nat) (tag : Tag) :
    Except MarkupFault (List OpenTag × Option Span) :=
  match tag.name with
  | '/' :: name => do
    match ← closed? opened name with
    | none => .error .unopened
    | some closed =>
      if closed.tag.isComplete then .ok (opened.erase closed, closed.span? start)
      else .error .parameters
  | name =>
    (styleName name).map fun style => ({ tag := { tag with name := style }, start } :: opened, none)

/-- The characters that a text between tags shows. -/
def plainText (text : List Char) : List Char :=
  (withEmoji (unescape text)).filter fun c => !isCursorControl c

/-- A text with its spans, in the order in which they end. -/
structure StyledText where
  /-- The characters. -/
  text : List Char
  /-- The spans. -/
  spans : List Span
deriving DecidableEq, Repr

/-- What pieces from a place on show, given the tags that are open, the innermost first. Tags that
are never closed reach to the end. -/
def styledText (start : Nat) (opened : List OpenTag) : List Piece → Except MarkupFault StyledText
  | [] => .ok { text := [], spans := opened.filterMap (·.span? start) }
  | .shown text :: rest =>
    let text := plainText text
    (styledText (start + text.length) opened rest).map fun more =>
      { more with text := text ++ more.text }
  | .tag tag :: rest => do
    let (opened, span?) ← afterTag opened start tag
    let more ← styledText start opened rest
    pure { more with spans := span?.toList ++ more.spans }

/-- The text that a marked-up text shows. -/
def markedUp (text : String) : Except MarkupFault String := do
  let shown ← styledText 0 [] (piecesAfter [] text.toList)
  (Span.checkAll shown.spans shown.text).mapError .part
  pure (String.ofList shown.text)

end BuildAudit.Console
