import BuildAudit.Console.Style

/-!
# Styled spans

A span is a part of a text that a style is put on. Styles are read only where they would show: a
text of several lines takes those of spans that cover a character of a line, a line with tabs those
of spans that cover anything at all, and any other text takes all of them. They are put on in the
order of the places where their spans start; of those that start at one place the last one goes
first.
-/

namespace BuildAudit.Console

/-- A part of a text with a style on it. -/
structure Span where
  /-- The number of characters in front of it. -/
  start : Nat
  /-- The number of characters up to its end. -/
  stop : Nat
  /-- The style, as it is written. -/
  style : List Char
deriving DecidableEq, Repr

namespace Span

/-- The characters of a text that a span covers. -/
def covered (span : Span) (text : List Char) : List Char :=
  (text.drop span.start).take (span.stop - span.start)

/-- Whether the style of a span is read to show a text. -/
def isRead (text : List Char) (span : Span) : Bool :=
  if text.contains '\n' then (span.covered text).any (· ≠ '\n')
  else !text.contains '\t' || !(span.covered text).isEmpty

/-- The spans in the order in which their styles are put on. -/
def inOrder (spans : List Span) : List Span :=
  spans.reverse.mergeSort fun first second => first.start ≤ second.start

/-- Checks that the style of a span can be read. -/
def check (span : Span) : Except Text.IntegerFault Unit :=
  (normalForm span.style).map fun _ => ()

/-- Checks that the styles can be read which a text takes. -/
def checkAll (spans : List Span) (text : List Char) : Except Text.IntegerFault Unit :=
  ((inOrder spans).filter (isRead text)).forM check

end Span

end BuildAudit.Console
