import BuildAudit.Text.Utf8
import BuildAudit.Toml.Values

/-!
# TOML documents

A document is a sequence of lines, each an entry, the header of a table or the header of an item of
a list of tables. `Document` is what the lines so far have built, with the paths that later lines
may not declare again or add to. The first fault ends the reading.
-/

namespace BuildAudit.Toml

/-- What the lines of a document have built so far. -/
structure Document where
  /-- The table at the root. -/
  root : Table Value
  /-- The path of the table that entries go to. -/
  header : Key
  /-- The tables that no header may declare again. -/
  declared : List Key
  /-- The tables on the way of dotted keys since the last header, which join `declared` at the
  next. -/
  pending : List Key
  /-- The lists and tables that are complete with all below them. -/
  closed : List Key

/-- A document without lines. -/
def Document.empty : Document :=
  { root := [], header := [], declared := [], pending := [], closed := [] }

namespace Document

/-- Moves the pending tables to the declared ones, as a header does. -/
def settle (doc : Document) : Document :=
  { doc with declared := doc.pending ++ doc.declared, pending := [] }

/-- Declares a table and makes it the one that entries go to. -/
def declareTable (doc : Document) (key : Key) : Except Cause Document := do
  if doc.declared.contains key || covers doc.closed key then throw (.declaredTwice key)
  let root ← changeAt true .ok key doc.root
  return { doc with root, header := key, declared := key :: doc.declared }

/-- Adds an item to a list of tables and makes it the table that entries go to. What was declared
below the item before it is free again. -/
def declareItem (doc : Document) (key : Key) : Except Cause Document := do
  if covers doc.closed key then throw (.complete key)
  let root ← changeAt true (addItem (key.getLastD "")) key.dropLast doc.root
  let others (paths : List Key) := paths.filter fun path => !key.isPrefixOf path
  return { doc with
    root, header := key, declared := key :: others doc.declared, closed := others doc.closed }

/-- The tables on the way of a dotted key, below the header. -/
def wayTo (doc : Document) (key : Key) : List Key :=
  (List.range (key.length - 1)).map fun n => doc.header ++ key.take (n + 1)

/-- Adds an entry below the header. -/
def addMember (doc : Document) (key : Key) (value : Value) : Except Cause Document := do
  let parent := doc.header ++ key.dropLast
  let way := doc.wayTo key
  match way.find? doc.declared.contains with
  | some declared => throw (.redefined declared)
  | none =>
    if covers doc.closed parent then throw (.complete parent)
    let root ← changeAt true (addEntry .overwritten (key.getLastD "") value) parent doc.root
    let closed := if isNested value then (doc.header ++ key) :: doc.closed else doc.closed
    return { doc with root, pending := way ++ doc.pending, closed }

end Document

/-- What follows the closing brackets of a header. -/
def afterHeader (brackets : String) (missing : Cause) (cs : List Char) :
    Except Refusal (List Char) :=
  if brackets.toList.isPrefixOf cs then .ok (cs.drop brackets.length)
  else .error (.at missing cs)

/-- Reads the statement that a line starts with, if there is one. -/
def readStatement (doc : Document) (cs : List Char) : Except Refusal (Document × List Char) :=
  match cs with
  | '[' :: '[' :: rest => do
    let (key, rest) ← readKey (skipBlanks rest)
    let doc ← refuseAt rest (doc.settle.declareItem key)
    return (doc, ← afterHeader "]]" .expectedItemEnd rest)
  | '[' :: rest => do
    let (key, rest) ← readKey (skipBlanks rest)
    let doc ← refuseAt rest (doc.settle.declareTable key)
    return (doc, ← afterHeader "]" .expectedTableEnd rest)
  | '#' :: _ | '\n' :: _ | [] => .ok (doc, cs)
  | c :: _ => do
    if !beginsKey c then throw (.at .invalidStatement cs)
    let (key, rest) ← readKeyEquals cs
    let (value, rest) ← readValue (rest.length + 1) nestingRoom rest
    return (← refuseAt rest (doc.addMember key value), rest)

/-- Reads the lines of a document. The first argument bounds their number. -/
def readLines : Nat → Document → List Char → Except Refusal Document
  | 0, _, cs => .error (.at .invalidStatement cs)
  | fuel + 1, doc, cs => do
    let (doc, rest) ← readStatement doc (skipBlanks cs)
    match ← skipComment (skipBlanks rest) with
    | [] => return doc
    | '\n' :: rest => readLines fuel doc rest
    | rest => throw (.at .expectedLineEnd rest)

/-- The text with a line feed for every carriage return that has one after it. -/
def joinLineEnds : List Char → List Char
  | [] => []
  | '\r' :: '\n' :: rest => '\n' :: joinLineEnds rest
  | c :: rest => c :: joinLineEnds rest

/-- The root table of a document with joined line ends. -/
def readJoined (cs : List Char) : Except Refusal (Table Value) :=
  (readLines (cs.length + 1) .empty cs).map (·.root)

/-- Why octets are not a document. -/
inductive OctetsFault where
  /-- They are no text. -/
  | encoding (fault : Text.Utf8.Fault)
  /-- The text that they make up is refused. -/
  | refused (refusal : Refusal) (document : List Char)

/-- The message of a fault. -/
def OctetsFault.message : OctetsFault → String
  | .encoding fault => fault.message
  | .refused refusal document => refusal.message document

/-- The root table of a document in a file, which is UTF-8. -/
def readOctets (octets : List UInt8) : Except OctetsFault (Table Value) := do
  let text ← (Text.Utf8.decode octets).mapError .encoding
  let document := joinLineEnds text.toList
  (readJoined document).mapError (.refused · document)

end BuildAudit.Toml
