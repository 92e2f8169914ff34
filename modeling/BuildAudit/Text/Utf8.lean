import BuildAudit.Text.Quoted

/-!
# UTF-8

Octets are cut into pieces: characters, and ill-formed runs as long as they could still have become
a character. Strict decoding stops at the first ill-formed run and names it; lenient decoding puts
one replacement character in the place of each.
-/

namespace BuildAudit.Text.Utf8

/-- Why a run of octets is no character. -/
inductive Flaw where
  /-- No character starts with the octet. -/
  | invalidStart
  /-- The run is followed by an octet that cannot continue it. -/
  | invalidContinuation
  /-- The octets end within the run. -/
  | unexpectedEnd
deriving DecidableEq

/-- The wording of a flaw. -/
def Flaw.message : Flaw → String
  | .invalidStart => "invalid start byte"
  | .invalidContinuation => "invalid continuation byte"
  | .unexpectedEnd => "unexpected end of data"

/-- The first octets of a character whose last ones are still to come. -/
structure Pending where
  /-- The octet the character starts with. -/
  lead : UInt8
  /-- The number of octets read. -/
  length : Nat
  /-- The number of octets to come. -/
  missing : Nat
  /-- The least value of the next octet. -/
  least : UInt8
  /-- The greatest value of the next octet. -/
  greatest : UInt8
  /-- The bits read so far. -/
  bits : Nat

/-- A run of octets: a character, or an ill-formed run. -/
inductive Piece where
  /-- The octets of a character. -/
  | char (c : Char)
  /-- An ill-formed run with its first octet and its length. -/
  | bad (flaw : Flaw) (lead : UInt8) (length : Nat)

/-- Starts a character that has `missing` octets after its first one. -/
def Pending.start (lead : UInt8) (missing : Nat) (least greatest : UInt8) (bits : Nat) : Pending :=
  { lead, length := 1, missing, least, greatest, bits }

/-- What an octet starts. The second octet is bounded so that no character has a longer form than
it needs, none is a surrogate, and none is beyond the last code point. -/
def start (b : UInt8) : Except Piece Pending :=
  if b < 0x80 then .error (.char (Char.ofNat b.toNat))
  else if b < 0xC2 then .error (.bad .invalidStart b 1)
  else if b < 0xE0 then .ok (.start b 1 0x80 0xBF (b.toNat - 0xC0))
  else if b < 0xF0 then
    let least := if b = 0xE0 then 0xA0 else 0x80
    let greatest := if b = 0xED then 0x9F else 0xBF
    .ok (.start b 2 least greatest (b.toNat - 0xE0))
  else if b < 0xF5 then
    let least := if b = 0xF0 then 0x90 else 0x80
    let greatest := if b = 0xF4 then 0x8F else 0xBF
    .ok (.start b 3 least greatest (b.toNat - 0xF0))
  else .error (.bad .invalidStart b 1)

/-- The pieces that an octet completes when no character is pending, and what is pending after
it. -/
def stepFresh (b : UInt8) : List Piece × Option Pending :=
  match start b with
  | .error piece => ([piece], none)
  | .ok pending => ([], some pending)

/-- The pieces that an octet completes, and what is pending after it. -/
def step (pending : Option Pending) (b : UInt8) : List Piece × Option Pending :=
  match pending with
  | none => stepFresh b
  | some p =>
    if p.least ≤ b && b ≤ p.greatest then
      let bits := p.bits * 64 + (b.toNat - 0x80)
      if p.missing ≤ 1 then ([.char (Char.ofNat bits)], none)
      else
        ([], some { p with
          length := p.length + 1, missing := p.missing - 1, least := 0x80, greatest := 0xBF, bits })
    else
      let (pieces, pending) := stepFresh b
      (.bad .invalidContinuation p.lead p.length :: pieces, pending)

/-- The pieces of octets that follow those of a pending character. -/
def pieces (pending : Option Pending) : List UInt8 → List Piece
  | [] =>
    match pending with
    | none => []
    | some p => [.bad .unexpectedEnd p.lead p.length]
  | b :: rest =>
    let (done, pending) := step pending b
    done ++ pieces pending rest

/-- The first ill-formed run of a list of octets. -/
structure Fault where
  /-- Why it is no character. -/
  flaw : Flaw
  /-- The octet it starts with. -/
  lead : UInt8
  /-- The number of octets before it. -/
  position : Nat
  /-- The number of its octets. -/
  length : Nat
deriving DecidableEq

/-- The message of a fault. A run of one octet is shown, a longer one is located. -/
def Fault.message (fault : Fault) : String :=
  let place :=
    if fault.length = 1 then
      s!"byte 0x{String.ofList (hexDigits 2 fault.lead.toNat)} in position {fault.position}"
    else
      s!"bytes in position {fault.position}-{fault.position + fault.length - 1}"
  s!"'utf-8' codec can't decode {place}: {fault.flaw.message}"

/-- The characters of pieces that start after `position` octets and follow the characters `before`,
the last one first. -/
def charsOf (position : Nat) (before : List Char) : List Piece → Except Fault (List Char)
  | [] => .ok before.reverse
  | .char c :: rest => charsOf (position + c.utf8Size) (c :: before) rest
  | .bad flaw lead length :: _ => .error { flaw, lead, position, length }

/-- The text of well-formed octets, or the first fault. -/
def decode (bytes : List UInt8) : Except Fault String :=
  (charsOf 0 [] (pieces none bytes)).map String.ofList

/-- The text of octets with one replacement character for each ill-formed run. -/
def decodeLenient (bytes : List UInt8) : String :=
  String.ofList <| (pieces none bytes).map fun piece =>
    match piece with
    | .char c => c
    | .bad .. => '\uFFFD'

/-- The octets of a text. -/
def encode (text : String) : List UInt8 :=
  text.toList.flatMap String.utf8EncodeChar

end BuildAudit.Text.Utf8
