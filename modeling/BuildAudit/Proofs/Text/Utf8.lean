import BuildAudit.Proofs.Checks
import BuildAudit.Text.Utf8
import Mathlib.Data.List.Basic

/-!
# Well-formed octets

Octets are decoded as a text just if they are the octets of that text (`decode_eq_ok_iff`). A
pending character is `Completed` by the octets that it still lacks, each within its bounds, and a
character is made up of one octet that stands for itself, or of one that starts it and those that
complete it (`Starts`). What makes up a character is what encodes it, as the numbers show one length
at a time; the texts follow by induction on their characters.
-/

namespace BuildAudit.Text.Utf8

/-- A pending character after one more of its octets. -/
def Pending.next (p : Pending) (b : UInt8) : Pending :=
  { p with
    length := p.length + 1, missing := p.missing - 1, least := 0x80, greatest := 0xBF,
    bits := p.bits * 64 + (b.toNat - 0x80) }

/-- Octets complete a pending character. -/
inductive Completed : Pending → List UInt8 → Char → Prop where
  /-- The last octet is the only one that is missing. -/
  | last {p : Pending} {b : UInt8} (hmissing : p.missing ≤ 1) (hleast : p.least ≤ b)
    (hgreatest : b ≤ p.greatest) : Completed p [b] (Char.ofNat (p.next b).bits)
  /-- An octet before the last one leaves a character that the others complete. -/
  | more {p : Pending} {b : UInt8} {rest : List UInt8} {c : Char} (hmissing : ¬ p.missing ≤ 1)
    (hleast : p.least ≤ b) (hgreatest : b ≤ p.greatest) (hrest : Completed (p.next b) rest c) :
    Completed p (b :: rest) c

/-- An octet that continues a pending character completes it or leaves it pending. -/
theorem pieces_some_of_mem {p : Pending} {b : UInt8} (hleast : p.least ≤ b)
    (hgreatest : b ≤ p.greatest) (rest : List UInt8) :
    pieces (some p) (b :: rest) =
      if p.missing ≤ 1 then .char (Char.ofNat (p.next b).bits) :: pieces none rest
      else pieces (some (p.next b)) rest := by
  rw [pieces, step]
  by_cases hmissing : p.missing ≤ 1 <;> simp [hleast, hgreatest, hmissing, Pending.next]

/-- An octet that does not continue a pending character leaves an ill-formed run. -/
theorem exists_pieces_some_of_not {p : Pending} {b : UInt8}
    (h : ¬ (p.least ≤ b ∧ b ≤ p.greatest)) (rest : List UInt8) :
    ∃ others, pieces (some p) (b :: rest) =
      .bad .invalidContinuation p.lead p.length :: others := by
  rw [pieces, step, if_neg (by simpa using h)]
  exact ⟨_, rfl⟩

/-- The piece of octets that complete a character is that character. -/
theorem Completed.pieces_append {p : Pending} {octets : List UInt8} {c : Char}
    (h : Completed p octets c) (rest : List UInt8) :
    pieces (some p) (octets ++ rest) = .char c :: pieces none rest := by
  induction h with
  | last hmissing hleast hgreatest =>
    rw [List.cons_append, pieces_some_of_mem hleast hgreatest, if_pos hmissing, List.nil_append]
  | more hmissing hleast hgreatest _ ih =>
    rw [List.cons_append, pieces_some_of_mem hleast hgreatest, if_neg hmissing, ih]

/-- A pending character without an ill-formed run after it is completed by the next octets. -/
theorem exists_completed {p : Pending} {octets : List UInt8} {chars : List Char}
    (h : pieces (some p) octets = chars.map .char) :
    ∃ tail rest c others, octets = tail ++ rest ∧ Completed p tail c ∧ chars = c :: others ∧
      pieces none rest = others.map .char := by
  induction octets generalizing p with
  | nil =>
    rw [pieces] at h
    cases chars <;> cases h
  | cons b rest ih =>
    by_cases hwithin : p.least ≤ b ∧ b ≤ p.greatest
    · obtain ⟨hleast, hgreatest⟩ := hwithin
      rw [pieces_some_of_mem hleast hgreatest] at h
      -- The octet is the last one of the character, or one more is still missing.
      split at h
      · next hmissing =>
        obtain ⟨c, others, rfl, hc, hothers⟩ := List.map_eq_cons_iff.1 h.symm
        have hlast : Completed p [b] c := by
          rw [Piece.char.inj hc]
          exact .last hmissing hleast hgreatest
        exact ⟨[b], rest, c, others, rfl, hlast, rfl, hothers.symm⟩
      · next hmissing =>
        obtain ⟨tail, after, c, others, rfl, hcompleted, hchars, hafter⟩ := ih h
        exact ⟨b :: tail, after, c, others, rfl, .more hmissing hleast hgreatest hcompleted, hchars,
          hafter⟩
    -- An octet out of bounds ends the character in an ill-formed run.
    · obtain ⟨others, hbad⟩ := exists_pieces_some_of_not hwithin rest
      rw [hbad] at h
      cases chars <;> cases h

/-- The last octet of a character. -/
theorem completed_one_iff {p : Pending} (h : p.missing = 1) {octets : List UInt8} {c : Char} :
    Completed p octets c ↔
      ∃ b, octets = [b] ∧ p.least ≤ b ∧ b ≤ p.greatest ∧ c = Char.ofNat (p.next b).bits := by
  constructor
  · intro hcompleted
    cases hcompleted with
    | last _ hleast hgreatest => exact ⟨_, rfl, hleast, hgreatest, rfl⟩
    | more hmissing => omega
  · rintro ⟨b, rfl, hleast, hgreatest, hc⟩
    rw [hc]
    exact .last (by omega) hleast hgreatest

/-- An octet of a character before its last one. -/
theorem completed_more_iff {p : Pending} (h : 1 < p.missing) {octets : List UInt8} {c : Char} :
    Completed p octets c ↔
      ∃ b rest, octets = b :: rest ∧ (p.least ≤ b ∧ b ≤ p.greatest) ∧
        Completed (p.next b) rest c := by
  constructor
  · intro hcompleted
    cases hcompleted with
    | last hmissing => omega
    | more _ hleast hgreatest hrest => exact ⟨_, _, rfl, ⟨hleast, hgreatest⟩, hrest⟩
  · rintro ⟨b, rest, rfl, ⟨hleast, hgreatest⟩, hrest⟩
    exact .more (by omega) hleast hgreatest hrest

/-- The last two octets of a character. -/
theorem completed_two_iff {p : Pending} (h : p.missing = 2) {octets : List UInt8} {c : Char} :
    Completed p octets c ↔
      ∃ b b', octets = [b, b'] ∧ (p.least ≤ b ∧ b ≤ p.greatest) ∧ 0x80 ≤ b' ∧ b' ≤ 0xBF ∧
        c = Char.ofNat ((p.next b).next b').bits := by
  rw [completed_more_iff (by omega)]
  refine exists_congr fun b => ?_
  have hone : (p.next b).missing = 1 := by rw [Pending.next, h]
  simp only [completed_one_iff hone]
  constructor
  · rintro ⟨_, rfl, hb, b', rfl, hb'⟩
    exact ⟨b', rfl, hb, hb'⟩
  · rintro ⟨b', rfl, hb, hb'⟩
    exact ⟨_, rfl, hb, b', rfl, hb'⟩

/-- The last three octets of a character. -/
theorem completed_three_iff {p : Pending} (h : p.missing = 3) {octets : List UInt8} {c : Char} :
    Completed p octets c ↔
      ∃ b b' b'', octets = [b, b', b''] ∧ (p.least ≤ b ∧ b ≤ p.greatest) ∧
        (0x80 ≤ b' ∧ b' ≤ 0xBF) ∧ 0x80 ≤ b'' ∧ b'' ≤ 0xBF ∧
        c = Char.ofNat (((p.next b).next b').next b'').bits := by
  rw [completed_more_iff (by omega)]
  refine exists_congr fun b => ?_
  have htwo : (p.next b).missing = 2 := by rw [Pending.next, h]
  simp only [completed_two_iff htwo]
  constructor
  · rintro ⟨_, rfl, hb, b', b'', rfl, hothers⟩
    exact ⟨b', b'', rfl, hb, hothers⟩
  · rintro ⟨b', b'', rfl, hb, hothers⟩
    exact ⟨_, rfl, hb, b', b'', rfl, hothers⟩

section Octets

variable {b : UInt8}

theorem start_one (h : b.toNat < 0x80) : start b = .error (.char (Char.ofNat b.toNat)) := by
  rw [start, if_pos (UInt8.lt_iff_toNat_lt.2 h)]

theorem start_two (h : 0xC2 ≤ b.toNat) (h' : b.toNat < 0xE0) :
    start b = .ok (.start b 1 0x80 0xBF (b.toNat - 0xC0)) := by
  simp only [start, UInt8.lt_iff_toNat_lt, UInt8.toNat_ofNat]
  rw [if_neg (by omega), if_neg (by omega), if_pos (by omega)]

theorem start_three (h : 0xE0 ≤ b.toNat) (h' : b.toNat < 0xF0) :
    start b = .ok (.start b 2 (if b = 0xE0 then 0xA0 else 0x80) (if b = 0xED then 0x9F else 0xBF)
      (b.toNat - 0xE0)) := by
  simp only [start, UInt8.lt_iff_toNat_lt, UInt8.toNat_ofNat]
  rw [if_neg (by omega), if_neg (by omega), if_neg (by omega), if_pos (by omega)]

theorem start_four (h : 0xF0 ≤ b.toNat) (h' : b.toNat < 0xF5) :
    start b = .ok (.start b 3 (if b = 0xF0 then 0x90 else 0x80) (if b = 0xF4 then 0x8F else 0xBF)
      (b.toNat - 0xF0)) := by
  simp only [start, UInt8.lt_iff_toNat_lt, UInt8.toNat_ofNat]
  rw [if_neg (by omega), if_neg (by omega), if_neg (by omega), if_neg (by omega), if_pos (by omega)]

theorem start_bad (h : 0x80 ≤ b.toNat) (h' : b.toNat < 0xC2 ∨ 0xF5 ≤ b.toNat) :
    start b = .error (.bad .invalidStart b 1) := by
  simp only [start, UInt8.lt_iff_toNat_lt, UInt8.toNat_ofNat]
  rcases h' with h' | h'
  · rw [if_neg (by omega), if_pos (by omega)]
  · rw [if_neg (by omega), if_neg (by omega), if_neg (by omega), if_neg (by omega),
      if_neg (by omega)]

end Octets

/-- An octet and those after it make up a character. -/
inductive Starts : UInt8 → List UInt8 → Char → Prop where
  /-- The octet is a character of its own. -/
  | alone {b : UInt8} {c : Char} (hstart : start b = .error (.char c)) : Starts b [] c
  /-- The octet starts a character that the others complete. -/
  | completed {b : UInt8} {p : Pending} {rest : List UInt8} {c : Char} (hstart : start b = .ok p)
    (hrest : Completed p rest c) : Starts b rest c

/-- The octets of a character that is given by its number. -/
theorem utf8EncodeChar_ofNat {number : Nat} (h : number.isValidChar) :
    String.utf8EncodeChar (Char.ofNat number) =
      if number ≤ 0x7F then [UInt8.ofNat number]
      else if number ≤ 0x7FF then
        [UInt8.ofNat (number / 64 % 32 + 0xC0), UInt8.ofNat (number % 64 + 0x80)]
      else if number ≤ 0xFFFF then
        [UInt8.ofNat (number / 4096 % 16 + 0xE0), UInt8.ofNat (number / 64 % 64 + 0x80),
          UInt8.ofNat (number % 64 + 0x80)]
      else
        [UInt8.ofNat (number / 262144 % 8 + 0xF0), UInt8.ofNat (number / 4096 % 64 + 0x80),
          UInt8.ofNat (number / 64 % 64 + 0x80), UInt8.ofNat (number % 64 + 0x80)] := by
  have hvalue : (Char.ofNat number).val.toNat = number := by
    rw [Char.ofNat, dif_pos h]
    rfl
  rw [String.utf8EncodeChar, hvalue]

theorem ofNat_eq_of_toNat_eq {number : Nat} {b : UInt8} (h : number = b.toNat) :
    UInt8.ofNat number = b := by
  rw [h, UInt8.ofNat_toNat]

/-! ### The octets of a number -/

section Numbers

variable {a b c d : UInt8}

theorem utf8EncodeChar_one (ha : a.toNat < 0x80) :
    String.utf8EncodeChar (Char.ofNat a.toNat) = [a] := by
  rw [utf8EncodeChar_ofNat (Or.inl (by omega)), if_pos (by omega), UInt8.ofNat_toNat]

theorem utf8EncodeChar_two (ha : 0xC2 ≤ a.toNat) (ha' : a.toNat < 0xE0) (hb : 0x80 ≤ b.toNat)
    (hb' : b.toNat ≤ 0xBF) :
    String.utf8EncodeChar (Char.ofNat ((a.toNat - 0xC0) * 64 + (b.toNat - 0x80))) = [a, b] := by
  rw [utf8EncodeChar_ofNat (Or.inl (by omega)), if_neg (by omega), if_pos (by omega),
    ofNat_eq_of_toNat_eq (b := a) (by omega), ofNat_eq_of_toNat_eq (b := b) (by omega)]

theorem utf8EncodeChar_three (ha : 0xE0 ≤ a.toNat) (ha' : a.toNat < 0xF0) (hb : 0x80 ≤ b.toNat)
    (hb' : b.toNat ≤ 0xBF) (hleast : a.toNat = 0xE0 → 0xA0 ≤ b.toNat)
    (hgreatest : a.toNat = 0xED → b.toNat ≤ 0x9F) (hc : 0x80 ≤ c.toNat) (hc' : c.toNat ≤ 0xBF) :
    String.utf8EncodeChar
      (Char.ofNat (((a.toNat - 0xE0) * 64 + (b.toNat - 0x80)) * 64 + (c.toNat - 0x80))) =
        [a, b, c] := by
  have hvalid : Nat.isValidChar
      (((a.toNat - 0xE0) * 64 + (b.toNat - 0x80)) * 64 + (c.toNat - 0x80)) := by
    rw [Nat.isValidChar]
    omega
  rw [utf8EncodeChar_ofNat hvalid, if_neg (by omega), if_neg (by omega), if_pos (by omega),
    ofNat_eq_of_toNat_eq (b := a) (by omega), ofNat_eq_of_toNat_eq (b := b) (by omega),
    ofNat_eq_of_toNat_eq (b := c) (by omega)]

theorem utf8EncodeChar_four (ha : 0xF0 ≤ a.toNat) (ha' : a.toNat < 0xF5) (hb : 0x80 ≤ b.toNat)
    (hb' : b.toNat ≤ 0xBF) (hleast : a.toNat = 0xF0 → 0x90 ≤ b.toNat)
    (hgreatest : a.toNat = 0xF4 → b.toNat ≤ 0x8F) (hc : 0x80 ≤ c.toNat) (hc' : c.toNat ≤ 0xBF)
    (hd : 0x80 ≤ d.toNat) (hd' : d.toNat ≤ 0xBF) :
    String.utf8EncodeChar
      (Char.ofNat ((((a.toNat - 0xF0) * 64 + (b.toNat - 0x80)) * 64 + (c.toNat - 0x80)) * 64 +
        (d.toNat - 0x80))) = [a, b, c, d] := by
  have hvalid : Nat.isValidChar ((((a.toNat - 0xF0) * 64 + (b.toNat - 0x80)) * 64 +
      (c.toNat - 0x80)) * 64 + (d.toNat - 0x80)) := by
    rw [Nat.isValidChar]
    omega
  rw [utf8EncodeChar_ofNat hvalid, if_neg (by omega), if_neg (by omega), if_neg (by omega),
    ofNat_eq_of_toNat_eq (b := a) (by omega), ofNat_eq_of_toNat_eq (b := b) (by omega),
    ofNat_eq_of_toNat_eq (b := c) (by omega), ofNat_eq_of_toNat_eq (b := d) (by omega)]

end Numbers

/-! ### Characters and their octets -/

section Characters

variable {a b : UInt8} {rest : List UInt8} {char : Char}

theorem starts_iff_of_error {c : Char} (h : start a = .error (.char c)) :
    Starts a rest char ↔ rest = [] ∧ char = c := by
  constructor
  · intro hstarts
    cases hstarts with
    | alone hstart =>
      rw [h] at hstart
      cases hstart
      exact ⟨rfl, rfl⟩
    | completed hstart =>
      rw [h] at hstart
      cases hstart
  · rintro ⟨rfl, rfl⟩
    exact .alone h

theorem starts_iff_of_ok {p : Pending} (h : start a = .ok p) :
    Starts a rest char ↔ Completed p rest char := by
  constructor
  · intro hstarts
    cases hstarts with
    | alone hstart =>
      rw [h] at hstart
      cases hstart
    | completed hstart hrest =>
      rw [h] at hstart
      cases hstart
      exact hrest
  · exact .completed h

/-- A least value that is greater for one of the octets before. -/
theorem ite_le_iff {special low high : UInt8} (h : low ≤ high) :
    (if a = special then high else low) ≤ b ↔
      low.toNat ≤ b.toNat ∧ (a.toNat = special.toNat → high.toNat ≤ b.toNat) := by
  rw [UInt8.le_iff_toNat_le] at h
  split
  · next heq =>
    rw [UInt8.le_iff_toNat_le, heq]
    exact ⟨fun hb => ⟨Nat.le_trans h hb, fun _ => hb⟩, fun hb => hb.2 rfl⟩
  · next hne =>
    rw [UInt8.le_iff_toNat_le, UInt8.toNat_inj]
    exact ⟨fun hb => ⟨hb, fun heq => absurd heq hne⟩, And.left⟩

/-- A greatest value that is less for one of the octets before. -/
theorem le_ite_iff {special low high : UInt8} (h : low ≤ high) :
    b ≤ (if a = special then low else high) ↔
      b.toNat ≤ high.toNat ∧ (a.toNat = special.toNat → b.toNat ≤ low.toNat) := by
  rw [UInt8.le_iff_toNat_le] at h
  split
  · next heq =>
    rw [UInt8.le_iff_toNat_le, heq]
    exact ⟨fun hb => ⟨Nat.le_trans hb h, fun _ => hb⟩, fun hb => hb.2 rfl⟩
  · next hne =>
    rw [UInt8.le_iff_toNat_le, UInt8.toNat_inj]
    exact ⟨fun hb => ⟨hb, fun heq => absurd heq hne⟩, And.left⟩

theorem starts_two_iff (ha : 0xC2 ≤ a.toNat) (ha' : a.toNat < 0xE0) :
    Starts a rest char ↔ ∃ b, rest = [b] ∧ 0x80 ≤ b.toNat ∧ b.toNat ≤ 0xBF ∧
      char = Char.ofNat ((a.toNat - 0xC0) * 64 + (b.toNat - 0x80)) := by
  rw [starts_iff_of_ok (start_two ha ha'), completed_one_iff rfl]
  simp only [UInt8.le_iff_toNat_le]
  rfl

theorem starts_three_iff (ha : 0xE0 ≤ a.toNat) (ha' : a.toNat < 0xF0) :
    Starts a rest char ↔ ∃ b c, rest = [b, c] ∧
      ((0x80 ≤ b.toNat ∧ (a.toNat = 0xE0 → 0xA0 ≤ b.toNat)) ∧
        b.toNat ≤ 0xBF ∧ (a.toNat = 0xED → b.toNat ≤ 0x9F)) ∧
      0x80 ≤ c.toNat ∧ c.toNat ≤ 0xBF ∧
      char = Char.ofNat
        (((a.toNat - 0xE0) * 64 + (b.toNat - 0x80)) * 64 + (c.toNat - 0x80)) := by
  rw [starts_iff_of_ok (start_three ha ha'), completed_two_iff rfl]
  refine exists_congr fun b => exists_congr fun c => and_congr Iff.rfl
    (and_congr ?_ ?_)
  · exact and_congr (ite_le_iff (by decide)) (le_ite_iff (by decide))
  · simp only [UInt8.le_iff_toNat_le]
    rfl

theorem starts_four_iff (ha : 0xF0 ≤ a.toNat) (ha' : a.toNat < 0xF5) :
    Starts a rest char ↔ ∃ b c d, rest = [b, c, d] ∧
      ((0x80 ≤ b.toNat ∧ (a.toNat = 0xF0 → 0x90 ≤ b.toNat)) ∧
        b.toNat ≤ 0xBF ∧ (a.toNat = 0xF4 → b.toNat ≤ 0x8F)) ∧
      (0x80 ≤ c.toNat ∧ c.toNat ≤ 0xBF) ∧ 0x80 ≤ d.toNat ∧ d.toNat ≤ 0xBF ∧
      char = Char.ofNat ((((a.toNat - 0xF0) * 64 + (b.toNat - 0x80)) * 64 +
        (c.toNat - 0x80)) * 64 + (d.toNat - 0x80)) := by
  rw [starts_iff_of_ok (start_four ha ha'), completed_three_iff rfl]
  refine exists_congr fun b => exists_congr fun c => exists_congr fun d => and_congr Iff.rfl
    (and_congr ?_ ?_)
  · exact and_congr (ite_le_iff (by decide)) (le_ite_iff (by decide))
  · simp only [UInt8.le_iff_toNat_le]
    rfl

/-- The octets that make up a character are its own. -/
theorem Starts.utf8EncodeChar_eq (h : Starts a rest char) :
    String.utf8EncodeChar char = a :: rest := by
  -- What the first octet is settles how many come after it, and between which bounds.
  have hranges : a.toNat < 0x80 ∨ (0xC2 ≤ a.toNat ∧ a.toNat < 0xE0) ∨
      (0xE0 ≤ a.toNat ∧ a.toNat < 0xF0) ∨ (0xF0 ≤ a.toNat ∧ a.toNat < 0xF5) ∨
      (0x80 ≤ a.toNat ∧ (a.toNat < 0xC2 ∨ 0xF5 ≤ a.toNat)) := by
    omega
  rcases hranges with ha | ⟨ha, ha'⟩ | ⟨ha, ha'⟩ | ⟨ha, ha'⟩ | ⟨ha, ha'⟩
  · obtain ⟨rfl, hc⟩ := (starts_iff_of_error (start_one ha)).1 h
    rw [hc, utf8EncodeChar_one ha]
  · obtain ⟨b, rfl, hb, hb', hc⟩ := (starts_two_iff ha ha').1 h
    rw [hc, utf8EncodeChar_two ha ha' hb hb']
  · obtain ⟨b, c, rfl, ⟨⟨hb, hleast⟩, hb', hgreatest⟩, hc, hc', hchar⟩ :=
      (starts_three_iff ha ha').1 h
    rw [hchar, utf8EncodeChar_three ha ha' hb hb' hleast hgreatest hc hc']
  · obtain ⟨b, c, d, rfl, ⟨⟨hb, hleast⟩, hb', hgreatest⟩, ⟨hc, hc'⟩, hd, hd', hchar⟩ :=
      (starts_four_iff ha ha').1 h
    rw [hchar, utf8EncodeChar_four ha ha' hb hb' hleast hgreatest hc hc' hd hd']
  · cases h with
    | alone hstart =>
      rw [start_bad ha ha'] at hstart
      cases hstart
    | completed hstart =>
      rw [start_bad ha ha'] at hstart
      cases hstart

/-- The octets of a character make it up. -/
theorem exists_starts (char : Char) :
    ∃ a rest, String.utf8EncodeChar char = a :: rest ∧ Starts a rest char := by
  have hvalid : char.toNat.isValidChar := char.valid
  have hoctets := utf8EncodeChar_ofNat hvalid
  rw [Char.ofNat_toNat] at hoctets
  rw [Nat.isValidChar] at hvalid
  have hchar {number : Nat} (h : number = char.toNat) : char = Char.ofNat number := by
    rw [h, Char.ofNat_toNat]
  have htoNat (number : Nat) (h : number < 256) : (UInt8.ofNat number).toNat = number :=
    UInt8.toNat_ofNat_of_lt h
  -- Each length has the octets that its range of numbers needs.
  split at hoctets
  · have ha := htoNat char.toNat (by omega)
    refine ⟨_, _, hoctets, (starts_iff_of_error (start_one (by omega))).2 ⟨rfl, hchar ha⟩⟩
  split at hoctets
  · have ha := htoNat (char.toNat / 64 % 32 + 0xC0) (by omega)
    have hb := htoNat (char.toNat % 64 + 0x80) (by omega)
    refine ⟨_, _, hoctets, (starts_two_iff (by omega) (by omega)).2
      ⟨_, rfl, by omega, by omega, hchar (by omega)⟩⟩
  split at hoctets
  · have ha := htoNat (char.toNat / 4096 % 16 + 0xE0) (by omega)
    have hb := htoNat (char.toNat / 64 % 64 + 0x80) (by omega)
    have hc := htoNat (char.toNat % 64 + 0x80) (by omega)
    refine ⟨_, _, hoctets, (starts_three_iff (by omega) (by omega)).2
      ⟨_, _, rfl, ⟨⟨by omega, by omega⟩, by omega, by omega⟩, by omega, by omega, hchar (by omega)⟩⟩
  · have ha := htoNat (char.toNat / 262144 % 8 + 0xF0) (by omega)
    have hb := htoNat (char.toNat / 4096 % 64 + 0x80) (by omega)
    have hc := htoNat (char.toNat / 64 % 64 + 0x80) (by omega)
    have hd := htoNat (char.toNat % 64 + 0x80) (by omega)
    refine ⟨_, _, hoctets, (starts_four_iff (by omega) (by omega)).2
      ⟨_, _, _, rfl, ⟨⟨by omega, by omega⟩, by omega, by omega⟩, ⟨by omega, by omega⟩, by omega,
        by omega, hchar (by omega)⟩⟩

end Characters

/-! ### Texts and their octets -/

/-- The pieces of the octets of a character come first. -/
theorem Starts.pieces_append {a : UInt8} {tail : List UInt8} {c : Char} (h : Starts a tail c)
    (rest : List UInt8) : pieces none (a :: tail ++ rest) = .char c :: pieces none rest := by
  rw [List.cons_append, pieces, step, stepFresh]
  cases h with
  | alone hstart => rw [hstart]; rfl
  | completed hstart hrest =>
    rw [hstart]
    exact hrest.pieces_append rest

/-- Octets without an ill-formed run start with a character. -/
theorem exists_starts_of_pieces {b : UInt8} {rest : List UInt8} {chars : List Char}
    (h : pieces none (b :: rest) = chars.map .char) :
    ∃ tail after c others, rest = tail ++ after ∧ Starts b tail c ∧ chars = c :: others ∧
      pieces none after = others.map .char := by
  rw [pieces, step, stepFresh] at h
  cases hstart : start b with
  | error piece =>
    rw [hstart] at h
    obtain ⟨c, others, rfl, rfl, hothers⟩ := List.map_eq_cons_iff.1 h.symm
    exact ⟨[], rest, c, others, rfl, .alone hstart, rfl, hothers.symm⟩
  | ok p =>
    rw [hstart] at h
    obtain ⟨tail, after, c, others, rfl, htail, hchars, hafter⟩ := exists_completed h
    exact ⟨tail, after, c, others, rfl, .completed hstart htail, hchars, hafter⟩

/-- Octets without an ill-formed run are those of their characters. -/
theorem pieces_eq_map_char_iff {octets : List UInt8} {chars : List Char} :
    pieces none octets = chars.map .char ↔ octets = chars.flatMap String.utf8EncodeChar := by
  constructor
  · intro h
    -- Octets that start no character would give a piece that is none.
    induction chars generalizing octets with
    | nil =>
      cases octets with
      | nil => rfl
      | cons b rest =>
        obtain ⟨_, _, _, _, -, -, hchars, -⟩ := exists_starts_of_pieces h
        cases hchars
    | cons c others ih =>
      cases octets with
      | nil => cases h
      | cons b rest =>
        obtain ⟨tail, after, _, _, rfl, hstarts, hchars, hafter⟩ := exists_starts_of_pieces h
        cases hchars
        rw [List.flatMap_cons, hstarts.utf8EncodeChar_eq, ← ih hafter, List.cons_append]
  · rintro rfl
    induction chars with
    | nil => rfl
    | cons c others ih =>
      obtain ⟨a, tail, hoctets, hstarts⟩ := exists_starts c
      rw [List.flatMap_cons, hoctets, hstarts.pieces_append, ih, List.map_cons]

/-- Pieces are read as characters just if none of them is ill-formed. -/
theorem charsOf_eq_ok_iff {position : Nat} {before : List Char} {read : List Piece}
    {chars : List Char} :
    charsOf position before read = .ok chars ↔
      ∃ others, read = others.map .char ∧ chars = before.reverse ++ others := by
  induction read generalizing position before with
  | nil =>
    rw [charsOf, Except.ok.injEq]
    constructor
    · rintro rfl
      exact ⟨[], rfl, (List.append_nil _).symm⟩
    · rintro ⟨others, hothers, rfl⟩
      rw [List.map_eq_nil_iff.1 hothers.symm, List.append_nil]
  | cons piece rest ih =>
    cases piece with
    | bad flaw lead length =>
      constructor
      · intro h
        cases h
      · rintro ⟨_ | ⟨c, others⟩, hothers, -⟩ <;> cases hothers
    | char c =>
      rw [charsOf, ih]
      constructor
      · rintro ⟨others, rfl, rfl⟩
        exact ⟨c :: others, rfl, by simp⟩
      · rintro ⟨_ | ⟨c', others⟩, hothers, rfl⟩ <;> cases hothers
        exact ⟨others, rfl, by simp⟩

/-- Octets are decoded as a text just if they are its octets. -/
theorem decode_eq_ok_iff {octets : List UInt8} {text : String} :
    decode octets = .ok text ↔ octets = encode text := by
  have hchars (chars : List Char) :
      charsOf 0 [] (pieces none octets) = .ok chars ↔
        octets = chars.flatMap String.utf8EncodeChar := by
    rw [charsOf_eq_ok_iff, ← pieces_eq_map_char_iff]
    simp
  constructor
  · intro h
    obtain ⟨chars, hread, rfl⟩ := map_eq_ok_iff.1 h
    rw [encode, String.toList_ofList]
    exact (hchars chars).1 hread
  · intro h
    exact map_eq_ok_iff.2 ⟨text.toList, (hchars _).2 h, String.ofList_toList⟩

/-- Texts with the same octets are equal. -/
theorem encode_injective : Function.Injective encode := by
  intro text other h
  have htext : decode (encode other) = .ok text := decode_eq_ok_iff.2 h.symm
  have hother : decode (encode other) = .ok other := decode_eq_ok_iff.2 rfl
  exact Except.ok.inj (htext.symm.trans hother)

end BuildAudit.Text.Utf8
