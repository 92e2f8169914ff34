/-!
# Line ends

A text that is read from a file has line feeds at the ends of its lines, whether the file has a
carriage return, a line feed or both there.
-/

namespace BuildAudit.Text

/-- The text with a line feed for every carriage return, with or without a line feed after it. -/
def unifyLineEnds : List Char → List Char
  | [] => []
  | '\r' :: '\n' :: rest => '\n' :: unifyLineEnds rest
  | '\r' :: rest => '\n' :: unifyLineEnds rest
  | c :: rest => c :: unifyLineEnds rest

/-- No carriage return is left. -/
theorem not_mem_unifyLineEnds (cs : List Char) : '\r' ∉ unifyLineEnds cs := by
  fun_induction unifyLineEnds cs with
  | case1 => exact List.not_mem_nil
  | case2 rest ih => simpa using ih
  | case3 rest hnext ih => simpa using ih
  | case4 c rest hboth hreturn ih =>
    rw [List.mem_cons, not_or]
    exact ⟨fun heq => hreturn heq.symm, ih⟩

/-- A text stays as it is just if it has no carriage return. -/
theorem unifyLineEnds_eq_self_iff {cs : List Char} : unifyLineEnds cs = cs ↔ '\r' ∉ cs := by
  constructor
  · intro h
    rw [← h]
    exact not_mem_unifyLineEnds cs
  · intro h
    fun_induction unifyLineEnds cs with
    | case1 => rfl
    | case2 rest ih => exact absurd List.mem_cons_self h
    | case3 rest hnext ih => exact absurd List.mem_cons_self h
    | case4 c rest hboth hreturn ih =>
      rw [List.mem_cons, not_or] at h
      rw [ih h.2]

end BuildAudit.Text
