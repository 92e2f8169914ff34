import BuildAudit.Text.Lowercase.Settled

/-!
# Package names

Package names are compared in one canonical form: without the blanks around them and in lower case.
The canonical form of a name is its own canonical form.
-/

namespace BuildAudit

/-- The canonical form of a package name. -/
def canonicalName (name : String) : String :=
  String.ofList (Text.lower (Text.trim name.toList))

/-- The canonical form of a name is canonical. -/
@[simp]
theorem canonicalName_canonicalName (name : String) :
    canonicalName (canonicalName name) = canonicalName name := by
  rw [canonicalName, canonicalName, String.toList_ofList, Text.trim_lower_trim, Text.lower_lower]

end BuildAudit
