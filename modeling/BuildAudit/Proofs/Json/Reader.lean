import BuildAudit.Json.Reader
import BuildAudit.Proofs.OrderedSet

/-!
# Objects of a JSON text

Of members with one name the last counts, so the table of an object has distinct keys
(`nodup_keys_of_read`).
-/

namespace BuildAudit.Json

/-- A value is no table, or a table with distinct keys. -/
def HasDistinctKeys : JsonValue → Prop
  | .table entries => (Table.keys entries).Nodup
  | _ => True

/-- A number has no keys. -/
theorem hasDistinctKeys_of_readNumber {cs rest : List Char} {value : JsonValue}
    (h : readNumber cs = .ok (value, rest)) : HasDistinctKeys value := by
  unfold readNumber at h
  dsimp only at h
  split at h
  · cases h
  · split at h
    · split at h
      · cases h
      · cases h
        trivial
    · cases h
      trivial

/-- A value that is neither a string, a list nor a table has no keys. -/
theorem hasDistinctKeys_of_readPlain {cs rest : List Char} {value : JsonValue}
    (h : readPlain cs = .ok (value, rest)) : HasDistinctKeys value := by
  unfold readPlain at h
  split at h
  · cases h; trivial
  · cases h; trivial
  · cases h; trivial
  · cases h; trivial
  · cases h; trivial
  · cases h; trivial
  · exact hasDistinctKeys_of_readNumber h

/-- A list has no keys. -/
theorem hasDistinctKeys_of_readItems {fuel room : Nat} {items : List JsonValue}
    {cs rest : List Char} {value : JsonValue}
    (h : readItems fuel room items cs = .ok (value, rest)) :
    HasDistinctKeys value := by
  induction fuel generalizing items cs with
  | zero => cases h
  | succ fuel ih =>
    rw [readItems] at h
    split at h
    · cases h
    · split at h
      · cases h
        trivial
      · exact ih h
      · cases h

/-- The members of an object make up a table with distinct keys. -/
theorem hasDistinctKeys_of_readMembers {fuel room : Nat} {entries : List (CodeText × JsonValue)}
    {cs rest : List Char} {value : JsonValue}
    (h : readMembers fuel room entries cs = .ok (value, rest)) : HasDistinctKeys value := by
  -- Members that are read go to the front of `entries`; only the last step makes them a table.
  induction fuel generalizing entries cs with
  | zero => cases h
  | succ fuel ih =>
    unfold readMembers at h
    split at h
    · split at h
      · cases h
      · split at h
        · split at h
          · cases h
          · split at h
            · cases h
              exact Table.nodup_keys_ofEntries _
            · exact ih h
            · cases h
        · cases h
    · cases h

/-- A table that is read has distinct keys. -/
theorem hasDistinctKeys_of_readValue {fuel room : Nat} {cs rest : List Char} {value : JsonValue}
    (h : readValue fuel room cs = .ok (value, rest)) : HasDistinctKeys value := by
  -- The keys of nested tables do not matter, so no induction over the three readers is needed.
  cases fuel with
  | zero => cases h
  | succ fuel =>
    unfold readValue at h
    split at h
    · split at h
      · cases h
        trivial
      · cases h
    · split at h
      · cases h
      · split at h
        · cases h
          trivial
        · exact hasDistinctKeys_of_readItems h
    · split at h
      · cases h
      · split at h
        · cases h
          exact .nil
        · exact hasDistinctKeys_of_readMembers h
    · exact hasDistinctKeys_of_readPlain h

/-- The table of an object has distinct keys. -/
theorem nodup_keys_of_read {text : String} {entries : JsonObject}
    (h : read text = .ok (.table entries)) : entries.keys.Nodup := by
  unfold read at h
  dsimp only at h
  split at h
  · cases h
  · split at h
    · cases h
    · next hvalue =>
      split at h
      · cases h
        exact hasDistinctKeys_of_readValue hvalue
      · cases h

/-- Different halves are different keys, and halves that belong together are a character. -/
example :
    ((read "\x7b\"\\ud800\": 1, \"\\ud801\": 2, \"\\ud83d\\ude00\": 3\x7d").toOption.bind
      Value.asTable?).map Table.keys =
        some [.ofPoints [.half 0], .ofPoints [.half 1], .ofString "😀"] := by
  decide +kernel

end BuildAudit.Json
