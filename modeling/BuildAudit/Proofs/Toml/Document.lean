import BuildAudit.Proofs.Checks
import BuildAudit.Proofs.Table
import BuildAudit.Toml.Document

/-!
# Tables of a TOML document

However a document builds up its tables, with headers, dotted keys or braces, no table gets a key
twice (`hasDistinctKeys_of_readOctets`). Every step that changes tables keeps this of the table at
the root and of all tables below it (`HasDistinctKeys`).
-/

namespace BuildAudit.Toml

/-- All tables of a value have distinct keys: the value itself, if it is one, and those within. -/
inductive HasDistinctKeys : Value → Prop where
  /-- A value that is neither a list nor a table holds no tables. -/
  | plain {value : Value} (h : isNested value = false) : HasDistinctKeys value
  /-- The tables of a list are those of its items. -/
  | list {items : List Value} (h : ∀ item ∈ items, HasDistinctKeys item) :
    HasDistinctKeys (.list items)
  /-- A table has distinct keys itself, and so have the tables of its entries. -/
  | table {entries : Table Value} (hkeys : entries.keys.Nodup)
    (h : ∀ entry ∈ entries, HasDistinctKeys entry.2) : HasDistinctKeys (.table entries)

namespace HasDistinctKeys

theorem of_mem_list {items : List Value} (h : HasDistinctKeys (.list items)) {item : Value}
    (hitem : item ∈ items) : HasDistinctKeys item := by
  cases h with
  | plain h => cases h
  | list h => exact h item hitem

theorem nodup_keys {entries : Table Value} (h : HasDistinctKeys (.table entries)) :
    entries.keys.Nodup := by
  cases h with
  | plain h => cases h
  | table hkeys => exact hkeys

theorem of_mem_table {entries : Table Value} (h : HasDistinctKeys (.table entries))
    {entry : String × Value} (hentry : entry ∈ entries) : HasDistinctKeys entry.2 := by
  cases h with
  | plain h => cases h
  | table _ h => exact h entry hentry

theorem of_get? {entries : Table Value} (h : HasDistinctKeys (.table entries)) {key : String}
    {value : Value} (hvalue : entries.get? key = some value) : HasDistinctKeys value :=
  h.of_mem_table (Table.mem_of_get? hvalue)

theorem empty : HasDistinctKeys (.table []) :=
  .table .nil fun _ hmem => by cases hmem

theorem insert {entries : Table Value} (h : HasDistinctKeys (.table entries)) (key : String)
    {value : Value} (hvalue : HasDistinctKeys value) :
    HasDistinctKeys (.table (entries.insert key value)) := by
  refine .table (Table.nodup_keys_insert h.nodup_keys key value) fun entry hentry => ?_
  rcases Table.mem_of_mem_insert hentry with rfl | hmem
  · exact hvalue
  · exact h.of_mem_table hmem

/-- An item may be put at the end of a list. -/
theorem append {items : List Value} (h : HasDistinctKeys (.list items)) {item : Value}
    (hitem : HasDistinctKeys item) : HasDistinctKeys (.list (items ++ [item])) := by
  refine .list fun other hother => ?_
  rcases List.mem_append.1 hother with hmem | hmem
  · exact h.of_mem_list hmem
  · rw [List.mem_singleton.1 hmem]
    exact hitem

end HasDistinctKeys

/-- A change of tables that gives no table a key twice. -/
def KeepsDistinctKeys (change : Table Value → Except Cause (Table Value)) : Prop :=
  ∀ table changed, HasDistinctKeys (.table table) → change table = .ok changed →
    HasDistinctKeys (.table changed)

theorem keepsDistinctKeys_addEntry (taken : Cause) (name : String) {value : Value}
    (hvalue : HasDistinctKeys value) : KeepsDistinctKeys (addEntry taken name value) := by
  intro table changed htable h
  unfold addEntry at h
  split at h <;> cases h
  exact htable.insert name hvalue

theorem keepsDistinctKeys_addItem (name : String) : KeepsDistinctKeys (addItem name) := by
  intro table changed htable h
  unfold addItem at h
  split at h
  · cases h
    refine htable.insert name (.list fun item hitem => ?_)
    rw [List.mem_singleton.1 hitem]
    exact .empty
  · next items hget =>
    cases h
    exact htable.insert name ((htable.of_get? hget).append .empty)
  · cases h

/-- A change far below keeps the keys of all tables on the way distinct. -/
theorem keepsDistinctKeys_changeAt {throughLists : Bool}
    {change : Table Value → Except Cause (Table Value)} (hchange : KeepsDistinctKeys change)
    (path : Key) : KeepsDistinctKeys (changeAt throughLists change path) := by
  induction path with
  | nil => exact hchange
  | cons name path ih =>
    intro table changed htable h
    unfold changeAt at h
    -- The changed table goes back to where the path has found it.
    have hback {start : Table Value} (hstart : HasDistinctKeys (.table start))
        {place : Table Value → Value}
        (hplace : ∀ inner, HasDistinctKeys (.table inner) → HasDistinctKeys (place inner))
        (hresult : (changeAt throughLists change path start).map
          (fun inner => Table.insert table name (place inner)) = .ok changed) :
        HasDistinctKeys (.table changed) := by
      rcases hinner : changeAt throughLists change path start with cause | inner
      · rw [hinner] at hresult
        cases hresult
      · rw [hinner] at hresult
        cases hresult
        exact htable.insert name (hplace inner (ih start inner hstart hinner))
    -- The name is new, or it is that of a table, of a list of tables or of something else.
    split at h
    · exact hback .empty (fun _ hinner => hinner) h
    · next inner hget => exact hback (htable.of_get? hget) (fun _ hinner => hinner) h
    · next items hget =>
      have hitems := htable.of_get? hget
      split at h
      · next inner hlast =>
        have hmem := List.mem_of_getLast? hlast
        refine hback (hitems.of_mem_list hmem) (fun inner hinner => ?_) h
        exact HasDistinctKeys.append
          (.list fun item hitem => hitems.of_mem_list (List.dropLast_subset _ hitem)) hinner
      · cases h
    · cases h

theorem keepsDistinctKeys_addPair {closed : List Key} {key : Key} {value : Value}
    (hvalue : HasDistinctKeys value) : KeepsDistinctKeys (addPair closed key value) := by
  intro table changed htable h
  unfold addPair at h
  split at h
  · cases h
  · exact keepsDistinctKeys_changeAt (keepsDistinctKeys_addEntry _ _ hvalue) _ table changed
      htable h

/-- A date or time holds no tables. -/
theorem isNested_of_readMoment? {cs rest : List Char} {value : Value}
    (h : readMoment? cs = some (some value, rest)) : isNested value = false := by
  unfold readMoment? at h
  split at h
  · next date after _ =>
    rcases hpart : timePart after with ⟨time?, later⟩
    rw [hpart] at h
    dsimp only at h
    by_cases hvalid : date.isValid = true
    · cases time? <;> simp only [hvalid, if_true] at h <;> cases h <;> rfl
    · cases time? <;> simp [hvalid] at h
  · obtain ⟨⟨time, later⟩, -, heq⟩ := Option.map_eq_some_iff.1 h
    cases heq
    rfl

/-- A number holds no tables. -/
theorem isNested_of_readNumber? {cs rest : List Char} {value : Value}
    (h : readNumber? cs = some (.ok (value, rest))) : isNested value = false := by
  rw [readNumber?, Option.or_eq_some_iff] at h
  -- In another base, in base ten, or one of the special fractions.
  rcases h with h | ⟨-, h⟩
  · obtain ⟨read, hread, heq⟩ := Option.map_eq_some_iff.1 h
    cases heq
    unfold readBased? at hread
    split at hread
    · obtain ⟨_, -, heq⟩ := Option.map_eq_some_iff.1 hread
      cases heq
      rfl
    · cases hread
  · rw [Option.or_eq_some_iff] at h
    rcases h with h | ⟨-, h⟩
    · obtain ⟨_, -, heq⟩ := Option.map_eq_some_iff.1 h
      dsimp only at heq
      split at heq
      · split at heq <;> cases heq
        rfl
      · cases heq
        rfl
    · obtain ⟨read, hread, heq⟩ := Option.map_eq_some_iff.1 h
      cases heq
      unfold readSpecial? at hread
      dsimp only at hread
      split at hread <;> cases hread <;> rfl

/-- A value that is neither a list nor a table is read as such. -/
theorem isNested_of_readScalar {cs rest : List Char} {value : Value}
    (h : readScalar cs = .ok (value, rest)) : isNested value = false := by
  unfold readScalar at h
  split at h
  · cases h; rfl
  · cases h; rfl
  · split at h
    · next read _ =>
      cases read <;> cases h
      rfl
    · next hmoment =>
      cases h
      exact isNested_of_readMoment? hmoment
    · cases h
    · rcases hnumber : readNumber? cs with _ | read
      · rw [hnumber] at h
        cases h
      · rw [hnumber] at h
        exact isNested_of_readNumber? (hnumber.trans (congrArg some h))

/-- The values that are read from braces and brackets, and those within them, have tables with
distinct keys. -/
theorem hasDistinctKeys_of_read (fuel : Nat) :
    (∀ room cs value rest, readValue fuel room cs = .ok (value, rest) → HasDistinctKeys value) ∧
    (∀ room items cs value rest, (∀ item ∈ items, HasDistinctKeys item) →
      readItems fuel room items cs = .ok (value, rest) → HasDistinctKeys value) ∧
    (∀ room closed table cs value rest, HasDistinctKeys (.table table) →
      readPairs fuel room closed table cs = .ok (value, rest) → HasDistinctKeys value) := by
  -- The three readers call each other with less fuel only, so the claims go through together.
  induction fuel with
  | zero =>
    refine ⟨fun _ _ _ _ h => ?_, fun _ _ _ _ _ _ h => ?_, fun _ _ _ _ _ _ _ h => ?_⟩ <;>
      cases h
  | succ fuel ih =>
    obtain ⟨ihValue, ihItems, ihPairs⟩ := ih
    refine ⟨fun room cs value rest h => ?value, fun room items cs value rest hitems h => ?items,
      fun room closed table cs value rest htable h => ?pairs⟩
    case value =>
      unfold readValue at h
      split at h
      · split at h
        · cases h
        · obtain ⟨filled, -, h⟩ := bind_eq_ok_iff.1 h
          split at h
          · cases h
            exact .list fun _ hmem => by cases hmem
          · exact ihItems _ _ _ _ _ (fun _ hmem => by cases hmem) h
      · split at h
        · cases h
        · split at h
          · cases h
            exact .empty
          · exact ihPairs _ _ _ _ _ _ .empty h
      · exact .plain (isNested_of_readScalar h)
    case items =>
      unfold readItems at h
      obtain ⟨⟨item, after⟩, hitem, h⟩ := bind_eq_ok_iff.1 h
      have hmore : ∀ other ∈ item :: items, HasDistinctKeys other :=
        List.forall_mem_cons.2 ⟨ihValue _ _ _ _ hitem, hitems⟩
      have hlist : HasDistinctKeys (.list (item :: items).reverse) :=
        .list fun other hother => hmore other (List.mem_reverse.1 hother)
      obtain ⟨filled, -, h⟩ := bind_eq_ok_iff.1 h
      split at h
      · cases h
        exact hlist
      · obtain ⟨filled, -, h⟩ := bind_eq_ok_iff.1 h
        split at h
        · cases h
          exact hlist
        · exact ihItems _ _ _ _ _ hmore h
      · cases h
    case pairs =>
      unfold readPairs at h
      obtain ⟨⟨key, after⟩, -, h⟩ := bind_eq_ok_iff.1 h
      obtain ⟨⟨held, after⟩, hheld, h⟩ := bind_eq_ok_iff.1 h
      obtain ⟨changed, hchanged, h⟩ := bind_eq_ok_iff.1 h
      have hadded : HasDistinctKeys (.table changed) :=
        keepsDistinctKeys_addPair (ihValue _ _ _ _ hheld) table changed htable
          (mapError_eq_ok_iff.1 hchanged)
      split at h
      · cases h
        exact hadded
      · exact ihPairs _ _ _ _ _ _ hadded h
      · cases h

namespace Document

variable {doc later : Document}

theorem hasDistinctKeys_declareTable {key : Key} (hdoc : HasDistinctKeys (.table doc.root))
    (h : doc.declareTable key = .ok later) : HasDistinctKeys (.table later.root) := by
  unfold declareTable at h
  split at h
  · cases h
  · obtain ⟨root, hroot, h⟩ := bind_eq_ok_iff.1 h
    cases h
    exact keepsDistinctKeys_changeAt
      (fun table changed htable hsame => by cases hsame; exact htable) key doc.root root hdoc hroot

theorem hasDistinctKeys_declareItem {key : Key} (hdoc : HasDistinctKeys (.table doc.root))
    (h : doc.declareItem key = .ok later) : HasDistinctKeys (.table later.root) := by
  unfold declareItem at h
  split at h
  · cases h
  · obtain ⟨root, hroot, h⟩ := bind_eq_ok_iff.1 h
    cases h
    exact keepsDistinctKeys_changeAt (keepsDistinctKeys_addItem _) _ doc.root root hdoc hroot

theorem hasDistinctKeys_addMember {key : Key} {value : Value}
    (hdoc : HasDistinctKeys (.table doc.root)) (hvalue : HasDistinctKeys value)
    (h : doc.addMember key value = .ok later) : HasDistinctKeys (.table later.root) := by
  unfold addMember at h
  dsimp only at h
  split at h
  · cases h
  · split at h
    · cases h
    · obtain ⟨root, hroot, h⟩ := bind_eq_ok_iff.1 h
      cases h
      exact keepsDistinctKeys_changeAt (keepsDistinctKeys_addEntry _ _ hvalue) _ doc.root root hdoc
        hroot

end Document

/-- A statement gives no table a key twice. -/
theorem hasDistinctKeys_of_readStatement {doc later : Document} {cs rest : List Char}
    (hdoc : HasDistinctKeys (.table doc.root)) (h : readStatement doc cs = .ok (later, rest)) :
    HasDistinctKeys (.table later.root) := by
  have hsettled : HasDistinctKeys (.table doc.settle.root) := hdoc
  unfold readStatement at h
  -- A header for a list of tables, one for a table, three kinds of empty lines, and a pair.
  split at h
  · obtain ⟨⟨key, after⟩, -, h⟩ := bind_eq_ok_iff.1 h
    obtain ⟨changed, hchanged, h⟩ := bind_eq_ok_iff.1 h
    obtain ⟨end', -, h⟩ := bind_eq_ok_iff.1 h
    cases h
    rw [refuseAt, mapError_eq_ok_iff] at hchanged
    exact Document.hasDistinctKeys_declareItem hsettled hchanged
  · obtain ⟨⟨key, after⟩, -, h⟩ := bind_eq_ok_iff.1 h
    obtain ⟨changed, hchanged, h⟩ := bind_eq_ok_iff.1 h
    obtain ⟨end', -, h⟩ := bind_eq_ok_iff.1 h
    cases h
    rw [refuseAt, mapError_eq_ok_iff] at hchanged
    exact Document.hasDistinctKeys_declareTable hsettled hchanged
  · cases h; exact hdoc
  · cases h; exact hdoc
  · cases h; exact hdoc
  · split at h
    · cases h
    · obtain ⟨⟨key, after⟩, -, h⟩ := bind_eq_ok_iff.1 h
      obtain ⟨⟨value, after'⟩, hvalue, h⟩ := bind_eq_ok_iff.1 h
      obtain ⟨changed, hchanged, h⟩ := bind_eq_ok_iff.1 h
      cases h
      exact Document.hasDistinctKeys_addMember hdoc
        ((hasDistinctKeys_of_read _).1 _ _ _ _ hvalue) (mapError_eq_ok_iff.1 hchanged)

/-- Lines give no table a key twice. -/
theorem hasDistinctKeys_of_readLines {fuel : Nat} {doc later : Document} {cs : List Char}
    (hdoc : HasDistinctKeys (.table doc.root)) (h : readLines fuel doc cs = .ok later) :
    HasDistinctKeys (.table later.root) := by
  induction fuel generalizing doc cs with
  | zero => cases h
  | succ fuel ih =>
    unfold readLines at h
    obtain ⟨⟨next, after⟩, hnext, h⟩ := bind_eq_ok_iff.1 h
    have hkept := hasDistinctKeys_of_readStatement hdoc hnext
    obtain ⟨rest, -, h⟩ := bind_eq_ok_iff.1 h
    split at h
    · cases h
      exact hkept
    · exact ih hkept h
    · cases h

/-- No table of a document has a key twice. -/
theorem hasDistinctKeys_of_readOctets {octets : List UInt8} {root : Table Value}
    (h : readOctets octets = .ok root) : HasDistinctKeys (.table root) := by
  unfold readOctets at h
  obtain ⟨text, -, h⟩ := bind_eq_ok_iff.1 h
  obtain ⟨doc, hdoc, heq⟩ := map_eq_ok_iff.1 (mapError_eq_ok_iff.1 h)
  cases heq
  exact hasDistinctKeys_of_readLines .empty hdoc

end BuildAudit.Toml
