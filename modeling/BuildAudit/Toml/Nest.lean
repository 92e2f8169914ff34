import BuildAudit.Toml.Fault
import BuildAudit.Value.Basic

/-!
# Tables within tables

A table of a document is reached by a path. Tables on the way are made where they are missing; a
list on the way stands for its last item.
-/

namespace BuildAudit.Toml

/-- Changes the table at a path, which must not lead through anything other than tables. Lists are
entered only where `throughLists` says so. -/
def changeAt (throughLists : Bool) (change : Table Value → Except Cause (Table Value)) :
    Key → Table Value → Except Cause (Table Value)
  | [], table => change table
  | name :: path, table =>
    match table.get? name with
    | none =>
      (changeAt throughLists change path []).map fun inner => table.insert name (.table inner)
    | some (.table inner) =>
      (changeAt throughLists change path inner).map fun inner => table.insert name (.table inner)
    | some (.list items) =>
      match throughLists, items.getLast? with
      | true, some (.table inner) =>
        (changeAt throughLists change path inner).map fun inner =>
          table.insert name (.list (items.dropLast ++ [.table inner]))
      | _, _ => .error .overwritten
    | some _ => .error .overwritten

/-- Adds an entry that a table does not have yet; `taken` is what is wrong if it does. -/
def addEntry (taken : Cause) (name : String) (value : Value) (table : Table Value) :
    Except Cause (Table Value) :=
  if table.hasKey name then .error taken else .ok (table.insert name value)

/-- Adds an empty table to a list, which is made if it is missing. -/
def addItem (name : String) (table : Table Value) : Except Cause (Table Value) :=
  match table.get? name with
  | none => .ok (table.insert name (.list [.table []]))
  | some (.list items) => .ok (table.insert name (.list (items ++ [.table []])))
  | some _ => .error .overwritten

/-- Whether a path, or one that leads to it, is among some paths. -/
def covers (paths : List Key) (path : Key) : Bool :=
  paths.any fun shorter => !shorter.isEmpty && shorter.isPrefixOf path

end BuildAudit.Toml
