import EvmBank.Json.Record

/-!
Tables of a TOML text while it is read. A table can be opened by a header once, by dotted keys, or
as the place of a table within it; what has been opened in one way cannot be opened in another,
and no key is given twice. A header in double brackets adds a row to an array of tables, and keys
behind it go to the last row.
-/

namespace EvmBank.Toml

/-- How a table came about. -/
inductive Origin where
  /-- It has a header of its own, or stands in braces. -/
  | header
  /-- It is only the place of tables with a header. -/
  | place
  /-- It is named in a dotted key. -/
  | dotted
deriving DecidableEq

/-- What stands under a key: a complete value, a table, or an array of tables, the last row
first. -/
inductive Item where
  | value (v : Json)
  | table (origin : Origin) (entries : List (String × Item))
  | rows (rows : List (List (String × Item)))

/-- The entries of a table, in the order of their keys' first occurrence. -/
abbrev Entries := List (String × Item)

def Entries.set : (es : Entries) → (key : String) → (item : Item) → Entries
  | [], key, item => [(key, item)]
  | e :: es, key, item => if e.1 = key then (key, item) :: es else e :: set es key item

def Entries.get? (es : Entries) (key : String) : Option Item := es.lookup key

/-- Changes the table at the end of a path, which is made where it is missing. With `dotted`, the
path stands in front of a dotted key, and does not lead through tables with a header. The change
is told how the table came about. -/
def Entries.update (change : Origin → Entries → Option Entries) (dotted : Bool) :
    (path : List String) → (origin : Origin) → Entries → Option Entries
  | [], origin, es => change origin es
  | key :: path, _, es =>
    let fresh := if dotted then Origin.dotted else Origin.place
    match es.get? key with
    | none => do
      let inner ← update change dotted path fresh []
      return es.set key (.table fresh inner)
    | some (.value _) => none
    | some (.table origin inner) =>
      if dotted && origin = .header then none
      else do
        let inner ← update change dotted path origin inner
        return es.set key (.table origin inner)
    | some (.rows rows) => do
      let last ← update change dotted path .header (rows.head?.getD [])
      return es.set key (.rows (last :: rows.tail))

/-- The path without its last key, and that key. -/
def splitPath? (path : List String) : Option (List String × String) :=
  path.getLast?.map fun key => (path.dropLast, key)

def Entries.openTable (es : Entries) (path : List String) : Option Entries := do
  let (outer, key) ← splitPath? path
  es.update (fun _ table =>
    match table.get? key with
    | none => some (table.set key (.table .header []))
    | some (.table .place inner) => some (table.set key (.table .header inner))
    | some _ => none) false outer .header

def Entries.openRow (es : Entries) (path : List String) : Option Entries := do
  let (outer, key) ← splitPath? path
  es.update (fun _ table =>
    match table.get? key with
    | none => some (table.set key (.rows [[]]))
    | some (.rows rows) => some (table.set key (.rows ([] :: rows)))
    | some _ => none) false outer .header

/-- Adds a value under a dotted key to a table. The key must be free, and a table that is named in
the key must not have come about in another way. -/
def Entries.addValue (path : List String) (v : Json) (es : Entries) : Option Entries := do
  let (outer, key) ← splitPath? path
  es.update (fun origin table =>
    if (origin == .dotted) = outer.isEmpty then none
    else
      match table.get? key with
      | none => some (table.set key (.value v))
      | some _ => none) true outer .header

/-- Adds a value under a dotted key to the table at a path. -/
def Entries.addAt (es : Entries) (table path : List String) (v : Json) : Option Entries :=
  es.update (fun _ entries => entries.addValue path v) false table .header

mutual

def Item.toJson : Item → Json
  | .value v => v
  | .table _ entries => .object (entriesToMembers entries)
  | .rows rows => .array (rowsToItems rows).reverse

def entriesToMembers : List (String × Item) → List (Option String × Json)
  | [] => []
  | (key, item) :: rest => (some key, item.toJson) :: entriesToMembers rest

/-- Rows as the items of an array, in the order of the rows. -/
def rowsToItems : List (List (String × Item)) → List Json
  | [] => []
  | row :: rest => .object (entriesToMembers row) :: rowsToItems rest

end

end EvmBank.Toml
