import EvmBank.Json.Value
import EvmBank.Quantity

/-!
Reading typed values out of documents. A record is given as an object, with its fields in any
order and unknown ones ignored, or as the array of its fields in their order. The same values are
read from documents of several formats; what these do differently is in their `Dialect`.
-/

namespace EvmBank.Json

/-- What formats of documents do differently. -/
structure Dialect where
  /-- What stands beside the name of a choice without content. -/
  isUnit : Json → Bool
  /-- Whether a record given as an array may have more items than fields. -/
  allowsExtraItems : Bool

/-- In JSON a choice without content has `null` beside its name. -/
def dialect : Dialect where
  isUnit v := match v with
    | .null => true
    | _ => false
  allowsExtraItems := false

/-- A record: its members by name, or its fields in their order. -/
inductive Record where
  | members (fields : List (String × Json))
  | items (fields : List Json)

/-- A member with a proper name. -/
def named? (m : Option String × Json) : Option (String × Json) := m.1.map fun name => (name, m.2)

/-- A value as a record of `count` fields. -/
def record? (d : Dialect) (count : Nat) : Json → Option Record
  | .object members => (members.mapM named?).map .members
  | .array items =>
    if items.length ≤ count || d.allowsExtraItems then some (.items items) else none
  | _ => none

/-- What a record says of a field. -/
inductive Entry where
  | absent
  | present (value : Json)

/-- Finds the field that has the place `index` and the name `name`. No field may be given twice. -/
def Record.entry? (r : Record) (index : Nat) (name : String) : Option Entry :=
  match r with
  | .members fields =>
    match fields.filter fun f => f.1 = name with
    | [] => some .absent
    | [f] => some (.present f.2)
    | _ => none
  | .items fields =>
    match fields[index]? with
    | some v => some (.present v)
    | none => some .absent

variable {α : Type}

/-- A field that has to be there. -/
def Record.required? (r : Record) (index : Nat) (name : String) (read : Json → Option α) :
    Option α :=
  match r.entry? index name with
  | some (.present v) => read v
  | _ => none

/-- A field that stands for `fallback` where it is not there. -/
def Record.optional? (r : Record) (index : Nat) (name : String) (read : Json → Option α)
    (fallback : α) : Option α :=
  match r.entry? index name with
  | some (.present v) => read v
  | some .absent => some fallback
  | none => none

/-- A value that may be `null`. -/
def nullable? (read : Json → Option α) : Json → Option (Option α)
  | .null => some none
  | v => (read v).map some

/-- A field that may be `null`, and may be left out of an object but not of an array. -/
def Record.nullable? (r : Record) (index : Nat) (name : String) (read : Json → Option α) :
    Option (Option α) :=
  match r with
  | .members _ => r.optional? index name (Json.nullable? read) none
  | .items _ => r.required? index name (Json.nullable? read)

/-- A choice between alternatives by name: the name alone, or an object of one member with the
content of the alternative beside the name. -/
def choice? (plain : String → Option α) (content : String → Json → Option α) : Json → Option α
  | .text (some name) => plain name
  | .object [(some name, v)] => content name v
  | _ => none

/-- A choice between alternatives without content. -/
def enumeration? (d : Dialect) (plain : String → Option α) : Json → Option α :=
  choice? plain fun name v => if d.isUnit v then plain name else none

def text? : Json → Option String
  | .text content => content
  | _ => none

def bool? : Json → Option Bool
  | .bool b => some b
  | _ => none

/-- A number of a fixed width, written with digits alone, which are no more than its bits. -/
def quantity? {bits : Nat} : Json → Option (Quantity bits)
  | .number lexeme =>
    if lexeme.length ≤ bits && lexeme.all Char.isDigit then
      Quantity.ofNat? (Nat.ofDigitChars 10 lexeme 0)
    else none
  | _ => none

def list? (read : Json → Option α) : Json → Option (List α)
  | .array items => items.mapM read
  | _ => none

/-- A map from texts; of several values for one key the last counts. -/
def entries? (read : Json → Option α) : Json → Option (List (String × α))
  | .object members => members.mapM fun m => do return (← m.1, ← read m.2)
  | _ => none

end EvmBank.Json
