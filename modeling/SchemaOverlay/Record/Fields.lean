import SchemaOverlay.Json.Value

/-!
# Records in JSON

How the fields of a record are found in a syntax tree, and how single fields are
read and written.  A record is an object, in which the order of the known fields
and any unknown ones do not matter and a known field may stand only once; or it
is an array of the fields in their order, of which the last ones may be missing.
-/

namespace SchemaOverlay.Json

/-- What a record holds for a field; nothing when the field is missing. -/
abbrev Slot := Option Tree

namespace Slot

/-- Read a field that has to be there. -/
def required {α : Type} (read : Tree → Option α) (slot : Slot) : Option α :=
  slot.bind read

/-- Read a field that has a default. -/
def optional {α : Type} (default : α) (read : Tree → Option α) : Slot → Option α
  | none => some default
  | some tree => read tree

end Slot

namespace Tree

/-- The names under which a field is known. -/
abbrev FieldNames := List String

/-- The single field known under the names; none inside when it is missing, none when it repeats. -/
def slot? (fields : List (String × Tree)) (names : FieldNames) : Option Slot :=
  match fields.filter fun field => names.contains field.1 with
  | [] => some none
  | [field] => some (some field.2)
  | _ => none

/-- A field with its key as a text. -/
def keyed? (field : List Char × Tree) : Option (String × Tree) :=
  (Quoted.decode? field.1).map fun key => (key, field.2)

/-- The slots of a record, one for each of its fields. -/
def slots? (record : List FieldNames) : Tree → Option (List Slot)
  | .object fields => do
    let keyed ← fields.mapM keyed?
    record.mapM (slot? keyed)
  | .array items =>
    if items.length ≤ record.length then
      some (items.map some ++ List.replicate (record.length - items.length) none)
    else none
  | _ => none

def text? : Tree → Option String
  | .string spelling => Quoted.decode? spelling
  | _ => none

def bool? : Tree → Option Bool
  | .bool value => some value
  | _ => none

/-- A natural number below `2 ^ 64`, written without a fraction and an exponent. -/
def word? : Tree → Option UInt64
  | .number spelling =>
    match Number.ofChars? spelling with
    | some (.integer value) => if 0 ≤ value then some (.ofNat value.toNat) else none
    | _ => none
  | _ => none

def list? {α : Type} (read : Tree → Option α) : Tree → Option (List α)
  | .array items => items.mapM read
  | _ => none

def texts? : Tree → Option (List String) := list? text?

def names? (tree : Tree) : Option NameSet := tree.texts?.map NameSet.ofNames

def nullable? {α : Type} (read : Tree → Option α) : Tree → Option (Option α)
  | .null => some none
  | tree => (read tree).map some

/-- The name of a choice: a text, or an object whose only field has that key and the null. -/
def choice? : Tree → Option String
  | .string spelling => Quoted.decode? spelling
  | .object [(spelling, .null)] => Quoted.decode? spelling
  | _ => none

def ofString (text : String) : Tree := .string (Quoted.encode text.toList)

def ofNat (n : Nat) : Tree := .number (Number.natDigits n)

def ofList {α : Type} (write : α → Tree) (items : List α) : Tree := .array (items.map write)

/-- The tree of a list of texts. -/
def ofStrings (texts : List String) : Tree := ofList ofString texts

/-- The tree of something that may be missing; the null when it is. -/
def ofOption {α : Type} (write : α → Tree) : Option α → Tree
  | none => .null
  | some value => write value

/-- The tree of a record, its fields in the given order. -/
def ofRecord (fields : List (String × Tree)) : Tree :=
  .object (fields.map fun field => (Quoted.encode field.1.toList, field.2))

def toText (tree : Tree) : String := String.ofList tree.compact

end Tree

end SchemaOverlay.Json
