import SchemaOverlay.Json.Quoted
import SchemaOverlay.Json.Tree
import SchemaOverlay.Number.Basic
import SchemaOverlay.SortedMap

/-!
# JSON values

The values that cells and options hold.  A value no longer knows how it was
spelled: numbers are numbers, strings are texts, and an object is listed in the
order of its keys, each of them once.  `Tree.toValue?` reads a value off a
syntax tree and `Value.toTree` spells it.
-/

namespace SchemaOverlay

/-- A JSON value; the fields of an object ascend by key. -/
inductive Value where
  | null
  | bool (value : Bool)
  | number (value : Number)
  | string (value : String)
  | array (items : List Value)
  | object (fields : List (String × Value))

namespace Value

instance : Inhabited Value := ⟨.null⟩

def isNull : Value → Bool
  | .null => true
  | _ => false

theorem isNull_iff {value : Value} : value.isNull = true ↔ value = .null := by
  cases value <;> simp [isNull]

/-- The fields in the order of their keys; of a repeated key the last one stays. -/
def ofFields (fields : List (String × Value)) : Value :=
  .object (SortedMap.ofList fields).toList

mutual
def same : Value → Value → Bool
  | .null, .null => true
  | .bool left, .bool right => left == right
  | .number left, .number right => left == right
  | .string left, .string right => left == right
  | .array left, .array right => sameItems left right
  | .object left, .object right => sameFields left right
  | _, _ => false

/-- Whether two lists hold the same values. -/
def sameItems : List Value → List Value → Bool
  | [], [] => true
  | left :: lefts, right :: rights => same left right && sameItems lefts rights
  | _, _ => false

/-- Whether two lists hold the same fields. -/
def sameFields : List (String × Value) → List (String × Value) → Bool
  | [], [] => true
  | (leftKey, left) :: lefts, (rightKey, right) :: rights =>
    leftKey == rightKey && same left right && sameFields lefts rights
  | _, _ => false
end

mutual
theorem same_iff : (left right : Value) → (same left right = true ↔ left = right)
  | .null, right => by cases right <;> simp [same]
  | .bool _, right => by cases right <;> simp [same]
  | .number _, right => by cases right <;> simp [same]
  | .string _, right => by cases right <;> simp [same]
  | .array items, right => by cases right <;> simp [same, sameItems_iff items]
  | .object fields, right => by cases right <;> simp [same, sameFields_iff fields]

theorem sameItems_iff : (left right : List Value) → (sameItems left right = true ↔ left = right)
  | [], right => by cases right <;> simp [sameItems]
  | left :: lefts, right => by
      cases right <;> simp [sameItems, same_iff left, sameItems_iff lefts]

theorem sameFields_iff :
    (left right : List (String × Value)) → (sameFields left right = true ↔ left = right)
  | [], right => by cases right <;> simp [sameFields]
  | (key, left) :: lefts, right => by
      cases right with
      | nil => simp [sameFields]
      | cons first rest =>
          obtain ⟨otherKey, other⟩ := first
          simp [sameFields, same_iff left, sameFields_iff lefts, and_assoc]
end

instance : DecidableEq Value := fun left right =>
  decidable_of_iff (same left right = true) (same_iff left right)

mutual
/-- The syntax tree that spells the value. -/
def toTree : Value → Json.Tree
  | .null => .null
  | .bool value => .bool value
  | .number value => .number value.text
  | .string value => .string (Json.Quoted.encode value.toList)
  | .array items => .array (toTrees items)
  | .object fields => .object (fieldTrees fields)

def toTrees : List Value → List Json.Tree
  | [] => []
  | item :: items => toTree item :: toTrees items

def fieldTrees : List (String × Value) → List (List Char × Json.Tree)
  | [] => []
  | (key, value) :: fields =>
    (Json.Quoted.encode key.toList, toTree value) :: fieldTrees fields
end

def compactText (value : Value) : String := String.ofList value.toTree.compact

def indentedText (value : Value) : String := String.ofList (value.toTree.indented 0)

end Value

namespace Json.Tree

/-- How many containers may stand around each other in a value that is kept. -/
def depthLimit : Nat := 127

mutual
/--
The value that a tree spells, when it holds no number out of range and no broken
string, and at most `room` of its containers stand around each other.
-/
def toValue? (room : Nat) : Tree → Option Value
  | .null => some .null
  | .bool value => some (.bool value)
  | .number spelling => (Number.ofChars? spelling).map .number
  | .string spelling => (Quoted.decode? spelling).map .string
  | .array items => if room = 0 then none else (toValues? (room - 1) items).map .array
  | .object fields => if room = 0 then none else (toFields? (room - 1) fields).map Value.ofFields

def toValues? (room : Nat) : List Tree → Option (List Value)
  | [] => some []
  | item :: items => do
    let value ← toValue? room item
    let values ← toValues? room items
    some (value :: values)

/-- The values of the fields under their keys. -/
def toFields? (room : Nat) : List (List Char × Tree) → Option (List (String × Value))
  | [] => some []
  | (spelling, tree) :: fields => do
    let key ← Quoted.decode? spelling
    let value ← toValue? room tree
    let rest ← toFields? room fields
    some ((key, value) :: rest)
end

end Json.Tree

end SchemaOverlay
