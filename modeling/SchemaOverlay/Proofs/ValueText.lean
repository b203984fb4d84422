import SchemaOverlay.Proofs.Layout

/-!
# Values that are read back

A value without floating-point numbers is read back from the tree that spells
it, as long as no more of its containers stand around each other than there is
room for.  With less room it is not read at all.
-/

namespace SchemaOverlay

open Json (Tree)

namespace Value

/-- A value without floating-point numbers, as values are kept: integers fit a word, and the
fields of an object ascend by key. -/
inductive IsFloatFree : Value → Prop where
  | null : IsFloatFree .null
  | bool (value : Bool) : IsFloatFree (.bool value)
  | integer {value : Int} : Number.fitsWord value = true → IsFloatFree (.number (.integer value))
  | string (value : String) : IsFloatFree (.string value)
  | array {items : List Value} : (∀ item ∈ items, IsFloatFree item) → IsFloatFree (.array items)
  | object {fields : SortedMap String Value} : (∀ field ∈ fields.toList, IsFloatFree field.2) →
      IsFloatFree (.object fields.toList)

mutual
/-- How many arrays and objects stand around each other in a value at most. -/
def depth : Value → Nat
  | .array items => itemsDepth items + 1
  | .object fields => fieldsDepth fields + 1
  | .null | .bool _ | .number _ | .string _ => 0

def itemsDepth : List Value → Nat
  | [] => 0
  | item :: items => max (depth item) (itemsDepth items)

def fieldsDepth : List (String × Value) → Nat
  | [] => 0
  | (_, value) :: fields => max (depth value) (fieldsDepth fields)
end

theorem fieldsDepth_le_iff {fields : List (String × Value)} {room : Nat} :
    fieldsDepth fields ≤ room ↔ ∀ field ∈ fields, field.2.depth ≤ room := by
  induction fields with
  | nil => simp [fieldsDepth]
  | cons field fields ih => rw [fieldsDepth, Nat.max_le, ih, List.forall_mem_cons]

theorem toTrees_eq_map (items : List Value) : toTrees items = items.map toTree := by
  induction items with
  | nil => rfl
  | cons item items ih => rw [toTrees, ih, List.map_cons]

theorem fieldTrees_eq_map (fields : List (String × Value)) :
    fieldTrees fields =
      fields.map fun field => (Json.Quoted.encode field.1.toList, field.2.toTree) := by
  induction fields with
  | nil => rfl
  | cons field fields ih => rw [fieldTrees, ih, List.map_cons]

/-- What is written for a value can be spelled by a text. -/
theorem IsFloatFree.legible_toTree {value : Value} (floatFree : value.IsFloatFree) :
    value.toTree.Legible := by
  induction floatFree with
  | null => exact .null
  | bool value => exact .bool value
  | integer fits => exact Tree.legible_integerText _
  | string value => exact .string (Json.Quoted.legible_encode value.toList)
  | array items ih =>
    rw [toTree, toTrees_eq_map]
    exact .array (List.forall_mem_map.mpr ih)
  | @object fields kept ih =>
    rw [toTree, fieldTrees_eq_map]
    refine .object ?_ (List.forall_mem_map.mpr ih)
    exact List.forall_mem_map.mpr fun field _ => Json.Quoted.legible_encode field.1.toList

end Value

namespace Json.Tree

variable {room : Nat}

/-- Items are read back when each of them is, and not at all when one of them has no room. -/
theorem toValues?_toTrees {items : List Value}
    (read : ∀ item ∈ items,
      toValue? room item.toTree = if item.depth ≤ room then some item else none) :
    toValues? room (Value.toTrees items) =
      if Value.itemsDepth items ≤ room then some items else none := by
  induction items with
  | nil => simp [Value.toTrees, toValues?, Value.itemsDepth]
  | cons item items ih =>
    have first := read item List.mem_cons_self
    have later := ih fun other member => read other (List.mem_cons_of_mem item member)
    simp only [Value.itemsDepth, Nat.max_le]
    by_cases here : item.depth ≤ room <;> by_cases there : Value.itemsDepth items ≤ room <;>
      simp [Value.toTrees, toValues?, first, later, here, there]

/-- The same for fields, whose keys are always read back. -/
theorem toFields?_fieldTrees {fields : List (String × Value)}
    (read : ∀ field ∈ fields,
      toValue? room field.2.toTree = if field.2.depth ≤ room then some field.2 else none) :
    toFields? room (Value.fieldTrees fields) =
      if Value.fieldsDepth fields ≤ room then some fields else none := by
  induction fields with
  | nil => simp [Value.fieldTrees, toFields?, Value.fieldsDepth]
  | cons field fields ih =>
    have first := read field List.mem_cons_self
    have later := ih fun other member => read other (List.mem_cons_of_mem field member)
    simp only [Value.fieldsDepth, Nat.max_le]
    by_cases here : field.2.depth ≤ room <;> by_cases there : Value.fieldsDepth fields ≤ room <;>
      simp [Value.fieldTrees, toFields?, first, later, here, there]

/-- A value is read back from its tree exactly when there is room for its containers. -/
theorem toValue?_toTree {value : Value} (floatFree : value.IsFloatFree) (room : Nat) :
    toValue? room value.toTree = if value.depth ≤ room then some value else none := by
  induction floatFree generalizing room with
  | null => simp [Value.toTree, toValue?, Value.depth]
  | bool value => simp [Value.toTree, toValue?, Value.depth]
  | integer fits =>
    simp [Value.toTree, toValue?, Value.depth, Number.text,
      Number.ofChars?_integerText_of_fits fits]
  | string value => simp [Value.toTree, toValue?, Value.depth]
  | @array items kept ih =>
    rw [Value.toTree, toValue?, Value.depth]
    cases room with
    | zero => simp
    | succ room =>
      rw [if_neg (Nat.succ_ne_zero room), Nat.add_sub_cancel,
        toValues?_toTrees fun item member => ih item member room]
      by_cases fits : Value.itemsDepth items ≤ room <;> simp [fits]
  | @object fields kept ih =>
    rw [Value.toTree, toValue?, Value.depth]
    cases room with
    | zero => simp
    | succ room =>
      rw [if_neg (Nat.succ_ne_zero room), Nat.add_sub_cancel,
        toFields?_fieldTrees fun field member => ih field member room]
      by_cases fits : Value.fieldsDepth fields.toList ≤ room <;>
        simp [fits, Value.ofFields, SortedMap.ofList_toList]

end Json.Tree

end SchemaOverlay
