/-!
# Identities of schema objects

An object of a data source is identified by the path that leads to it from the
outermost container; the empty path denotes the data source itself.  Identities
are ordered by data source, then by path, segment by segment.
-/

namespace SchemaOverlay

/-- The identity of a schema object. -/
structure ObjectId where
  dataSource : String
  /-- From the outermost container down to the object itself. -/
  path : List String
  deriving DecidableEq, Repr, Inhabited

namespace ObjectId

/-- The identity of the data source itself. -/
def root (dataSource : String) : ObjectId := ⟨dataSource, []⟩

/-- The object's own name, which is the last segment; empty for the root. -/
def name (id : ObjectId) : String := id.path.getLastD ""

/-- Whether the data source itself is meant. -/
def isRoot (id : ObjectId) : Bool := id.path.isEmpty

/-- The enclosing object; the root has none. -/
def parent? (id : ObjectId) : Option ObjectId :=
  if id.isRoot then none else some ⟨id.dataSource, id.path.dropLast⟩

/-- The object of the given name inside this one. -/
def child (id : ObjectId) (name : String) : ObjectId :=
  ⟨id.dataSource, id.path ++ [name]⟩

/-- The identity cut to the first segments of its path. -/
def truncate (id : ObjectId) (length : Nat) : ObjectId :=
  ⟨id.dataSource, id.path.take length⟩

/-- The enclosing containers, innermost first, without the root. -/
def ancestors (id : ObjectId) : List ObjectId :=
  (List.range' 1 (id.path.length - 1)).reverse.map id.truncate

/-- The identity as it is shown in messages. -/
def display (id : ObjectId) : String :=
  id.dataSource ++ "::" ++ ".".intercalate id.path

/-- The data source and the path in one list. -/
def segments (id : ObjectId) : List String := id.dataSource :: id.path

theorem segments_injective {left right : ObjectId} (same : left.segments = right.segments) :
    left = right := by
  cases left; cases right
  simpa [segments] using same

instance : Ord ObjectId := ⟨fun left right => compare left.segments right.segments⟩

theorem compare_eq (left right : ObjectId) :
    compare left right = compare left.segments right.segments := rfl

instance : Std.TransOrd ObjectId where
  eq_swap {left right} := by
    rw [compare_eq, compare_eq]
    exact Std.OrientedCmp.eq_swap
  isLE_trans {first second third} lower upper := by
    rw [compare_eq] at lower upper ⊢
    exact Std.TransCmp.isLE_trans lower upper

instance : Std.LawfulEqOrd ObjectId where
  eq_of_compare {left right} same := by
    rw [compare_eq] at same
    exact segments_injective (Std.LawfulEqCmp.eq_of_compare same)
  compare_self {id} := by
    rw [compare_eq]
    exact Std.ReflCmp.compare_self

/-- Drop every element that equals the one before it. -/
def dropRepeats : List ObjectId → List ObjectId
  | [] => []
  | [id] => [id]
  | first :: second :: rest =>
    if first = second then dropRepeats (second :: rest)
    else first :: dropRepeats (second :: rest)

/-- The identities in ascending order, each of them once. -/
def sorted (ids : List ObjectId) : List ObjectId :=
  dropRepeats (ids.mergeSort fun left right => (compare left right).isLE)

@[simp] theorem child_name (id : ObjectId) (name : String) : (id.child name).name = name := by
  simp [child, ObjectId.name]

/-- An object is the parent of each of its children. -/
theorem parent?_child (id : ObjectId) (name : String) : (id.child name).parent? = some id := by
  simp [parent?, child, isRoot]

theorem parent?_eq_none_iff {id : ObjectId} : id.parent? = none ↔ id.isRoot = true := by
  simp [parent?]

/-- Every object is the data source or a child of another. -/
theorem eq_root_or_child (id : ObjectId) :
    id = root id.dataSource ∨ ∃ (outer : ObjectId) (name : String), id = outer.child name := by
  obtain ⟨dataSource, path⟩ := id
  obtain rfl | ⟨front, last, rfl⟩ := path.eq_nil_or_concat
  · exact .inl rfl
  · exact .inr ⟨⟨dataSource, front⟩, last, by simp [child]⟩

/-- An object is its parent's child of its own name. -/
theorem eq_child_of_parent? {id outer : ObjectId} (found : id.parent? = some outer) :
    id = outer.child id.name := by
  obtain top | ⟨parent, name, rfl⟩ := id.eq_root_or_child
  · rw [top] at found
    cases found
  · rw [parent?_child, Option.some.injEq] at found
    rw [child_name, found]

theorem truncate_length (id : ObjectId) : id.truncate id.path.length = id := by
  rw [truncate, List.take_length]

theorem truncate_child {id : ObjectId} {length : Nat} (name : String)
    (short : length ≤ id.path.length) : (id.child name).truncate length = id.truncate length := by
  rw [truncate, truncate, child, List.take_append_of_le_length short]

/-- A path of `n` segments has `n - 1` enclosing containers below the root. -/
theorem length_ancestors (id : ObjectId) : id.ancestors.length = id.path.length - 1 := by
  simp [ancestors]

theorem ancestors_of_isRoot {id : ObjectId} (top : id.isRoot = true) : id.ancestors = [] := by
  have empty : id.path.length = 0 := by simpa [isRoot] using top
  rw [ancestors, empty]
  rfl

/-- Around a child stand its parent and what is around that, unless the parent is the root. -/
theorem ancestors_child (id : ObjectId) (name : String) :
    (id.child name).ancestors = if id.isRoot then [] else id :: id.ancestors := by
  have inside : (id.child name).path.length - 1 = id.path.length := by simp [child]
  have cut : (id.child name).ancestors =
      (List.range' 1 id.path.length).reverse.map id.truncate := by
    rw [ancestors, inside]
    refine List.map_congr_left fun length mem => truncate_child name ?_
    rw [List.mem_reverse, List.mem_range'_1] at mem
    omega
  rw [cut, ancestors]
  cases size : id.path.length with
  | zero =>
      have top : id.isRoot = true := by simpa [isRoot] using size
      rw [if_pos top]
      rfl
  | succ count =>
      have below : id.isRoot = false := by
        rw [isRoot, List.isEmpty_eq_false_iff, ← List.length_pos_iff]
        omega
      have whole : id.truncate (1 + count) = id := by
        rw [Nat.add_comm, ← size, truncate_length]
      rw [below, if_neg Bool.false_ne_true, List.range'_1_concat, List.reverse_append,
        List.reverse_singleton, List.singleton_append, List.map_cons, whole, Nat.add_sub_cancel]

theorem ancestors_of_parent? {id outer : ObjectId} (found : id.parent? = some outer) :
    id.ancestors = if outer.isRoot then [] else outer :: outer.ancestors :=
  (congrArg ancestors (eq_child_of_parent? found)).trans (ancestors_child outer id.name)

end ObjectId

end SchemaOverlay
