import SchemaOverlay.Proofs.Levels

/-!
# Parents and ancestors

An object has a parent, the parent may have one too, and so on until the data
source is reached, which has none.  The ancestors of an object are found without
going that way, by cutting its path.  They are the same objects in the same
order, without the data source at the end.
-/

namespace SchemaOverlay.ObjectId

variable {id outer : ObjectId}

/-! ## From parent to parent -/

/-- A parent's path is one segment shorter. -/
theorem length_of_parent? (found : id.parent? = some outer) :
    id.path.length = outer.path.length + 1 := by
  rw [eq_child_of_parent? found, child, List.length_append, List.length_singleton]

/-- The parent of an object, the parent of that one, and so on up to the data source. -/
def parents (id : ObjectId) : List ObjectId :=
  match _ : id.parent? with
  | none => []
  | some outer => outer :: outer.parents
termination_by id.path.length
decreasing_by
  have shorter := length_of_parent? ‹id.parent? = some outer›
  omega

theorem parents_of_isRoot (top : id.isRoot = true) : id.parents = [] := by
  rw [parents, parent?_eq_none_iff.mpr top]

theorem parents_of_parent? (found : id.parent? = some outer) :
    id.parents = outer :: outer.parents := by
  rw [parents, found]

/-- The ancestors are the parents without the data source. -/
theorem ancestors_eq_filter_parents (id : ObjectId) :
    id.ancestors = id.parents.filter fun outer => !outer.isRoot := by
  induction id using parents.induct with
  | case1 id top =>
      have top := parent?_eq_none_iff.mp top
      rw [ancestors_of_isRoot top, parents_of_isRoot top]
      rfl
  | case2 id outer found ih =>
      rw [ancestors_of_parent? found, parents_of_parent? found, List.filter_cons, ← ih]
      cases top : outer.isRoot with
      | true =>
          rw [ancestors_of_isRoot top]
          rfl
      | false => rfl

/-! ## Around one object -/

/-- No container stands twice around an object. -/
theorem nodup_ancestors (id : ObjectId) : id.ancestors.Nodup := by
  refine id.ancestors_descending.imp fun {inner outer} shorter same => ?_
  rw [same] at shorter
  exact Nat.lt_irrefl _ shorter

/-- The ancestors of an object are its parent, the parent's parent and so on, from the innermost
outwards, without the data source.  They are exactly the objects of the same data source whose
paths are not empty, shorter than the object's and in front of it; there is one for each segment of
the path but the last, and none of them twice.  An object is the parent of each of its children,
and is put in front of its own ancestors to make theirs, unless it is the data source. -/
theorem ancestors_are_parents (id : ObjectId) :
    (id.ancestors = id.parents.filter fun outer => !outer.isRoot) ∧
      (∀ outer, outer ∈ id.ancestors ↔
        outer.dataSource = id.dataSource ∧ outer.path ≠ [] ∧ outer.path <+: id.path ∧
          outer.path.length < id.path.length) ∧
      id.ancestors.length = id.path.length - 1 ∧ id.ancestors.Nodup ∧
      ∀ name, (id.child name).parent? = some id ∧
        (id.child name).ancestors = if id.isRoot then [] else id :: id.ancestors := by
  refine ⟨id.ancestors_eq_filter_parents, fun outer => ?_, id.length_ancestors, id.nodup_ancestors,
    fun name => ⟨id.parent?_child name, id.ancestors_child name⟩⟩
  exact mem_ancestors_iff.trans encloses_iff

example : (ObjectId.mk "main" ["sales", "public", "orders"]).ancestors =
    [⟨"main", ["sales", "public"]⟩, ⟨"main", ["sales"]⟩] := by decide

end SchemaOverlay.ObjectId
