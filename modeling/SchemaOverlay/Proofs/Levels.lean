import SchemaOverlay.Proofs.Steps

/-!
# Levels of inheritance

The levels that a column inherits from, listed without a walk: the column, its
entity, the scopes of the containers around the entity from the innermost
outwards, the model.  A level is missing where its object does not live or does
not exist, and a missing level hides none of the others.  The walk outwards
visits exactly these levels in every sound store, where the scopes that a model
files lead back to that model, so a column's settings are those of the first
level that owns some.
-/

namespace SchemaOverlay

/-! ## Containers around an identity -/

namespace ObjectId

/-- Whether one object is a container strictly around another. -/
def Encloses (outer inner : ObjectId) : Prop :=
  outer.dataSource = inner.dataSource ∧ outer.path ≠ [] ∧ outer.path <+: inner.path ∧
    outer.path ≠ inner.path

instance (outer inner : ObjectId) : Decidable (outer.Encloses inner) :=
  inferInstanceAs (Decidable (_ ∧ _ ∧ _ ∧ _))

/-- To enclose an object is to have a shorter path, not empty, that its path begins with. -/
theorem encloses_iff {outer inner : ObjectId} : outer.Encloses inner ↔
    outer.dataSource = inner.dataSource ∧ outer.path ≠ [] ∧ outer.path <+: inner.path ∧
      outer.path.length < inner.path.length := by
  refine and_congr_right fun _ => and_congr_right fun _ => and_congr_right fun front => ?_
  constructor
  · exact fun apart => Nat.lt_of_le_of_ne front.length_le (mt front.eq_of_length apart)
  · exact fun shorter same => Nat.ne_of_lt shorter (congrArg List.length same)

/-- A container around an object is the object's identity cut short. -/
theorem Encloses.eq_truncate {outer inner : ObjectId} (around : outer.Encloses inner) :
    outer = inner.truncate outer.path.length := by
  obtain ⟨same, -, front, -⟩ := around
  rw [truncate, ← List.prefix_iff_eq_take.mp front, ← same]

/-- The ancestors are the containers around an identity. -/
theorem mem_ancestors_iff {outer id : ObjectId} : outer ∈ id.ancestors ↔ outer.Encloses id := by
  simp only [ancestors, List.mem_map, List.mem_reverse, List.mem_range'_1]
  constructor
  · rintro ⟨length, ⟨lower, upper⟩, rfl⟩
    have short : (id.truncate length).path.length = length := by
      rw [truncate, List.length_take]
      omega
    refine encloses_iff.mpr ⟨rfl, ?_, List.take_prefix _ _, ?_⟩
    · rw [← List.length_pos_iff, short]
      exact lower
    · rw [short]
      omega
  · intro around
    obtain ⟨-, proper, -, shorter⟩ := encloses_iff.mp around
    have lower := List.length_pos_iff.mpr proper
    exact ⟨outer.path.length, by omega, around.eq_truncate.symm⟩

/-- Around the innermost container stand the remaining ones. -/
theorem ancestors_of_cons {id outer : ObjectId} {rest : List ObjectId}
    (split : id.ancestors = outer :: rest) : outer.ancestors = rest := by
  cases up : id.parent? with
  | none =>
      rw [ancestors_of_isRoot (parent?_eq_none_iff.mp up)] at split
      cases split
  | some parent =>
      rw [ancestors_of_parent? up] at split
      split at split
      · cases split
      · obtain ⟨rfl, rfl⟩ := List.cons.inj split
        rfl

/-- The ancestors come from the innermost outwards. -/
theorem ancestors_descending (id : ObjectId) :
    id.ancestors.Pairwise fun inner outer => outer.path.length < inner.path.length := by
  rw [ancestors, List.pairwise_map, List.pairwise_reverse]
  refine List.Pairwise.imp_of_mem ?_ List.pairwise_lt_range'
  intro shorter longer _ mem less
  rw [List.mem_range'_1] at mem
  simp only [truncate, List.length_take]
  omega

end ObjectId

/-! ## Scopes around an identity -/

namespace Store

variable {store : Store}

/-- The scopes of a model, ordered by identity. -/
def scopes (store : Store) (model : Model) : List ScopeOverlay :=
  (store.modelState model).scopes.entries.values

/-- Whether the first scope's path is no shorter than the second's. -/
def longerFirst (inner outer : ScopeOverlay) : Bool := outer.id.path.length ≤ inner.id.path.length

theorem longerFirst_trans (inner middle outer : ScopeOverlay)
    (front : longerFirst inner middle = true) (back : longerFirst middle outer = true) :
    longerFirst inner outer = true := by
  simp only [longerFirst, decide_eq_true_eq] at front back ⊢
  omega

theorem longerFirst_total (inner outer : ScopeOverlay) :
    (longerFirst inner outer || longerFirst outer inner) = true := by
  simp only [longerFirst, Bool.or_eq_true, decide_eq_true_eq]
  exact Nat.le_total _ _

/-- The scopes of a model around an identity, from the innermost outwards. -/
def enclosing (store : Store) (model : Model) (id : ObjectId) : List ScopeOverlay :=
  ((store.scopes model).filter fun scope => scope.id.Encloses id).mergeSort longerFirst

theorem mem_scopes_iff {model : Model} {scope : ScopeOverlay} :
    scope ∈ store.scopes model ↔ store.scope? model scope.id = some scope := by
  rw [scopes, SortedMap.mem_values_iff]
  constructor
  · rintro ⟨id, filed⟩
    obtain rfl := (store.modelState model).scopes.own id scope filed
    exact filed
  · exact fun found => ⟨scope.id, found⟩

theorem scopes_nodup (store : Store) (model : Model) : (store.scopes model).Nodup := by
  refine SortedMap.values_nodup fun left right scope here there => ?_
  have own := (store.modelState model).scopes.own
  rw [← own left scope here, own right scope there]

theorem mem_enclosing_iff {model : Model} {id : ObjectId} {scope : ScopeOverlay} :
    scope ∈ store.enclosing model id ↔
      store.scope? model scope.id = some scope ∧ scope.id.Encloses id := by
  rw [enclosing, List.mem_mergeSort, List.mem_filter, mem_scopes_iff, decide_eq_true_iff]

theorem enclosing_nodup (store : Store) (model : Model) (id : ObjectId) :
    (store.enclosing model id).Nodup :=
  (List.mergeSort_perm _ _).nodup_iff.mpr ((scopes_nodup store model).filter _)

theorem enclosing_descending (store : Store) (model : Model) (id : ObjectId) :
    (store.enclosing model id).Pairwise fun inner outer =>
      outer.id.path.length ≤ inner.id.path.length := by
  have sorted := List.pairwise_mergeSort longerFirst_trans longerFirst_total
    ((store.scopes model).filter fun scope => scope.id.Encloses id)
  exact sorted.imp fun later => of_decide_eq_true later

/-- The scopes around an identity are those that exist for its ancestors. -/
theorem enclosing_eq (store : Store) (model : Model) (id : ObjectId) :
    store.enclosing model id = id.ancestors.filterMap (store.scope? model) := by
  have sorted : (id.ancestors.filterMap (store.scope? model)).Pairwise
      fun inner outer => outer.id.path.length < inner.id.path.length := by
    refine List.pairwise_filterMap.mpr (id.ancestors_descending.imp ?_)
    intro inner outer less first found second also
    rwa [scope?_id found, scope?_id also]
  have members : ∀ scope, scope ∈ store.enclosing model id ↔
      scope ∈ id.ancestors.filterMap (store.scope? model) := by
    intro scope
    rw [mem_enclosing_iff, List.mem_filterMap]
    constructor
    · rintro ⟨found, around⟩
      exact ⟨scope.id, ObjectId.mem_ancestors_iff.mpr around, found⟩
    · rintro ⟨outer, mem, found⟩
      rw [scope?_id found]
      exact ⟨found, ObjectId.mem_ancestors_iff.mp mem⟩
  have distinct : (id.ancestors.filterMap (store.scope? model)).Nodup := by
    refine sorted.imp fun less same => ?_
    rw [same] at less
    exact Nat.lt_irrefl _ less
  have perm : (store.enclosing model id).Perm (id.ancestors.filterMap (store.scope? model)) :=
    (List.perm_ext_iff_of_nodup (enclosing_nodup store model id) distinct).mpr members
  have unique : ∀ first second, first ∈ store.enclosing model id →
      second ∈ id.ancestors.filterMap (store.scope? model) →
      second.id.path.length ≤ first.id.path.length →
      first.id.path.length ≤ second.id.path.length → first = second := by
    intro first second mem also below above
    obtain ⟨found, around⟩ := mem_enclosing_iff.mp mem
    obtain ⟨here, outside⟩ := mem_enclosing_iff.mp (perm.mem_iff.mpr also)
    have same : first.id = second.id := by
      rw [around.eq_truncate, outside.eq_truncate, Nat.le_antisymm above below]
    rw [same, here] at found
    exact (Option.some.inj found).symm
  exact perm.eq_of_pairwise unique (enclosing_descending store model id)
    (sorted.imp Nat.le_of_lt)

/-! ## Levels -/

/-- What is around an identity in a model: its scopes, and last the model itself. -/
def outwards (store : Store) (model : Model) (id : ObjectId) : List OverlayObject :=
  (store.enclosing model id).map OverlayObject.scope ++ [.model model]

/-- The levels around an entity, from the innermost outwards. -/
def levelsAround (store : Store) (entity : EntityOverlay) : List OverlayObject :=
  if store.modelLives entity.model then
    match entity.id? with
    | some id => store.outwards entity.model id
    | none => [.model entity.model]
  else []

/-- The levels that a column inherits from, itself first. -/
def levels (store : Store) (column : ColumnOverlay) : List OverlayObject :=
  .column column ::
    if store.entityLives column.entity then
      .entity column.entity :: store.levelsAround column.entity
    else []

/-- The objects that a column's levels can be. -/
theorem mem_levels_iff {object : OverlayObject} {column : ColumnOverlay} :
    object ∈ store.levels column ↔
      object = .column column ∨ store.entityLives column.entity = true ∧
        (object = .entity column.entity ∨ store.modelLives column.entity.model = true ∧
          (object = .model column.entity.model ∨
            ∃ id scope, column.entity.id? = some id ∧ object = .scope scope ∧
              scope ∈ store.enclosing column.entity.model id)) := by
  rw [levels, List.mem_cons]
  refine or_congr_right ?_
  by_cases alive : store.entityLives column.entity = true
  · rw [if_pos alive, List.mem_cons]
    simp only [alive, true_and]
    refine or_congr_right ?_
    rw [levelsAround]
    by_cases lives : store.modelLives column.entity.model = true
    · rw [if_pos lives]
      simp only [lives, true_and]
      cases column.entity.id? with
      | some id =>
          simp only [outwards, List.mem_append, List.mem_map, List.mem_singleton]
          constructor
          · rintro (⟨scope, mem, rfl⟩ | rfl)
            · exact .inr ⟨id, scope, rfl, rfl, mem⟩
            · exact .inl rfl
          · rintro (rfl | ⟨other, scope, same, rfl, mem⟩)
            · exact .inr rfl
            · cases same
              exact .inl ⟨scope, mem, rfl⟩
      | none => simp
    · simp [lives]
  · simp [alive]

theorem levels_congr {after : Store} {column : ColumnOverlay}
    (alive : after.entityLives column.entity = store.entityLives column.entity)
    (lives : after.modelLives column.entity.model = store.modelLives column.entity.model)
    (scopes : after.scopes column.entity.model = store.scopes column.entity.model) :
    after.levels column = store.levels column := by
  simp only [levels, levelsAround, outwards, enclosing, alive, lives, scopes]

end Store

/-! ## The walk outwards -/

namespace OverlayObject

variable {store : Store}

/-- One step of the walk: the object's own settings, or else those of what is around it. -/
theorem effectiveSettings?_step (object : OverlayObject) :
    object.effectiveSettings? store =
      (store.ownSettings? object).or
        ((object.parent? store).bind fun outer => outer.effectiveSettings? store) := by
  rw [effectiveSettings?]
  cases store.ownSettings? object with
  | some id => rfl
  | none =>
      simp only [Option.none_or]
      split
      · rename_i last
        rw [last]
        rfl
      · rename_i outer next
        rw [next]
        rfl

/-- The walk depends on what objects own and on the way outwards alone. -/
theorem effectiveSettings?_congr {after : Store} (own : after.ownSettings? = store.ownSettings?)
    (outer : ∀ object : OverlayObject, object.parent? after = object.parent? store)
    (object : OverlayObject) :
    object.effectiveSettings? after = object.effectiveSettings? store := by
  induction object using effectiveSettings?.induct store with
  | case1 object id owned =>
      rw [effectiveSettings?_step, effectiveSettings?_step object, own, owned]
      rfl
  | case2 object bare last =>
      rw [effectiveSettings?_step, effectiveSettings?_step object, own, outer, last]
      rfl
  | case3 object bare next found _ ih =>
      rw [effectiveSettings?_step, effectiveSettings?_step object, own, outer, found,
        Option.bind_some, Option.bind_some, ih]

theorem effectiveSettings?_model (model : Model) :
    (OverlayObject.model model).effectiveSettings? store = store.ownSettings? (.model model) := by
  rw [effectiveSettings?_step]
  simp [parent?]

/-- From an identity the walk visits the scopes around it in turn, and then the model. -/
theorem effectiveSettings?_nearestScope (sound : store.Sound) {model : Model}
    (lives : store.modelLives model = true) (id : ObjectId) :
    (store.nearestScope model id).effectiveSettings? store =
      (store.outwards model id).findSome? store.ownSettings? := by
  rw [Store.outwards, Store.enclosing_eq]
  -- The containers around the innermost one are the tail of the list.
  induction split : id.ancestors generalizing id with
  | nil => simp [Store.nearestScope, split, effectiveSettings?_model]
  | cons outer rest ih =>
      have tail := ObjectId.ancestors_of_cons split
      have later := ih outer tail
      cases found : store.scope? model outer with
      | none =>
          have same : store.nearestScope model id = store.nearestScope model outer := by
            simp only [Store.nearestScope, split, tail, List.findSome?_cons, found]
          rw [same, later]
          simp only [List.filterMap_cons, found]
      | some scope =>
          obtain ⟨ledger, sound⟩ := sound
          obtain ⟨rfl, rfl, -, -⟩ := sound.scope_standsFor lives found
          have here : store.nearestScope scope.model id = .scope scope := by
            simp only [Store.nearestScope, split, List.findSome?_cons, found]
          have next : (OverlayObject.scope scope).parent? store =
              some (store.nearestScope scope.model scope.id) := by
            simp only [parent?, lives, if_true]
          rw [here, effectiveSettings?_step, next, Option.bind_some, later]
          simp only [List.filterMap_cons, found, List.map_cons, List.cons_append,
            List.findSome?_cons]
          cases store.ownSettings? (.scope scope) <;> rfl

/-- From an entity the walk visits the entity and then the levels around it. -/
theorem effectiveSettings?_entity (sound : store.Sound) (entity : EntityOverlay) :
    (OverlayObject.entity entity).effectiveSettings? store =
      (.entity entity :: store.levelsAround entity).findSome? store.ownSettings? := by
  rw [effectiveSettings?_step, List.findSome?_cons, Store.levelsAround, parent?]
  by_cases lives : store.modelLives entity.model = true
  · rw [if_pos lives, if_pos lives]
    cases entity.id? with
    | some id =>
        rw [Option.bind_some, effectiveSettings?_nearestScope sound lives]
        cases store.ownSettings? (.entity entity) <;> rfl
    | none =>
        rw [Option.bind_some, effectiveSettings?_model]
        cases store.ownSettings? (.entity entity) <;> simp
  · rw [if_neg lives, if_neg lives]
    cases store.ownSettings? (.entity entity) <;> rfl

/-- From a column the walk visits the column's levels. -/
theorem effectiveSettings?_column (sound : store.Sound) (column : ColumnOverlay) :
    (OverlayObject.column column).effectiveSettings? store =
      (store.levels column).findSome? store.ownSettings? := by
  rw [effectiveSettings?_step, Store.levels, List.findSome?_cons, parent?]
  by_cases lives : store.entityLives column.entity = true
  · rw [if_pos lives, if_pos lives, Option.bind_some, effectiveSettings?_entity sound]
    cases store.ownSettings? (.column column) <;> rfl
  · rw [if_neg lives, if_neg lives]
    cases store.ownSettings? (.column column) <;> rfl

end OverlayObject

/-- In every reachable store, the settings of a column are those of its first level that owns some,
and there are none exactly where no level owns any; looking them up changes nothing. -/
theorem ColumnOverlay.resolveSettings_nearest {store : Store} (reachable : store.Reachable)
    (column : ColumnOverlay) :
    column.resolveSettings false store =
        ⟨(store.levels column).findSome? store.ownSettings?, store, []⟩ ∧
      ((column.resolveSettings false store).value = none ↔
        ∀ object ∈ store.levels column, store.ownSettings? object = none) := by
  have found : column.resolveSettings false store =
      ⟨(store.levels column).findSome? store.ownSettings?, store, []⟩ := by
    rw [← OverlayObject.effectiveSettings?_column reachable.sound]
    rfl
  refine ⟨found, ?_⟩
  rw [found, List.findSome?_eq_none_iff]

/-! ## Goods in a hall -/

namespace Granary

def model : Model := ⟨0, "granary"⟩

def goods : EntityOverlay := .ofEntity 1 ⟨"granary", ["west", "hall", "shelf", "goods"]⟩ model

def weight : ColumnOverlay := ⟨2, "weight", none, goods⟩

def west : ScopeOverlay := ⟨3, ⟨"granary", ["west"]⟩, model⟩

def hall : ScopeOverlay := ⟨4, ⟨"granary", ["west", "hall"]⟩, model⟩

/-- The shelf has no overlay, the hall no settings, and both the wing and the granary own some. -/
def setup : List Operation :=
  [.createModel "granary" (.unreachable "offline"),
    .entityById model ⟨"granary", ["west", "hall", "shelf", "goods"]⟩ true,
    .findColumn goods "weight" true, .findScope model west.id true, .findScope model hall.id true,
    .ownSettings (.scope west), .ownSettings (.model model)]

def store : Store := setup.foldl (fun store operation => operation.perform store) .empty

/-- The weight of goods gets the settings of the wing, past the entity and the hall, and not those
of the granary. -/
theorem resolveSettings_nearest_weight :
    store.Reachable ∧
      store.levels weight =
        [.column weight, .entity goods, .scope hall, .scope west, .model model] ∧
      store.ownSettings? (.scope west) = some ⟨5⟩ ∧ store.ownSettings? (.model model) = some ⟨6⟩ ∧
      weight.resolveSettings false store = ⟨some ⟨5⟩, store, []⟩ := by
  have reachable : store.Reachable := ⟨setup, Run.of_permits (by decide)⟩
  have levels : store.levels weight =
      [.column weight, .entity goods, .scope hall, .scope west, .model model] := by
    simp only [Store.levels, Store.levelsAround, Store.outwards, Store.enclosing_eq]
    decide
  obtain ⟨found, -⟩ := ColumnOverlay.resolveSettings_nearest reachable weight
  refine ⟨reachable, levels, by decide, by decide, ?_⟩
  rw [found, levels]
  rfl

end Granary

end SchemaOverlay
