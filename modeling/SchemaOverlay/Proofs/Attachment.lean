import SchemaOverlay.Proofs.Levels
import SchemaOverlay.Proofs.Steps

/-!
# What attaching settings affects

An operation that gives an object its first settings adds one slot, and at most
overlays that nothing was named after yet.  So the levels of every known column
stay as they are, and exactly those columns get the new settings that have the
object among their levels and no owner of settings nearer by.
-/

namespace SchemaOverlay

open SchemaOverlay.Action Change.Kind

/-! ## One more owner among the levels -/

section Owner

variable {object : OverlayObject} {id : SettingsId}
  {own attached : OverlayObject → Option SettingsId}

/-- A search that meets no owner before an object yields what the object owns. -/
theorem findSome?_split {nearer : List OverlayObject} (owned : attached object = some id)
    (bare : ∀ level ∈ nearer, attached level = none) (farther : List OverlayObject) :
    (nearer ++ object :: farther).findSome? attached = some id := by
  rw [List.findSome?_append, List.findSome?_eq_none_iff.mpr bare, Option.none_or,
    List.findSome?_cons, owned]

/-- A search that does not get as far as the new owner yields what it did before. -/
theorem findSome?_of_not_split
    (same : ∀ other, other ≠ object → attached other = own other) {levels : List OverlayObject}
    (hidden : ¬ ∃ nearer farther, levels = nearer ++ object :: farther ∧
      ∀ level ∈ nearer, attached level = none) :
    levels.findSome? attached = levels.findSome? own := by
  induction levels with
  | nil => rfl
  | cons level outer ih =>
      have other : level ≠ object := by
        rintro rfl
        exact hidden ⟨[], outer, rfl, by simp⟩
      rw [List.findSome?_cons, List.findSome?_cons, same level other]
      cases owned : own level with
      | some former => rfl
      | none =>
          refine ih ?_
          rintro ⟨nearer, farther, rfl, bare⟩
          refine hidden ⟨level :: nearer, farther, rfl, List.forall_mem_cons.mpr ⟨?_, bare⟩⟩
          rw [same level other, owned]

end Owner

namespace Store

variable {store after : Store}

/-- Whether what an object owns reaches a column: the object is one of the column's levels and
none before it owns settings. -/
def Reaches (store : Store) (object : OverlayObject) (column : ColumnOverlay) : Prop :=
  ∃ nearer farther, store.levels column = nearer ++ object :: farther ∧
    ∀ level ∈ nearer, store.ownSettings? level = none

/-- What objects own after one more slot, which counts where nothing was owned before. -/
theorem ownSettings?_append {object : OverlayObject} {id : SettingsId}
    (slots : after.slots = store.slots ++ [(object, id)]) (other : OverlayObject) :
    after.ownSettings? other =
      (store.ownSettings? other).or (if object = other then some id else none) := by
  unfold ownSettings?
  rw [slots, List.find?_append]
  cases store.slots.find? (fun slot => slot.1 == other) with
  | some slot => rfl
  | none => by_cases here : object = other <;> simp [here]

end Store

/-! ## Levels under changes -/

namespace Change

variable {store : Store} {ledger : Ledger} {change : Change}

/-- What an operation does that gives an object its first settings. -/
def Kind.attaching : List Kind := [.report, .entity, .orphan, .column, .slot]

theorem modelLives_attaching (allowed : change.Allowed store)
    (listed : change.kind ∈ Kind.attaching) (model : Model) :
    (change.apply store).modelLives model = store.modelLives model := by
  have registries : ∀ kind ∈ Kind.attaching, kind ≠ .registry := by decide
  have held : ∀ kind ∈ Kind.attaching, kind ∉ [.model, .settings, .detached, .hold] := by decide
  exact Store.modelLives_congr (registries_apply allowed (registries _ listed))
    (held_apply allowed (held _ listed)) model

theorem scopes_attaching (allowed : change.Allowed store)
    (listed : change.kind ∈ Kind.attaching) (model : Model) :
    (change.apply store).scopes model = store.scopes model := by
  by_cases entity : change.kind = .entity
  · cases change with
    | addEntity owner id =>
        rw [apply_addEntity]
        by_cases here : model.number = owner.number <;>
          simp [Store.scopes, Store.modelState, SortedMap.get?_insert, here]
    | _ => cases entity
  · have other : ∀ kind ∈ Kind.attaching, kind ≠ .entity → kind ∉ [.model, .entity, .scope] := by
      decide
    have models := models_apply allowed (other _ listed entity)
    simp only [Store.scopes, Store.modelState, models]

/-- An overlay that was named before is filed after the change exactly if it was before. -/
theorem entity?_addEntity_iff {model owner : Model} {id wanted : ObjectId}
    (absent : store.entity? model id = none) {entity : EntityOverlay}
    (old : entity.number ≠ store.fresh) :
    ((addEntity model id).apply store).entity? owner wanted = some entity ↔
      store.entity? owner wanted = some entity := by
  rw [entity?_addEntity_eq]
  split
  · rename_i here
    have missing : store.entity? owner wanted = none := by
      rwa [here.2, Store.entity?_of_number here.1]
    rw [missing]
    constructor
    · intro new
      cases new
      exact absurd rfl old
    · intro new
      cases new
  · exact Iff.rfl

/-- An overlay that was named before does not come to life. -/
theorem entityLives_attaching (sound : store.SoundFor ledger) (allowed : change.Allowed store)
    (listed : change.kind ∈ Kind.attaching) {entity : EntityOverlay}
    (has : ledger.Has (.entity entity)) :
    (change.apply store).entityLives entity = store.entityLives entity := by
  have old : entity.number ≠ store.fresh := Nat.ne_of_lt (sound.number_lt has)
  have lives := modelLives_attaching allowed listed entity.model
  cases change with
  | addEntity model id =>
      rw [Bool.eq_iff_iff, Store.entityLives_iff, Store.entityLives_iff, lives,
        Store.isFiled_iff, Store.isFiled_iff]
      simp only [entity?_addEntity_iff allowed.2.2 old]
      exact Iff.rfl
  | addOrphan model filing name =>
      rw [Bool.eq_iff_iff, Store.entityLives_iff, Store.entityLives_iff, lives]
      refine or_congr Iff.rfl (or_congr ?_ Iff.rfl)
      refine exists_congr fun key => ?_
      rw [apply_addOrphan, SortedMap.get?_insert]
      split
      · rename_i same
        subst same
        rw [allowed.2]
        constructor
        · intro new
          cases new
          exact absurd rfl old
        · intro new
          cases new
      · exact Iff.rfl
  | report | addColumn | createSettings | installSettings =>
      exact entityLives_apply allowed (by simp [kind]) entity
  | _ => simp [kind, Kind.attaching] at listed

/-- A column that was named before keeps its levels. -/
theorem levels_attaching (sound : store.SoundFor ledger) (allowed : change.Allowed store)
    (listed : change.kind ∈ Kind.attaching) {column : ColumnOverlay}
    (has : ledger.Has (.column column)) :
    (change.apply store).levels column = store.levels column :=
  Store.levels_congr (entityLives_attaching sound allowed listed has.2)
    (modelLives_attaching allowed listed _) (scopes_attaching allowed listed _)

end Change

theorem Trace.levels {before after : Store} {changes : List Change} {events : List Event}
    {ledger : Ledger} (trace : Trace before changes events after) (sound : before.SoundFor ledger)
    (listed : ∀ change ∈ changes, change.kind ∈ Change.Kind.attaching) {column : ColumnOverlay}
    (has : ledger.Has (.column column)) : after.levels column = before.levels column := by
  induction trace generalizing ledger with
  | done => rfl
  | next allowed _ ih =>
      have here := listed _ List.mem_cons_self
      have later := ih (Change.soundFor_apply sound allowed)
        (fun change mem => listed change (List.mem_cons_of_mem _ mem))
        (Change.has_ledger sound has)
      rw [later, Change.levels_attaching sound allowed here has]

/-! ## Known columns -/

namespace Store

variable {store after : Store} {column : ColumnOverlay}

/-- Whether a column is declared on its entity or held. -/
def Knows (store : Store) (column : ColumnOverlay) : Prop :=
  column ∈ (store.declared column.entity).columns ∨ .object (.column column) ∈ store.held

theorem knows_of_columnLives (lives : store.columnLives column = true) : store.Knows column := by
  rcases columnLives_iff.mp lives with ⟨-, declared⟩ | held
  · exact .inl declared
  · exact .inr held

theorem knows_congr (declarations : after.declarations = store.declarations)
    (held : after.held = store.held) : after.Knows column ↔ store.Knows column := by
  simp only [Knows, declared, declarations, held]

theorem SoundFor.has_column {ledger : Ledger} (sound : store.SoundFor ledger)
    (knows : store.Knows column) : ledger.Has (.column column) := by
  rcases knows with declared | held
  · exact sound.has_declared declared
  · exact sound.held _ held

/-- A new column is the only one that becomes known with it. -/
theorem knows_addColumn {entity : EntityOverlay} {name : String} {typeName : Option String}
    (knows : ((Change.addColumn entity name typeName).apply store).Knows column) :
    store.Knows column ∨ column = ⟨store.fresh, name, typeName, entity⟩ := by
  rcases knows with declared | held
  · rw [Change.apply_addColumn] at declared
    simp only [Store.declared, SortedMap.get?_insert] at declared
    split at declared
    · rename_i same
      rcases List.mem_append.mp declared with former | new
      · refine .inl (.inl ?_)
        simpa only [Store.declared, same] using former
      · exact .inr (List.mem_singleton.mp new)
    · exact .inl (.inl declared)
  · exact .inl (.inr held)

end Store

namespace Action.Makes

variable {α : Type} {action : Action α} {store : Store} {kinds : List Change.Kind}

theorem slots (makes : action.Makes store kinds) (other : .slot ∉ kinds) :
    (action store).store.slots = store.slots :=
  makes.view_eq Store.slots (fun _ _ _ => Change.slots_apply) other

/-- Without new columns and what callers hold, the same columns are known as before. -/
theorem knows_iff (makes : action.Makes store kinds)
    (listed : kinds ⊆ [.report, .entity, .orphan, .slot]) {column : ColumnOverlay} :
    (action store).store.Knows column ↔ store.Knows column := by
  refine makes.keeps (fun later => later.Knows column ↔ store.Knows column) ?_ Iff.rfl
  intro later change mem same allowed
  have kind := listed mem
  have columns : ∀ kind ∈ [.report, .entity, .orphan, .slot],
      kind ∉ [Change.Kind.column, .declaration] := by decide
  have held : ∀ kind ∈ [.report, .entity, .orphan, .slot],
      kind ∉ [Change.Kind.model, .settings, .detached, .hold] := by decide
  rw [← same]
  exact Store.knows_congr (Change.declarations_apply allowed (columns _ kind))
    (Change.held_apply allowed (held _ kind))

end Action.Makes

/-! ## Operations that attach settings -/

/-- Whether a store has one more slot than before at most, and then no new column is known but
the owner of the slot. -/
def Store.Attaches (before after : Store) : Prop :=
  after.slots = before.slots ∨
    ∃ object id, after.slots = before.slots ++ [(object, id)] ∧
      ∀ column, after.Knows column → before.Knows column ∨ object = .column column

namespace OverlayObject

variable {store : Store}

theorem createSettings_slots (object : OverlayObject) (store : Store) :
    (object.createSettings store).store.slots = store.slots ∨
      ∃ id, (object.createSettings store).store.slots = store.slots ++ [(object, id)] := by
  cases own : store.ownSettings? object with
  | some id =>
      rw [createSettings_of_some own]
      exact .inl rfl
  | none =>
      rw [(createSettings_of_none own).2]
      exact .inr ⟨_, rfl⟩

theorem createSettings_attaches {object : OverlayObject} (lives : store.lives object = true) :
    store.Attaches (object.createSettings store).store := by
  rcases object.createSettings_slots store with same | ⟨id, slots⟩
  · exact .inl same
  · refine .inr ⟨object, id, slots, fun column knows => .inl ?_⟩
    exact ((createSettings_makes object lives).knows_iff (by simp)).mp knows

theorem installSettings_attaches {object : OverlayObject} {id : SettingsId}
    (lives : store.lives object = true) (alive : store.settingsLive id = true) :
    store.Attaches (object.installSettings id store).store := by
  have makes := installSettings_makes object lives alive
  cases own : store.ownSettings? object with
  | some former =>
      rw [installSettings_of_some own]
      exact .inl rfl
  | none =>
      refine .inr ⟨object, id, ?_, fun column knows => .inl ((makes.knows_iff (by simp)).mp knows)⟩
      rw [installSettings_of_none own]

end OverlayObject

/-- A column that becomes known in a look-up is the one that the look-up yields. -/
theorem EntityOverlay.knows_findColumn {store : Store} {entity : EntityOverlay} {name : String}
    {column other : ColumnOverlay}
    (found : (entity.findColumn name true store).value = some column)
    (knows : (entity.findColumn name true store).store.Knows other) :
    store.Knows other ∨ other = column := by
  cases filed : store.column? entity name with
  | some former =>
      rw [findColumn_of_some filed] at knows
      exact .inl knows
  | none =>
      rw [findColumn_of_none filed, if_pos rfl] at found knows
      cases found
      exact Store.knows_addColumn knows

theorem Resolver.bindingSettings_attaches {store : Store} {resolver : Resolver} {binding : Binding}
    (sound : store.Sound) (lives : binding.lives store = true) :
    store.Attaches (resolver.bindingSettings binding true store).store := by
  have resolves : (resolver.resolveBinding binding true).Makes store _ :=
    resolveBinding_makes binding true
  have first := resolves.slots (by decide)
  rcases bindingSettings_cases sound lives with same | ⟨entity, column, alive, found, living, same⟩
  · rw [same]
    exact .inl first
  · have finds := EntityOverlay.findColumn_makes alive binding.column.name true
    have second := (finds.slots (by decide)).trans first
    have last := OverlayObject.createSettings_makes (.column column) living
    rw [same]
    rcases (OverlayObject.column column).createSettings_slots _ with kept | ⟨id, slots⟩
    · exact .inl (kept.trans second)
    · refine .inr ⟨.column column, id, by rw [← second]; exact slots, ?_⟩
      intro other knows
      rcases EntityOverlay.knows_findColumn found ((last.knows_iff (by simp)).mp knows) with
        former | rfl
      · exact .inl ((resolves.knows_iff (by decide)).mp former)
      · exact .inr rfl

namespace Operation

variable {store : Store} {operation : Operation}

/-- The operations that may give an object its first settings. -/
theorem slot_cases (slot : .slot ∈ operation.kinds) :
    (∃ object, operation = .ownSettings object) ∨
      (∃ entity id, operation = .installSettings entity id) ∨
        (∃ column, operation = .columnSettings column true) ∨
          ∃ resolver binding, operation = .bindingSettings resolver binding true := by
  cases operation with
  | ownSettings object => exact .inl ⟨object, rfl⟩
  | installSettings entity id => exact .inr (.inl ⟨entity, id, rfl⟩)
  | columnSettings column create =>
      cases create with
      | false => simp [kinds] at slot
      | true => exact .inr (.inr (.inl ⟨column, rfl⟩))
  | bindingSettings resolver binding create =>
      cases create with
      | false => simp [kinds] at slot
      | true => exact .inr (.inr (.inr ⟨resolver, binding, rfl⟩))
  | _ => simp [kinds] at slot

theorem attaches (sound : store.Sound) (permitted : operation.isPermitted store = true) :
    store.Attaches (operation.perform store) := by
  by_cases slot : .slot ∈ operation.kinds
  · rcases slot_cases slot with ⟨object, rfl⟩ | ⟨entity, id, rfl⟩ | ⟨column, rfl⟩ |
      ⟨resolver, binding, rfl⟩
    · exact OverlayObject.createSettings_attaches permitted
    · simp only [isPermitted, Bool.and_eq_true] at permitted
      exact OverlayObject.installSettings_attaches permitted.1 permitted.2
    · exact OverlayObject.createSettings_attaches permitted
    · exact Resolver.bindingSettings_attaches sound permitted
  · exact .inl ((makes sound permitted).slots slot)

/-- An operation that adds a slot leaves the levels of known columns as they are. -/
theorem levels_of_slot {ledger : Ledger} (sound : store.SoundFor ledger)
    (permitted : operation.isPermitted store = true) (slot : .slot ∈ operation.kinds)
    {column : ColumnOverlay} (knows : store.Knows column) :
    (operation.perform store).levels column = store.levels column := by
  have attaching : ∀ kind ∈ operation.kinds, kind ∈ Change.Kind.attaching := by
    rcases slot_cases slot with ⟨object, rfl⟩ | ⟨entity, id, rfl⟩ | ⟨column, rfl⟩ |
      ⟨resolver, binding, rfl⟩ <;> simp [kinds, creating, Change.Kind.attaching]
  obtain ⟨changes, trace, listed⟩ := makes ⟨ledger, sound⟩ permitted
  exact trace.levels sound (fun change mem => attaching _ (listed change mem))
    (sound.has_column knows)

end Operation

/-! ## Which columns are affected -/

theorem ColumnOverlay.resolveSettings_value {store : Store} (sound : store.Sound)
    (column : ColumnOverlay) :
    (column.resolveSettings false store).value =
      (store.levels column).findSome? store.ownSettings? :=
  OverlayObject.effectiveSettings?_column sound column

/-- An operation that gives an object its first settings gives none to other objects, and no new
column is known afterwards but the object itself. -/
theorem Operation.attached_alone {store : Store} {operation : Operation} (sound : store.Sound)
    (permitted : operation.isPermitted store = true) {object : OverlayObject} {id : SettingsId}
    (bare : store.ownSettings? object = none)
    (attached : (operation.perform store).ownSettings? object = some id) :
    .slot ∈ operation.kinds ∧
      (∀ other, other ≠ object →
        (operation.perform store).ownSettings? other = store.ownSettings? other) ∧
      ∀ column, (operation.perform store).Knows column →
        store.Knows column ∨ object = .column column := by
  have changed : (operation.perform store).slots ≠ store.slots := by
    intro same
    rw [Store.ownSettings?, same] at attached
    rw [Store.ownSettings?, attached] at bare
    cases bare
  have slot : .slot ∈ operation.kinds :=
    Decidable.byContradiction fun other => changed ((Operation.makes sound permitted).slots other)
  rcases Operation.attaches sound permitted with same | ⟨owner, own, slots, known⟩
  · exact absurd same changed
  · have owns := Store.ownSettings?_append slots
    -- The slot that was added is the object's.
    have same : owner = object := by
      refine Decidable.byContradiction fun other => ?_
      rw [owns, bare, if_neg other] at attached
      cases attached
    subst same
    refine ⟨slot, fun other unlike => ?_, known⟩
    rw [owns, if_neg (Ne.symm unlike), Option.or_none]

/-- A column is no level of another column. -/
theorem Store.not_reaches_of_sibling {store : Store} {sibling column : ColumnOverlay}
    (other : sibling ≠ column) : ¬ store.Reaches (.column sibling) column := by
  rintro ⟨nearer, farther, split, -⟩
  have mem : OverlayObject.column sibling ∈ store.levels column := by
    rw [split]
    exact List.mem_append_right _ List.mem_cons_self
  rcases Store.mem_levels_iff.mp mem with same | ⟨-, same | ⟨-, same | ⟨_, _, -, same, -⟩⟩⟩
  · cases same
    exact other rfl
  all_goals cases same

/-- When an operation gives an object its first settings, they apply to every column that they
reach, and every other column keeps what applied to it; so does a sibling of a column that got
settings of its own. -/
theorem Operation.resolveSettings_perform {store : Store} (reachable : store.Reachable)
    {operation : Operation} (permitted : operation.isPermitted store = true)
    {object : OverlayObject} {id : SettingsId} (bare : store.ownSettings? object = none)
    (attached : (operation.perform store).ownSettings? object = some id) {column : ColumnOverlay}
    (lives : store.columnLives column = true ∨
      (operation.perform store).columnLives column = true) :
    ((operation.perform store).Reaches object column →
        (column.resolveSettings false (operation.perform store)).value = some id) ∧
      (¬ (operation.perform store).Reaches object column →
        (column.resolveSettings false (operation.perform store)).value =
          (column.resolveSettings false store).value) ∧
      ∀ sibling : ColumnOverlay, object = .column sibling → sibling ≠ column →
        (column.resolveSettings false (operation.perform store)).value =
          (column.resolveSettings false store).value := by
  obtain ⟨ledger, sound⟩ := reachable.sound
  obtain ⟨slot, others, known⟩ := Operation.attached_alone ⟨ledger, sound⟩ permitted bare attached
  have after := Operation.sound_perform ⟨ledger, sound⟩ permitted
  rw [ColumnOverlay.resolveSettings_value after,
    ColumnOverlay.resolveSettings_value ⟨ledger, sound⟩]
  have hidden : ¬ (operation.perform store).Reaches object column →
      ((operation.perform store).levels column).findSome? (operation.perform store).ownSettings? =
        (store.levels column).findSome? store.ownSettings? := by
    intro apart
    have knows : store.Knows column := by
      rcases lives with before | after
      · exact Store.knows_of_columnLives before
      · rcases known column (Store.knows_of_columnLives after) with former | rfl
        · exact former
        · exact absurd ⟨[], _, rfl, by simp⟩ apart
    rw [← Operation.levels_of_slot sound permitted slot knows]
    exact findSome?_of_not_split others apart
  refine ⟨?_, hidden, ?_⟩
  · rintro ⟨nearer, farther, split, bare⟩
    rw [split]
    exact findSome?_split attached bare farther
  · rintro sibling rfl other
    exact hidden (Store.not_reaches_of_sibling other)

/-! ## A scope between a model and a column -/

namespace Sales

def model : Model := ⟨0, "sales"⟩

def region : ScopeOverlay := ⟨1, ⟨"sales", ["eu"]⟩, model⟩

def orders : EntityOverlay := .ofEntity 2 ⟨"sales", ["eu", "orders"]⟩ model

def total : ColumnOverlay := ⟨3, "total", none, orders⟩

def note : ColumnOverlay := ⟨4, "note", none, orders⟩

/-- The model and the note own settings, and the region between them owns none. -/
def setup : List Operation :=
  [.createModel "sales" ⟨fun _ => .ok none⟩, .findScope model region.id true,
    .entityById model ⟨"sales", ["eu", "orders"]⟩ true, .findColumn orders "total" true,
    .findColumn orders "note" true, .ownSettings (.model model), .ownSettings (.column note)]

def store : Store := setup.foldl (fun store operation => operation.perform store) .empty

theorem store_reachable : store.Reachable := ⟨setup, Run.of_permits (by decide)⟩

/-- The region gets settings of its own. -/
def attach : Operation := .ownSettings (.scope region)

/-- Settings of the region replace those of the model for one column and not for the other. -/
theorem resolveSettings_perform_region :
    attach.isPermitted store = true ∧ store.ownSettings? (.scope region) = none ∧
      store.columnLives total = true ∧ store.columnLives note = true ∧
      (total.resolveSettings false store).value = some ⟨5⟩ ∧
      (total.resolveSettings false (attach.perform store)).value = some ⟨7⟩ ∧
      (note.resolveSettings false (attach.perform store)).value = some ⟨6⟩ := by
  have permitted : attach.isPermitted store = true := by decide
  have bare : store.ownSettings? (.scope region) = none := by decide
  have attached : (attach.perform store).ownSettings? (.scope region) = some ⟨7⟩ := by decide
  have first : store.columnLives total = true := by decide
  have second : store.columnLives note = true := by decide
  have affected :=
    Operation.resolveSettings_perform store_reachable permitted bare attached (.inl first)
  have kept :=
    Operation.resolveSettings_perform store_reachable permitted bare attached (.inl second)
  refine ⟨permitted, bare, first, second, ?_, ?_, ?_⟩
  · rw [ColumnOverlay.resolveSettings_value store_reachable.sound]
    decide +kernel
  · refine affected.1 ?_
    exact ⟨[.column total, .entity orders], [.model model], by decide +kernel, by decide⟩
  · rw [kept.2.1]
    · rw [ColumnOverlay.resolveSettings_value store_reachable.sound]
      decide +kernel
    · -- The note itself is nearer than the region and owns settings.
      rintro ⟨nearer, farther, split, none⟩
      cases nearer with
      | nil => cases split
      | cons level rest =>
          obtain rfl : .column note = level := (List.cons.inj split).1
          have owned := none _ List.mem_cons_self
          revert owned
          decide

end Sales

end SchemaOverlay
