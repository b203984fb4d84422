import SchemaOverlay.Proofs.Creation

/-!
# What is reported to come into being

A step reports that an entity, a container, a container outside the schema or
the settings of a column came into being exactly when it was not there before
the step and is there afterwards, and reports it once.  What one step reports,
no later step of a run reports again, since nothing that is there goes away.
-/

namespace SchemaOverlay

open SchemaOverlay.Action

/-! ## Creations -/

/-- Something that comes into being once; models are named by their numbers. -/
inductive Creation where
  | entity (model : Nat) (id : ObjectId)
  | container (model : Nat) (id : ObjectId)
  /-- The overlay that is filed under the key of a container outside the schema, by its name. -/
  | orphan (key name : String)
  | settings (column : ColumnOverlay)
  deriving DecidableEq, Repr

namespace Creation

/-- How it is reported. -/
def event : Creation → Event
  | entity _ id => .createdEntity id
  | container _ id => .createdContainer id
  | orphan key name => .createdOrphan key name
  | settings column => .createdAttributeSettings column.name

/-- The kind of change that makes it. -/
def kind : Creation → Change.Kind
  | entity _ _ => .entity
  | container _ _ => .scope
  | orphan _ _ => .orphan
  | settings _ => .slot

/-- The number of the model that it belongs to. -/
def model? : Creation → Option Nat
  | entity model _ | container model _ => some model
  | orphan _ _ | settings _ => none

/-- Whether nothing is there in its place. -/
def Absent (store : Store) : Creation → Prop
  | entity model id => store.entity? ⟨model, id.dataSource⟩ id = none
  | container model id => store.scope? ⟨model, id.dataSource⟩ id = none
  | orphan key _ => store.orphans.get? key = none
  | settings column => store.ownSettings? (.column column) = none

def Present (store : Store) : Creation → Prop
  | entity model id => (store.entity? ⟨model, id.dataSource⟩ id).isSome = true
  | container model id => (store.scope? ⟨model, id.dataSource⟩ id).isSome = true
  | orphan key name => ∃ overlay, store.orphans.get? key = some overlay ∧ overlay.name = name
  | settings column => (store.ownSettings? (.column column)).isSome = true

theorem Absent.not_present {store : Store} {creation : Creation} (absent : creation.Absent store) :
    ¬ creation.Present store := by
  cases creation with
  | entity model id | container model id | settings column =>
      simp only [Absent] at absent
      simp [Present, absent]
  | orphan key name =>
      rintro ⟨overlay, filed, -⟩
      cases absent.symm.trans filed

end Creation

/-- Whether events report just the creations that came into being between two stores, one after
the other, and nothing went away. -/
structure Reported (before : Store) (events : List Event) (creations : List Creation)
    (after : Store) : Prop where
  kept : ∀ creation : Creation, creation.Present before → creation.Present after
  mem_iff : ∀ creation, creation ∈ creations ↔
    ¬ creation.Present before ∧ creation.Present after
  nodup : creations.Nodup
  events_eq : events.filter (·.isCreation) = creations.map Creation.event

namespace Reported

variable {before middle after : Store} {events early late : List Event}
  {creations first second : List Creation}

/-- Where at most one thing comes into being, it is enough to say what is there afterwards. -/
theorem of_frame {creation? : Option Creation}
    (frame : ∀ creation : Creation, creation.Present after ↔
      creation.Present before ∨ creation? = some creation)
    (new : ∀ creation, creation? = some creation → ¬ creation.Present before)
    (events_eq : events.filter (·.isCreation) = creation?.toList.map Creation.event) :
    Reported before events creation?.toList after where
  kept creation there := (frame creation).mpr (.inl there)
  mem_iff creation := by
    rw [Option.mem_toList, frame]
    constructor
    · exact fun same => ⟨new creation same, .inr same⟩
    · rintro ⟨absent, there | same⟩
      · exact absurd there absent
      · exact same
  nodup := by cases creation? <;> simp
  events_eq := events_eq

/-- Nothing comes into being where the store stays as it is. -/
theorem unchanged (plain : ∀ event ∈ events, event.isCreation = false) :
    Reported before events [] before := by
  have silent : events.filter (·.isCreation) =
      (none : Option Creation).toList.map Creation.event := by
    simpa [List.filter_eq_nil_iff] using plain
  exact of_frame (fun creation => by simp) (by simp) silent

/-- What is reported first and then is reported together, since nothing goes away in between. -/
theorem append (front : Reported before early first middle)
    (back : Reported middle late second after) :
    Reported before (early ++ late) (first ++ second) after where
  kept creation there := back.kept creation (front.kept creation there)
  mem_iff creation := by
    rw [List.mem_append, front.mem_iff, back.mem_iff]
    constructor
    · rintro (⟨absent, there⟩ | ⟨absent, there⟩)
      · exact ⟨absent, back.kept creation there⟩
      · exact ⟨fun sooner => absent (front.kept creation sooner), there⟩
    · rintro ⟨absent, there⟩
      by_cases between : creation.Present middle
      · exact .inl ⟨absent, between⟩
      · exact .inr ⟨between, there⟩
  nodup := by
    refine List.nodup_append.mpr ⟨front.nodup, back.nodup, ?_⟩
    rintro creation sooner _ later rfl
    exact ((back.mem_iff creation).mp later).1 ((front.mem_iff creation).mp sooner).2
  events_eq := by rw [List.filter_append, front.events_eq, back.events_eq, List.map_append]

/-- A creation is reported exactly when nothing was in its place and it is there afterwards. -/
theorem mem_iff_absent (reported : Reported before events creations after) (creation : Creation) :
    creation ∈ creations ↔ creation.Absent before ∧ creation.Present after := by
  rw [reported.mem_iff]
  refine ⟨fun ⟨absent, there⟩ => ⟨?_, there⟩, fun ⟨absent, there⟩ => ⟨absent.not_present, there⟩⟩
  cases creation with
  | entity model id | container model id | settings column =>
      simpa [Creation.Absent, Creation.Present] using absent
  | orphan key name =>
      -- An overlay of another name would still be filed under the key.
      refine Option.eq_none_iff_forall_ne_some.mpr fun overlay filed => ?_
      obtain ⟨later, found, same⟩ := there
      obtain ⟨kept, still, named⟩ := reported.kept (.orphan key overlay.name) ⟨overlay, filed, rfl⟩
      cases found.symm.trans still
      exact absent ⟨overlay, filed, named.symm.trans same⟩

theorem event_mem_iff (reported : Reported before events creations after) {event : Event}
    (creation : event.isCreation = true) :
    event ∈ events ↔ ∃ creation ∈ creations, creation.event = event := by
  have filtered : event ∈ events.filter (·.isCreation) ↔ event ∈ events := by
    simp [List.mem_filter, creation]
  rw [← filtered, reported.events_eq, List.mem_map]

/-! ### What each event stands for -/

theorem createdEntity_mem_iff (reported : Reported before events creations after) (id : ObjectId) :
    .createdEntity id ∈ events ↔ ∃ number, .entity number id ∈ creations := by
  rw [reported.event_mem_iff rfl]
  constructor
  · rintro ⟨_ | _ | _ | _, listed, same⟩ <;> cases same
    exact ⟨_, listed⟩
  · rintro ⟨number, listed⟩
    exact ⟨_, listed, rfl⟩

theorem createdContainer_mem_iff (reported : Reported before events creations after)
    (id : ObjectId) :
    .createdContainer id ∈ events ↔ ∃ number, .container number id ∈ creations := by
  rw [reported.event_mem_iff rfl]
  constructor
  · rintro ⟨_ | _ | _ | _, listed, same⟩ <;> cases same
    exact ⟨_, listed⟩
  · rintro ⟨number, listed⟩
    exact ⟨_, listed, rfl⟩

theorem createdOrphan_mem_iff (reported : Reported before events creations after)
    (key name : String) :
    .createdOrphan key name ∈ events ↔ .orphan key name ∈ creations := by
  rw [reported.event_mem_iff rfl]
  constructor
  · rintro ⟨_ | _ | _ | _, listed, same⟩ <;> cases same
    exact listed
  · exact fun listed => ⟨_, listed, rfl⟩

theorem createdAttributeSettings_mem_iff (reported : Reported before events creations after)
    (name : String) :
    .createdAttributeSettings name ∈ events ↔
      ∃ column, column.name = name ∧ .settings column ∈ creations := by
  rw [reported.event_mem_iff rfl]
  constructor
  · rintro ⟨_ | _ | _ | _, listed, same⟩ <;> cases same
    exact ⟨_, rfl, listed⟩
  · rintro ⟨column, rfl, listed⟩
    exact ⟨_, listed, rfl⟩

/-- An entity is reported when its overlay is missing in the model and is there afterwards. -/
theorem entity_mem_iff (reported : Reported before events creations after) {model : Model}
    {id : ObjectId} :
    .entity model.number id ∈ creations ↔
      before.entity? model id = none ∧ (after.entity? model id).isSome = true := by
  rw [reported.mem_iff_absent]
  simp [Creation.Absent, Creation.Present, Store.entity?, Store.modelState]

/-- So is a container. -/
theorem container_mem_iff (reported : Reported before events creations after) {model : Model}
    {id : ObjectId} :
    .container model.number id ∈ creations ↔
      before.scope? model id = none ∧ (after.scope? model id).isSome = true := by
  rw [reported.mem_iff_absent]
  simp [Creation.Absent, Creation.Present, Store.scope?, Store.modelState]

end Reported

/-! ## Changes -/

namespace Change

variable {store : Store} {change : Change}

/-- What a change brings into being, as far as it is reported. -/
def creation? : Change → Option Creation
  | addEntity model id => some (.entity model.number id)
  | addScope model id => some (.container model.number id)
  | addOrphan _ key name => some (.orphan key name)
  | createSettings (.column column) => some (.settings column)
  | _ => none

/-- Whether the change installs settings on a column, which no operation does. -/
def InstallsOnColumn : Change → Prop
  | installSettings (.column _) _ => True
  | _ => False

theorem kind_of_creation? {creation : Creation} (brings : change.creation? = some creation) :
    creation.kind = change.kind := by
  cases change with
  | addEntity | addScope | addOrphan =>
      cases brings
      rfl
  | createSettings object =>
      cases object with
      | column column =>
          cases brings
          rfl
      | _ => cases brings
  | _ => cases brings

/-- A new model leaves what other models hold as it is, and no model had its number. -/
theorem modelState_addModel (sound : store.Sound) (dataSource : String) (catalog : SchemaCatalog)
    (model : Model) :
    (((addModel dataSource catalog).apply store).modelState model).entities =
        (store.modelState model).entities ∧
      (((addModel dataSource catalog).apply store).modelState model).scopes =
        (store.modelState model).scopes := by
  rw [apply_addModel]
  simp only [Store.modelState, SortedMap.get?_insert]
  split
  · rename_i here
    have unused : store.models.get? model.number = none := by
      refine Option.eq_none_iff_forall_ne_some.mpr fun state filed => ?_
      obtain ⟨ledger, sound⟩ := sound
      obtain ⟨owner, number, recorded⟩ := sound.models _ _ filed
      have below := sound.number_lt recorded.listed
      simp only [OverlayObject.number, number, here, Nat.lt_irrefl] at below
    rw [unused]
    exact ⟨rfl, rfl⟩
  · exact ⟨rfl, rfl⟩

theorem scope?_addEntity (model owner : Model) (id wanted : ObjectId) :
    ((addEntity model id).apply store).scope? owner wanted = store.scope? owner wanted := by
  rw [apply_addEntity]
  simp only [Store.scope?, Store.modelState, SortedMap.get?_insert]
  by_cases here : owner.number = model.number <;> simp [here]

/-- What is found after it was perhaps put in a place is what was there or has been put there. -/
theorem isSome_ite_some_iff {α : Type} {condition : Prop} [Decidable condition] {new : α}
    {former : Option α} :
    (if condition then some new else former).isSome = true ↔
      former.isSome = true ∨ condition := by
  by_cases here : condition <;> simp [here]

section Present

variable (sound : store.Sound) (allowed : change.Allowed store)

include sound allowed

theorem present_entity_apply {model : Nat} {id : ObjectId} :
    (Creation.entity model id).Present (change.apply store) ↔
      (Creation.entity model id).Present store ∨ change.creation? = some (.entity model id) := by
  simp only [Creation.Present]
  by_cases other : change.kind ∈ [.model, .entity, .scope]
  · cases change with
    | addModel dataSource catalog =>
        simp [Store.entity?, (modelState_addModel sound dataSource catalog _).1, creation?]
    | addEntity owner own =>
        rw [entity?_addEntity_eq, isSome_ite_some_iff, @eq_comm _ model, @eq_comm _ id]
        simp only [creation?, Option.some.injEq, Creation.entity.injEq]
    | addScope owner own => simp [entity?_addScope, creation?]
    | _ => simp [kind] at other
  · have plain : change.creation? ≠ some (.entity model id) := fun brings =>
      other (by rw [← kind_of_creation? brings]; simp [Creation.kind])
    simp only [Store.entity?, Store.modelState, models_apply allowed other, plain, or_false]

theorem present_container_apply {model : Nat} {id : ObjectId} :
    (Creation.container model id).Present (change.apply store) ↔
      (Creation.container model id).Present store ∨
        change.creation? = some (.container model id) := by
  simp only [Creation.Present]
  by_cases other : change.kind ∈ [.model, .entity, .scope]
  · cases change with
    | addModel dataSource catalog =>
        simp [Store.scope?, (modelState_addModel sound dataSource catalog _).2, creation?]
    | addEntity owner own => simp [scope?_addEntity, creation?]
    | addScope owner own =>
        rw [scope?_addScope_eq, isSome_ite_some_iff, @eq_comm _ model, @eq_comm _ id]
        simp only [creation?, Option.some.injEq, Creation.container.injEq]
    | _ => simp [kind] at other
  · have plain : change.creation? ≠ some (.container model id) := fun brings =>
      other (by rw [← kind_of_creation? brings]; simp [Creation.kind])
    simp only [Store.scope?, Store.modelState, models_apply allowed other, plain, or_false]

omit sound in
theorem present_orphan_apply {key name : String} :
    (Creation.orphan key name).Present (change.apply store) ↔
      (Creation.orphan key name).Present store ∨
        change.creation? = some (.orphan key name) := by
  simp only [Creation.Present]
  by_cases other : change.kind = .orphan
  · cases change with
    | addOrphan model filing given =>
        rw [apply_addOrphan]
        simp only [SortedMap.get?_insert, creation?]
        by_cases here : key = filing
        · subst here
          simp [allowed.2, EntityOverlay.ofDetached]
        · simp [here, Ne.symm here]
    | _ => cases other
  · have plain : change.creation? ≠ some (.orphan key name) := fun brings =>
      other (kind_of_creation? brings).symm
    simp only [orphans_apply allowed other, plain, or_false]

omit sound in
theorem present_settings_apply (reports : ¬ change.InstallsOnColumn) {column : ColumnOverlay} :
    (Creation.settings column).Present (change.apply store) ↔
      (Creation.settings column).Present store ∨ change.creation? = some (.settings column) := by
  simp only [Creation.Present]
  by_cases other : change.kind = .slot
  · cases change with
    | createSettings object =>
        rw [Store.ownSettings?_append (congrArg Store.slots (apply_createSettings allowed.2))]
        rw [Option.isSome_or, Bool.or_eq_true, isSome_ite_some_iff]
        cases object <;> simp [creation?]
    | installSettings object id =>
        rw [Store.ownSettings?_append (congrArg Store.slots (apply_installSettings id allowed.2.2))]
        rw [Option.isSome_or, Bool.or_eq_true, isSome_ite_some_iff]
        cases object with
        | column owner => exact absurd trivial reports
        | _ => simp [creation?]
    | _ => cases other
  · have plain : change.creation? ≠ some (.settings column) := fun brings =>
      other (kind_of_creation? brings).symm
    simp only [Store.ownSettings?, slots_apply other, plain, or_false]

end Present

/-- What a change brings into being was not there before. -/
theorem absent_of_creation? (allowed : change.Allowed store) {creation : Creation}
    (brings : change.creation? = some creation) : creation.Absent store := by
  cases change with
  | addEntity model id =>
      cases brings
      simpa [Creation.Absent, Store.entity?, Store.modelState] using allowed.2.2
  | addScope model id =>
      cases brings
      simpa [Creation.Absent, Store.scope?, Store.modelState] using allowed.2.2.2
  | addOrphan model key name =>
      cases brings
      exact allowed.2
  | createSettings object =>
      cases object with
      | column column =>
          cases brings
          exact allowed.2
      | _ => cases brings
  | _ => cases brings

theorem events_eq (allowed : change.Allowed store) :
    (change.events store).filter (·.isCreation) =
      change.creation?.toList.map Creation.event := by
  cases change with
  | report event =>
      have plain : event.isCreation = false := allowed
      simp [events, action, creation?, plain]
  | createSettings object =>
      simp only [events, action, Action.silent, OverlayObject.createSettings, bind_apply,
        read_apply, allowed.2]
      cases object <;> rfl
  | installSettings object id =>
      simp only [events, action, Action.silent, OverlayObject.installSettings_of_none allowed.2.2]
      rfl
  | _ => rfl

/-- A change reports what it brings into being. -/
theorem reported (sound : store.Sound) (allowed : change.Allowed store)
    (reports : ¬ change.InstallsOnColumn) :
    Reported store (change.events store) change.creation?.toList (change.apply store) := by
  refine .of_frame (fun creation => ?_)
    (fun creation brings => (absent_of_creation? allowed brings).not_present) (events_eq allowed)
  cases creation with
  | entity model id => exact present_entity_apply sound allowed
  | container model id => exact present_container_apply sound allowed
  | orphan key name => exact present_orphan_apply allowed
  | settings column => exact present_settings_apply allowed reports

end Change

/-- A trace reports what its changes bring into being, in their order. -/
theorem Trace.reported {before after : Store} {changes : List Change} {events : List Event}
    (trace : Trace before changes events after) (sound : before.Sound)
    (reports : ∀ change ∈ changes, ¬ change.InstallsOnColumn) :
    Reported before events (changes.filterMap Change.creation?) after := by
  induction trace with
  | done => exact .unchanged (by simp)
  | @next store after change later events allowed _ ih =>
      obtain ⟨here, behind⟩ := List.forall_mem_cons.mp reports
      have step := Change.reported sound allowed here
      have rest := ih (Change.sound_apply sound allowed) behind
      cases brings : change.creation? with
      | none =>
          rw [brings] at step
          rw [List.filterMap_cons_none brings]
          exact step.append rest
      | some creation =>
          rw [brings] at step
          rw [List.filterMap_cons_some brings]
          exact step.append rest

/-- Changes of other kinds bring nothing into being that is reported. -/
theorem Action.Makes.reported_nothing {α : Type} {action : Action α} {store : Store}
    {kinds : List Change.Kind} (makes : action.Makes store kinds) (sound : store.Sound)
    (other : ∀ kind ∈ kinds, kind ∉ [.entity, .scope, .orphan, .slot]) :
    Reported store (action store).events [] (action store).store := by
  obtain ⟨changes, trace, listed⟩ := makes
  have reported := trace.reported sound fun change mem installs => by
    have apart := other _ (listed change mem)
    cases change with
    | installSettings object id => simp [Change.kind] at apart
    | _ => cases installs
  have nothing : changes.filterMap Change.creation? = [] := by
    rw [List.filterMap_eq_nil_iff]
    intro change mem
    rw [Option.eq_none_iff_forall_ne_some]
    intro creation brings
    have apart := other _ (listed change mem)
    rw [← Change.kind_of_creation? brings] at apart
    cases creation <;> simp [Creation.kind] at apart
  rwa [nothing] at reported

end SchemaOverlay
