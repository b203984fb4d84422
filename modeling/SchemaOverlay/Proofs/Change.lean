import SchemaOverlay.Proofs.Operation

/-!
# Changes

Whatever an operation does to the store, it does in a few changes out of a short
list, each of them made only where it is allowed.  A trace lists the changes in
order, with the events that they report.  What every allowed change keeps is
therefore kept by every operation and by every run.
-/

namespace SchemaOverlay

/-- One change of the store, or a report that leaves the store as it is. -/
inductive Change where
  | report (event : Event)
  | addModel (dataSource : String) (catalog : SchemaCatalog)
  | addSettings (contents : TransformSettings)
  | addDetached (model : Model) (name : String)
  | addEntity (model : Model) (id : ObjectId)
  | addScope (model : Model) (id : ObjectId)
  | addOrphan (model : Model) (key name : String)
  | addColumn (entity : EntityOverlay) (name : String) (typeName : Option String)
  | declareConstraint (entity : EntityOverlay) (constraint : Constraint)
  | declareForeignKey (entity : EntityOverlay) (key : Association)
  | describe (entity : EntityOverlay) (columns : Option String)
  | createSettings (object : OverlayObject)
  | installSettings (object : OverlayObject) (id : SettingsId)
  | edit (id : SettingsId) (update : TransformSettings.Edit)
  | register (resolver : Resolver) (model : Model)
  | retain (held : Held)
  | release (held : Held)

namespace Change

/-- What a change is about. -/
inductive Kind where
  | report
  | model
  | settings
  | detached
  | entity
  | scope
  | orphan
  | column
  | declaration
  | slot
  | contents
  | registry
  | hold
  deriving DecidableEq, Repr

def kind : Change → Kind
  | report _ => .report
  | addModel _ _ => .model
  | addSettings _ => .settings
  | addDetached _ _ => .detached
  | addEntity _ _ => .entity
  | addScope _ _ => .scope
  | addOrphan _ _ _ => .orphan
  | addColumn _ _ _ => .column
  | declareConstraint _ _ | declareForeignKey _ _ | describe _ _ => .declaration
  | createSettings _ | installSettings _ _ => .slot
  | edit _ _ => .contents
  | register _ _ => .registry
  | retain _ | release _ => .hold

def action : Change → Action Unit
  | report event => Action.report event
  | addModel dataSource catalog => (Model.create dataSource catalog).silent
  | addSettings contents => (SettingsId.create contents).silent
  | addDetached model name => (model.createDetached name).silent
  | addEntity model id => (model.addEntity id).silent
  | addScope model id => (model.addScope id).silent
  | addOrphan model key name => (model.addOrphan key name).silent
  | addColumn entity name typeName => (entity.addColumn name typeName).silent
  | declareConstraint entity constraint => entity.declareConstraint constraint
  | declareForeignKey entity key => entity.declareForeignKey key
  | describe entity columns => entity.describe columns
  | createSettings object => object.createSettings.silent
  | installSettings object id => (object.installSettings id).silent
  | edit id update => id.edit update
  | register resolver model => (resolver.register model).silent
  | retain held => Action.change (·.retain held)
  | release held => Action.change (·.release held)

def apply (change : Change) (store : Store) : Store := (change.action store).store

def events (change : Change) (store : Store) : List Event := (change.action store).events

/-- Where the change is made: by and for objects that live, and never over what is there. -/
def Allowed (store : Store) : Change → Prop
  | report event => event.isCreation = false
  | addModel _ _ | addSettings _ | release _ => True
  | addDetached model _ => store.modelLives model = true
  | addEntity model id =>
    store.modelLives model = true ∧ id.dataSource = model.dataSource ∧
      store.entity? model id = none
  | addScope model id =>
    store.modelLives model = true ∧ id.dataSource = model.dataSource ∧ id.isRoot = false ∧
      store.scope? model id = none
  | addOrphan model key _ => store.modelLives model = true ∧ store.orphans.get? key = none
  | addColumn entity name _ =>
    store.entityLives entity = true ∧ store.column? entity name = none
  | declareConstraint entity _ | declareForeignKey entity _ | describe entity _ =>
    store.entityLives entity = true
  | createSettings object => store.lives object = true ∧ store.ownSettings? object = none
  | installSettings object id =>
    store.lives object = true ∧ store.settingsLive id = true ∧ store.ownSettings? object = none
  | edit id _ => store.settingsLive id = true
  | register _ model => store.modelLives model = true
  | retain held => store.isAlive held = true

end Change

/-! ## Traces -/

/-- Allowed changes, one after the other, with the events that they report in order. -/
inductive Trace : Store → List Change → List Event → Store → Prop where
  | done {store : Store} : Trace store [] [] store
  | next {store after : Store} {change : Change} {later : List Change} {events : List Event}
      (allowed : change.Allowed store) (rest : Trace (change.apply store) later events after) :
      Trace store (change :: later) (change.events store ++ events) after

namespace Trace

variable {before middle after : Store} {first second : List Change} {early late : List Event}

theorem single (change : Change) (allowed : change.Allowed before) :
    Trace before [change] (change.events before) (change.apply before) := by
  simpa using Trace.next allowed .done

/-- One trace after another is a trace. -/
theorem append (front : Trace before first early middle) (back : Trace middle second late after) :
    Trace before (first ++ second) (early ++ late) after := by
  induction front with
  | done => exact back
  | next allowed _ ih =>
      rw [List.append_assoc]
      exact .next allowed (ih back)

/-- What every allowed change of the trace keeps, the trace keeps. -/
theorem keeps (trace : Trace before first early after) (property : Store → Prop)
    (step : ∀ store, ∀ change ∈ first, property store → change.Allowed store →
      property (change.apply store))
    (holds : property before) : property after := by
  induction trace with
  | done => exact holds
  | next allowed _ ih =>
      refine ih (fun store change mem => step store change (List.mem_cons_of_mem _ mem)) ?_
      exact step _ _ List.mem_cons_self holds allowed

/-- Reports alone leave the store as it is. -/
theorem eq_of_reports (trace : Trace before first early after)
    (reports : ∀ change ∈ first, change.kind = .report) : after = before := by
  refine trace.keeps (· = before) (fun store change mem same _ => ?_) rfl
  have kind := reports change mem
  cases change with
  | report event => exact same
  | _ => cases kind

end Trace

/-! ## Actions as changes -/

/-- The action does what some allowed changes of the given kinds do. -/
def Action.Makes {α : Type} (action : Action α) (store : Store) (kinds : List Change.Kind) : Prop :=
  ∃ changes, Trace store changes (action store).events (action store).store ∧
    ∀ change ∈ changes, change.kind ∈ kinds

namespace Action.Makes

variable {α β : Type} {store : Store} {kinds : List Change.Kind}

/-- An action that only yields a value makes no change. -/
theorem pure (value : α) : (Pure.pure value : Action α).Makes store kinds :=
  ⟨[], .done, by simp⟩

theorem read (view : Store → α) : (Action.read view).Makes store kinds :=
  ⟨[], .done, by simp⟩

/-- A report is a change of its own. -/
theorem report {event : Event} (plain : event.isCreation = false) (listed : .report ∈ kinds) :
    (Action.report event).Makes store kinds :=
  ⟨[.report event], .single (.report event) plain, by simpa [Change.kind] using listed⟩

/-- An action that is one allowed change. -/
theorem single {action : Action α} (change : Change) (same : change.action = action.silent)
    (allowed : change.Allowed store) (listed : change.kind ∈ kinds) :
    action.Makes store kinds := by
  refine ⟨[change], ?_, by simpa using listed⟩
  have trace := Trace.single change allowed
  simpa only [Change.events, Change.apply, same, Action.silent] using trace

/-- One action after another makes the changes of both. -/
theorem bind {first : Action α} {second : α → Action β} (front : first.Makes store kinds)
    (back : (second (first store).value).Makes (first store).store kinds) :
    (first >>= second).Makes store kinds := by
  obtain ⟨early, before, here⟩ := front
  obtain ⟨late, after, there⟩ := back
  refine ⟨early ++ late, before.append after, fun change mem => ?_⟩
  rcases List.mem_append.mp mem with sooner | later
  · exact here change sooner
  · exact there change later

/-- After reading the store only what follows makes changes. -/
theorem read_bind {view : Store → α} {second : α → Action β}
    (back : (second (view store)).Makes store kinds) :
    (Action.read view >>= second).Makes store kinds :=
  .bind (.read view) back

theorem mono {action : Action α} {fewer : List Change.Kind} (makes : action.Makes store fewer)
    (included : fewer ⊆ kinds) : action.Makes store kinds := by
  obtain ⟨changes, trace, listed⟩ := makes
  exact ⟨changes, trace, fun change mem => included (listed change mem)⟩

/-- What every allowed change of the given kinds keeps, the action keeps. -/
theorem keeps {action : Action α} (makes : action.Makes store kinds) (property : Store → Prop)
    (step : ∀ later change, change.kind ∈ kinds → property later →
      Change.Allowed later change → property (change.apply later))
    (holds : property store) : property (action store).store := by
  obtain ⟨changes, trace, listed⟩ := makes
  exact trace.keeps property (fun later change mem => step later change (listed change mem)) holds

/-- What only changes of one kind touch stays as it is without any. -/
theorem view_eq {action : Action α} {kind : Change.Kind} (makes : action.Makes store kinds)
    (view : Store → β)
    (frame : ∀ later change, Change.Allowed later change → change.kind ≠ kind →
      view (change.apply later) = view later)
    (other : kind ∉ kinds) : view (action store).store = view store := by
  refine makes.keeps (fun later => view later = view store) ?_ rfl
  intro later change listed same allowed
  rw [frame later change allowed ?_, same]
  rintro rfl
  exact other listed

end Action.Makes

end SchemaOverlay
