import SchemaOverlay.Proofs.Handles
import SchemaOverlay.Proofs.Orphans
import SchemaOverlay.Proofs.Ownership

/-!
# Creation

Whatever is resolved with the wish to create it gets an overlay, unless no model
is registered for its data source, and then nothing is changed.  A real object
gets its own overlay, by whichever entry point it was asked for.  A container
outside the schema gets the one that is filed under its key, which is its own
unless a container of another data source with the same key was there first.  A
binding that asks for settings never stops half way.
-/

namespace SchemaOverlay

open SchemaOverlay.Action

/-! ## Creating or failing -/

/-- Whether an action yields nothing exactly where something is missing, changes nothing then, and
is right about whatever it yields. -/
structure Action.CreatesUnless {α : Type} (action : Action (Option α)) (store : Store)
    (missing : Prop) (right : Store → α → Prop) : Prop where
  none_iff : (action store).value = none ↔ missing
  unchanged : missing → (action store).store = store
  right : ∀ value, (action store).value = some value → right (action store).store value

namespace Action.CreatesUnless

variable {α : Type} {action : Action (Option α)} {store : Store} {missing : Prop}
  {right : Store → α → Prop}

theorem of_missing {events : List Event} (lacks : missing)
    (fails : action store = ⟨none, store, events⟩) : action.CreatesUnless store missing right where
  none_iff := iff_of_true (by rw [fails]) lacks
  unchanged _ := by rw [fails]
  right value found := by
    rw [fails] at found
    cases found

theorem of_found {value : α} (there : ¬ missing) (found : (action store).value = some value)
    (holds : right (action store).store value) : action.CreatesUnless store missing right where
  none_iff := iff_of_false (by simp [found]) there
  unchanged lacks := absurd lacks there
  right other same := by
    cases found.symm.trans same
    exact holds

end Action.CreatesUnless

/-! ## Overlays of objects -/

/-- What a model holds for a real object: overlays that agree with it in identity and name, and
for the data source itself the model. -/
inductive Store.OverlayOf (store : Store) (model : Model) : RealObject → OverlayObject → Prop where
  | root {id : ObjectId} (root : id.isRoot = true) :
    OverlayOf store model (.container id) (.model model)
  | scope {id : ObjectId} {overlay : ScopeOverlay} (same : overlay.id = id)
    (filed : store.scope? model id = some overlay) :
    OverlayOf store model (.container id) (.scope overlay)
  | entity {entity : SchemaEntity} {overlay : EntityOverlay} (same : overlay.id? = some entity.id)
    (name : overlay.name = entity.name) (filed : store.entity? model entity.id = some overlay) :
    OverlayOf store model (.entity entity) (.entity overlay)
  | column {entity : SchemaEntity} {column : Column} {overlay : ColumnOverlay}
    (name : overlay.name = column.name) (same : overlay.entity.id? = some entity.id)
    (filed : store.entity? model entity.id = some overlay.entity)
    (declared : store.column? overlay.entity column.name = some overlay) :
    OverlayOf store model (.column entity column) (.column overlay)

/-- What is filed for a real object is its overlay in the registered model. -/
theorem Store.Files.overlayOf {store : Store} (sound : store.Sound) {resolver : Resolver}
    {object : RealObject} {overlay : OverlayObject} {model : Model}
    (registered : resolver.model? object.dataSource store = some model)
    (files : store.Files resolver (.ofReal object) overlay) :
    store.OverlayOf model object overlay := by
  obtain ⟨ledger, sound⟩ := sound
  have lives := Resolver.modelLives_of_model? registered
  cases object with
  | container id =>
      cases files with
      | scope also filed =>
          cases also.symm.trans registered
          exact .scope (scope?_id filed) filed
  | entity entity =>
      cases files with
      | entity also filed =>
          cases also.symm.trans registered
          obtain ⟨same, name, -, -⟩ := sound.entity_standsFor lives filed
          exact .entity same name filed
  | column entity column =>
      cases files with
      | @column _ _ _ owner overlay also filed declared =>
          cases also.symm.trans registered
          obtain ⟨mem, name⟩ := column?_mem declared
          -- The column belongs to the overlay that declares it.
          have owned : overlay.entity = owner := by
            have alive := sound.entityLives_of_filed lives filed
            exact ((sound.declared_recorded (sound.has_entity alive)).columns overlay mem).1
          subst owned
          exact .column name (sound.entity_standsFor lives filed).id_eq filed declared

/-! ## Look-ups that create -/

theorem Model.exists_entityById {model : Model} {id : ObjectId}
    (own : id.dataSource = model.dataSource) (store : Store) :
    ∃ overlay, (model.entityById id true store).value = some overlay := by
  cases filed : store.entity? model id with
  | some overlay => exact ⟨overlay, congrArg Outcome.value (entityById_of_some own filed)⟩
  | none => exact ⟨_, congrArg Outcome.value (entityById_true own filed)⟩

theorem Model.exists_findScope {model : Model} {id : ObjectId}
    (own : id.dataSource = model.dataSource) (inner : id.isRoot = false) (store : Store) :
    ∃ overlay, (model.findScope id true store).value = some overlay := by
  cases filed : store.scope? model id with
  | some overlay => exact ⟨overlay, congrArg Outcome.value (findScope_of_some filed)⟩
  | none =>
      have wanted : (true && !id.isRoot && id.dataSource == model.dataSource) = true := by
        simp [inner, own]
      rw [findScope_of_none filed, if_pos wanted]
      exact ⟨_, rfl⟩

/-- A look-up with the wish to create never fails where the data source has a model. -/
theorem Target.exists_lookUp {store : Store} (sound : store.Sound) {resolver : Resolver}
    {target : Target} {model : Model}
    (registered : resolver.model? target.dataSource store = some model)
    (proper : ∀ id, target = .scope id → id.isRoot = false) :
    ∃ object, (target.lookUp resolver model true store).value = some object := by
  have own := sound.dataSource_of_model? registered
  cases target with
  | entity id =>
      obtain ⟨overlay, found⟩ := model.exists_entityById own.symm store
      exact ⟨.entity overlay, by simp only [lookUp, map_apply, found, Option.map_some]⟩
  | column id name =>
      obtain ⟨owner, found⟩ := model.exists_entityById own.symm store
      obtain ⟨overlay, finds⟩ := owner.exists_findColumn name (model.entityById id true store).store
      refine ⟨.column overlay, ?_⟩
      simp only [lookUp, bind_apply, found, map_apply, finds, Option.map_some]
  | scope id =>
      obtain ⟨overlay, found⟩ := model.exists_findScope own.symm (proper id rfl) store
      exact ⟨.scope overlay, by simp only [lookUp, map_apply, found, Option.map_some]⟩
  | detached container =>
      obtain ⟨overlay, found, -⟩ := Resolver.resolveDetached_true sound registered
      exact ⟨.entity overlay, by simp only [lookUp, map_apply, found, Option.map_some]⟩

namespace Resolver

variable {store : Store} {resolver : Resolver}

theorem resolveObject_of_none {object : RealObject} {create : Bool}
    (absent : resolver.model? object.dataSource store = none) :
    resolver.resolveObject (.real object) create store =
      ⟨none, store, [.missingModel object.dataSource]⟩ := by
  simp only [resolveObject, bind_apply, requireModel_of_none absent]
  rfl

/-- A real object gets its overlay in the registered model. -/
theorem resolveObject_creates (sound : store.Sound) (resolver : Resolver) (object : RealObject) :
    (resolver.resolveObject (.real object) true).CreatesUnless store
      (resolver.model? object.dataSource store = none) fun after overlay =>
        ∃ model, resolver.model? object.dataSource store = some model ∧
          after.OverlayOf model object overlay := by
  cases registered : resolver.model? object.dataSource store with
  | none => exact .of_missing rfl (resolveObject_of_none registered)
  | some model =>
      have lives := modelLives_of_model? registered
      have makes : (resolver.resolveObject (.real object) true).Makes store _ :=
        resolveObject_makes sound (.real object) true
      have still := (makes.model? (by decide) resolver object.dataSource).trans registered
      by_cases proper : ∀ id, object = .container id → id.isRoot = false
      · have target := (Target.dataSource_ofReal object).symm ▸ registered
        obtain ⟨overlay, found⟩ := Target.exists_lookUp sound target (by
          intro id same
          cases object with
          | container own =>
              cases same
              exact proper id rfl
          | entity entity => cases same
          | column entity column => cases same)
        have eq : resolver.resolveObject (.real object) true store =
            (Target.ofReal object).lookUp resolver model true store :=
          (resolveObject_of_some registered).trans
            (model.findObject_eq_lookUp resolver object proper true store)
        have files := Target.files_of_lookUp sound target found
        rw [← eq] at found files
        exact .of_found (by simp) found
          ⟨model, rfl, files.overlayOf (makes.sound sound) still⟩
      · obtain ⟨id, root⟩ := Classical.not_forall.mp proper
        obtain ⟨rfl, root⟩ := Classical.not_imp.mp root
        have isRoot : id.isRoot = true := by simpa using root
        have yields : resolver.resolveObject (.real (.container id)) true store =
            ⟨some (.model model), store, []⟩ := by
          rw [resolveObject_of_some registered]
          simp only [Model.findObject, isRoot, if_true]
          rfl
        exact .of_found (by simp) (congrArg Outcome.value yields) ⟨model, rfl, .root isRoot⟩

end Resolver

/-! ## Containers outside the schema -/

/-- Whether an overlay is filed for a container outside the schema and belongs to its data
source. -/
structure Store.OrphanOf (store : Store) (container : DetachedContainer) (overlay : EntityOverlay) :
    Prop where
  filed : store.orphans.get? container.key = some overlay
  orphan : overlay.isOrphan = true
  dataSource : overlay.dataSource = container.dataSource

/-- What is filed for containers outside the schema has nothing in the schema underneath. -/
theorem Store.Sound.isOrphan {store : Store} (sound : store.Sound) {key : String}
    {overlay : EntityOverlay} (filed : store.orphans.get? key = some overlay) :
    overlay.isOrphan = true := by
  obtain ⟨ledger, sound⟩ := sound
  rw [EntityOverlay.isOrphan, (sound.orphans _ _ filed).2]
  rfl

namespace Resolver

variable {store : Store} {resolver : Resolver}

/-- A container outside the schema gets what is filed under its key, named after it when it comes
into being, and that is its own overlay unless one of another data source was there before. -/
theorem resolveDetached_creates (sound : store.Sound) (resolver : Resolver)
    (container : DetachedContainer) :
    (resolver.resolveDetached container true).CreatesUnless store
      (resolver.model? container.dataSource store = none) fun after overlay =>
        after.orphans.get? container.key = some overlay ∧
          (after.OrphanOf container overlay ↔ ¬ store.HasForeign container) ∧
          (store.orphans.get? container.key = none → overlay.name = container.name) := by
  cases registered : resolver.model? container.dataSource store with
  | none => exact .of_missing rfl (resolveDetached_of_no_model registered)
  | some model =>
      obtain ⟨overlay, found, filed, own, -⟩ := resolveDetached_true sound registered
      have makes : (resolver.resolveDetached container true).Makes store _ :=
        resolveDetached_makes container true
      refine .of_found (by simp) found ⟨filed, ?_, fun absent => ?_⟩
      · rw [← own]
        constructor
        · exact fun orphan => orphan.dataSource
        · exact fun same => ⟨filed, (makes.sound sound).isOrphan filed, same⟩
      · rw [resolveDetached_of_none registered absent] at found
        cases found
        rfl

/-! ## Typed entry points -/

/-- The overlay of a bound column. -/
def boundColumn (resolver : Resolver) (binding : Binding) (create : Bool) :
    Action (Option ColumnOverlay) := do
  match ← resolver.resolveBinding binding create with
  | none => return none
  | some entity => entity.findColumn binding.column.name create

theorem resolveEntity_of_none {entity : SchemaEntity} {create : Bool}
    (absent : resolver.model? entity.dataSource store = none) :
    resolver.resolveEntity (.real entity) create store =
      ⟨none, store, [.missingModel entity.dataSource]⟩ := by
  simp only [resolveEntity, bind_apply, requireModel_of_none absent]
  rfl

/-- Resolving an entity is resolving it as an object. -/
theorem resolveEntity_eq_resolveObject (entity : SchemaEntity) (create : Bool) :
    (Option.map .entity <$> resolver.resolveEntity (.real entity) create) store =
      resolver.resolveObject (.real (.entity entity)) create store := by
  cases registered : resolver.model? entity.dataSource store with
  | none =>
      rw [map_apply, resolveEntity_of_none registered, resolveObject_of_none registered]
      rfl
  | some model =>
      rw [map_apply, resolveEntity_of_some registered, resolveObject_of_some registered]
      simp only [Model.findObject, Model.findEntity, bind_apply, pure_apply, List.append_nil]

/-- Looking a bound column of an entity up is resolving it as an object. -/
theorem boundColumn_eq_resolveObject {binding : Binding} {entity : SchemaEntity}
    (leads : binding.entity? = some (.real entity)) (create : Bool) :
    (Option.map .column <$> resolver.boundColumn binding create) store =
      resolver.resolveObject (.real (.column entity binding.column)) create store := by
  rw [map_apply, boundColumn, Binding.resolveBinding_of_entity? leads, bind_apply]
  cases registered : resolver.model? entity.dataSource store with
  | none =>
      rw [resolveEntity_of_none registered, resolveObject_of_none registered]
      rfl
  | some model =>
      rw [resolveEntity_of_some registered, resolveObject_of_some registered]
      simp only [Model.findObject, Model.findEntity, bind_apply]
      cases (model.entityById entity.id create store).value with
      | none => rfl
      | some overlay => simp

/-- Looking a scope up in the registered model is resolving it as an object. -/
theorem findScope_eq_resolveObject {id : ObjectId} (inner : id.isRoot = false) {model : Model}
    (registered : resolver.model? id.dataSource store = some model) (create : Bool) :
    (Option.map .scope <$> model.findScope id create) store =
      resolver.resolveObject (.real (.container id)) create store := by
  rw [map_apply, resolveObject_of_some registered]
  simp only [Model.findObject, inner, Bool.false_eq_true, if_false, bind_apply, pure_apply,
    List.append_nil]

end Resolver

/-! ## Settings of bound columns -/

namespace Binding

variable {binding : Binding}

/-- A binding leads to an entity or to a container outside the schema. -/
theorem leads_cases (binding : Binding) :
    (∃ entity, binding.entity? = some entity) ∨
      ∃ container, binding.detached? = some container ∧ binding.entity? = none := by
  obtain ⟨column, owner, container⟩ := binding
  cases owner with
  | some entity => exact .inl ⟨entity, rfl⟩
  | none =>
      cases container with
      | entity entity => exact .inl ⟨entity, rfl⟩
      | detached container => exact .inr ⟨container, rfl, rfl⟩

theorem dataSource_of_entity? {entity : EntityRef} (leads : binding.entity? = some entity) :
    binding.dataSource = entity.dataSource := by
  obtain ⟨column, owner, container⟩ := binding
  cases owner with
  | some owner =>
      cases leads
      rfl
  | none =>
      cases container with
      | entity owner =>
          cases leads
          rfl
      | detached container => cases leads

theorem eq_ofDetached {container : DetachedContainer}
    (leads : binding.detached? = some container) :
    binding = .ofDetached container binding.column := by
  obtain ⟨column, owner, source⟩ := binding
  cases owner with
  | some owner => cases leads
  | none =>
      cases source with
      | entity owner => cases leads
      | detached source =>
          cases leads
          rfl

/-- Whether a binding names no overlay and belongs to a data source without a model. -/
def IsUnknown (binding : Binding) (resolver : Resolver) (store : Store) : Prop :=
  (∀ overlay, binding.entity? ≠ some (.overlay overlay)) ∧
    resolver.model? binding.dataSource store = none

end Binding

namespace Resolver

variable {store : Store} {resolver : Resolver} {binding : Binding}

theorem resolveBinding_of_unknown (unknown : binding.IsUnknown resolver store) :
    resolver.resolveBinding binding true store =
      ⟨none, store, [.missingModel binding.dataSource]⟩ := by
  obtain ⟨proper, absent⟩ := unknown
  rcases binding.leads_cases with ⟨entity, leads⟩ | ⟨container, leads, -⟩
  · rw [Binding.resolveBinding_of_entity? leads]
    rw [Binding.dataSource_of_entity? leads] at absent ⊢
    cases entity with
    | overlay overlay => exact absurd leads (proper overlay)
    | real entity => exact resolveEntity_of_none absent
  · rw [Binding.eq_ofDetached leads] at absent ⊢
    exact resolveDetached_of_no_model absent

theorem exists_resolveBinding (sound : store.Sound) (known : ¬ binding.IsUnknown resolver store) :
    ∃ entity, (resolver.resolveBinding binding true store).value = some entity := by
  rcases binding.leads_cases with ⟨entity, leads⟩ | ⟨container, leads, detached⟩
  · rw [Binding.resolveBinding_of_entity? leads]
    cases entity with
    | overlay overlay => exact ⟨overlay, rfl⟩
    | real entity =>
        cases registered : resolver.model? entity.dataSource store with
        | none =>
            refine absurd ⟨by simp [leads], ?_⟩ known
            rwa [Binding.dataSource_of_entity? leads]
        | some model =>
            have own := sound.dataSource_of_model? registered
            rw [resolveEntity_of_some registered]
            exact model.exists_entityById own.symm store
  · cases registered : resolver.model? container.dataSource store with
    | none =>
        refine absurd ⟨by simp [detached], ?_⟩ known
        rw [Binding.eq_ofDetached leads]
        exact registered
    | some model =>
        obtain ⟨overlay, found, -⟩ := resolveDetached_true sound registered
        rw [Binding.eq_ofDetached leads]
        exact ⟨overlay, found⟩

/-- A binding gets the settings of the column that it leads to, unless it is unknown. -/
theorem bindingSettings_creates (sound : store.Sound) (resolver : Resolver) (binding : Binding) :
    (resolver.bindingSettings binding true).CreatesUnless store
      (binding.IsUnknown resolver store) fun after id =>
        ∃ column, binding.LeadsTo resolver store column ∧
          after.ownSettings? (.column column) = some id := by
  by_cases unknown : binding.IsUnknown resolver store
  · have fails : resolver.bindingSettings binding true store =
        ⟨none, store, [.missingModel binding.dataSource]⟩ := by
      simp only [bindingSettings, bind_apply, resolveBinding_of_unknown unknown]
      rfl
    exact .of_missing unknown fails
  · obtain ⟨entity, resolved⟩ := exists_resolveBinding sound unknown
    obtain ⟨column, found⟩ := entity.exists_findColumn binding.column.name
      (resolver.resolveBinding binding true store).store
    have leads : binding.LeadsTo resolver store column := ⟨entity, resolved, found⟩
    obtain ⟨last, value, after⟩ := bindingSettings_of_leadsTo leads
    refine .of_found unknown value ⟨column, leads, ?_⟩
    rw [after]
    exact (OverlayObject.column column).ownSettings?_createSettings last

/-! ## All that is created -/

/-- Whatever is resolved with the wish to create it yields nothing exactly where its data source
has no model, and then changes nothing.  Otherwise a real object gets its overlay, and each typed
entry point does what the general one does; a bound column gets settings of its own.  A container
outside the schema gets its overlay if and only if none of another data source is filed under its
key, which only an operation that files an overlay of that key for another data source can have
left there. -/
theorem creation_succeeds {operations : List Operation} (run : Run .empty operations store)
    (resolver : Resolver) :
    (∀ object : RealObject, (resolver.resolveObject (.real object) true).CreatesUnless store
      (resolver.model? object.dataSource store = none) fun after overlay =>
        ∃ model, resolver.model? object.dataSource store = some model ∧
          after.OverlayOf model object overlay) ∧
      (∀ container : DetachedContainer,
        (resolver.resolveContainer (.detached container) true).CreatesUnless store
          (resolver.model? container.dataSource store = none) fun after overlay =>
            after.orphans.get? container.key = some overlay ∧
              (after.OrphanOf container overlay ↔ ¬ store.HasForeign container) ∧
              (store.orphans.get? container.key = none → overlay.name = container.name)) ∧
      (∀ container, store.HasForeign container →
        ∃ operation ∈ operations, ∃ dataSource, operation.FilesOrphan container.key dataSource ∧
          dataSource ≠ container.dataSource) ∧
      (∀ create,
        (∀ entity, (Option.map .entity <$> resolver.resolveEntity (.real entity) create) store =
          resolver.resolveObject (.real (.entity entity)) create store) ∧
        (∀ (binding : Binding) entity, binding.entity? = some (.real entity) →
          (Option.map .column <$> resolver.boundColumn binding create) store =
            resolver.resolveObject (.real (.column entity binding.column)) create store) ∧
        ∀ id model, id.isRoot = false → resolver.model? id.dataSource store = some model →
          (Option.map .scope <$> model.findScope id create) store =
            resolver.resolveObject (.real (.container id)) create store) ∧
      ∀ binding : Binding, (resolver.bindingSettings binding true).CreatesUnless store
        (binding.IsUnknown resolver store) fun after id =>
          ∃ column, binding.LeadsTo resolver store column ∧
            after.ownSettings? (.column column) = some id := by
  have sound := run.sound .empty
  refine ⟨resolveObject_creates sound resolver, resolveDetached_creates sound resolver,
    fun _ foreign => run.exists_of_hasForeign foreign, fun create => ⟨?_, ?_, ?_⟩,
    bindingSettings_creates sound resolver⟩
  · exact fun entity => resolveEntity_eq_resolveObject entity create
  · exact fun binding entity leads => boundColumn_eq_resolveObject leads create
  · exact fun id model inner registered => findScope_eq_resolveObject inner registered create

end Resolver

/-! ## A query in the place of another -/

namespace Bureau

def resolver : Resolver := ⟨0, {}, []⟩

def staff : Model := ⟨0, "staff"⟩

def log : Model := ⟨1, "staff::query::log"⟩

/-- A query whose text starts with what ends the other data source. -/
def audit : DetachedContainer := .query staff.dataSource "audit" "log::query::select 1"

def report : DetachedContainer := .query log.dataSource "report" "select 1"

def person : SchemaEntity := .unreadable ⟨"staff", ["public", "person"]⟩ "offline"

def invoice : SchemaEntity := .unreadable ⟨"sales", ["public", "invoice"]⟩ "offline"

def setup : List Operation :=
  [.createModel staff.dataSource (.unreachable "offline"), .register resolver staff,
    .createModel log.dataSource (.unreachable "offline"), .register resolver log,
    .resolveContainer resolver (.detached audit) true]

def store : Store := setup.foldl (fun store operation => operation.perform store) .empty

theorem run : Run .empty setup store := Run.of_permits (by decide)

/-- The overlay of the audit, which is filed under the key of the report as well. -/
def auditOverlay : EntityOverlay := .ofDetached 2 "audit" staff

/-- The report has a registered model and no overlay, but is not given one of its own. -/
theorem report_gets_audit :
    Run .empty setup store ∧ (resolver.model? report.dataSource store).isSome = true ∧
      (resolver.resolveContainer (.detached report) true store).value = some auditOverlay ∧
      auditOverlay.name ≠ report.name ∧ auditOverlay.dataSource ≠ report.dataSource :=
  ⟨run, by decide, by decide, by decide, by decide⟩

/-- A person gets the overlay of just that entity, an invoice none because nothing is known of its
data source, and the report the overlay that the audit left under its key. -/
theorem creation_succeeds_person :
    Run .empty setup store ∧
      (∃ overlay, (resolver.resolveObject (.real (.entity person)) true store).value =
          some overlay ∧
        (resolver.resolveObject (.real (.entity person)) true store).store.OverlayOf staff
          (.entity person) overlay) ∧
      (resolver.resolveObject (.real (.entity invoice)) true store).value = none ∧
      (resolver.resolveObject (.real (.entity invoice)) true store).store = store ∧
      ¬ (resolver.resolveContainer (.detached report) true store).store.OrphanOf report
        auditOverlay := by
  obtain ⟨objects, detached, -⟩ := Resolver.creation_succeeds run resolver
  have registered : resolver.model? "staff" store = some staff := by decide
  have missing : resolver.model? "sales" store = none := by decide
  refine ⟨run, ?_, (objects (.entity invoice)).none_iff.mpr missing,
    (objects (.entity invoice)).unchanged missing, ?_⟩
  · have known : ¬ resolver.model? "staff" store = none := by simp [registered]
    have found := (not_congr (objects (.entity person)).none_iff).mpr known
    obtain ⟨overlay, yields⟩ := Option.ne_none_iff_exists'.mp found
    obtain ⟨model, served, right⟩ := (objects (.entity person)).right overlay yields
    cases served.symm.trans registered
    exact ⟨overlay, yields, right⟩
  · have yields : (resolver.resolveContainer (.detached report) true store).value =
        some auditOverlay := by decide
    obtain ⟨-, own, -⟩ := (detached report).right auditOverlay yields
    have foreign : store.HasForeign report := ⟨auditOverlay, by decide, by decide⟩
    exact fun orphan => own.mp orphan foreign

end Bureau

end SchemaOverlay
