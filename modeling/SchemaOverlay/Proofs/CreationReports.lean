import SchemaOverlay.Proofs.CreationEvents

/-!
# Reports of operations and runs

Every operation reports what it brings into being: at most one overlay, in the
model that it asks, and after it at most the settings of one column.  A whole
run therefore reports everything that it leaves behind exactly once.
-/

namespace SchemaOverlay

open SchemaOverlay.Action

/-! ## Actions -/

/-- Whether a creation is of the given kinds, and in the given model if it belongs to one. -/
structure Creation.Fits (owner? : Option Model) (kinds : List Change.Kind) (creation : Creation) :
    Prop where
  kind : creation.kind ∈ kinds
  owner : ∀ number, creation.model? = some number → owner?.map (·.number) = some number

namespace Creation.Fits

variable {owner? : Option Model} {fewer kinds : List Change.Kind} {creation : Creation}

theorem mono (fits : creation.Fits owner? fewer) (included : fewer ⊆ kinds) :
    creation.Fits owner? kinds :=
  ⟨included fits.kind, fits.owner⟩

theorem kind_ne_slot (fits : creation.Fits owner? kinds) (apart : .slot ∉ kinds) :
    creation.kind ≠ .slot :=
  fun kind => apart (kind ▸ fits.kind)

end Creation.Fits

/-- Whether an action reports what it brings into being, at most one thing of the given kinds. -/
def Action.ReportsOne {α : Type} (action : Action α) (store : Store) (owner? : Option Model)
    (kinds : List Change.Kind) : Prop :=
  ∃ creation? : Option Creation,
    Reported store (action store).events creation?.toList (action store).store ∧
      ∀ creation, creation? = some creation → creation.Fits owner? kinds

namespace Action.ReportsOne

variable {α β : Type} {store : Store} {owner? : Option Model} {kinds : List Change.Kind}

theorem of_nothing {action : Action α}
    (reported : Reported store (action store).events [] (action store).store) :
    action.ReportsOne store owner? kinds :=
  ⟨none, reported, by simp⟩

theorem of_unchanged {action : Action α} {value : α} {events : List Event}
    (same : action store = ⟨value, store, events⟩)
    (plain : ∀ event ∈ events, event.isCreation = false) :
    action.ReportsOne store owner? kinds := by
  refine .of_nothing ?_
  rw [same]
  exact .unchanged plain

/-- An action that is one change reports what the change brings into being. -/
theorem of_change {action : Action α} {value : α} (change : Change)
    (same : action store = ⟨value, change.apply store, change.events store⟩) (sound : store.Sound)
    (allowed : change.Allowed store) (reports : ¬ change.InstallsOnColumn)
    (fits : ∀ creation, change.creation? = some creation → creation.Fits owner? kinds) :
    action.ReportsOne store owner? kinds := by
  refine ⟨change.creation?, ?_, fits⟩
  rw [same]
  exact Change.reported sound allowed reports

theorem mono {action : Action α} {fewer : List Change.Kind}
    (reports : action.ReportsOne store owner? fewer) (included : fewer ⊆ kinds) :
    action.ReportsOne store owner? kinds := by
  obtain ⟨creation?, reported, fits⟩ := reports
  exact ⟨creation?, reported, fun creation same => (fits creation same).mono included⟩

/-- Nothing more is reported where nothing more comes into being. -/
theorem bind_nothing {first : Action α} {second : α → Action β}
    (front : first.ReportsOne store owner? kinds)
    (back : Reported (first store).store (second (first store).value (first store).store).events []
      (second (first store).value (first store).store).store) :
    (first >>= second).ReportsOne store owner? kinds := by
  obtain ⟨creation?, reported, fits⟩ := front
  refine ⟨creation?, ?_, fits⟩
  simpa only [bind_apply, List.append_nil] using reported.append back

theorem nothing_bind {first : Action α} {second : α → Action β}
    (front : Reported store (first store).events [] (first store).store)
    (back : (second (first store).value).ReportsOne (first store).store owner? kinds) :
    (first >>= second).ReportsOne store owner? kinds := by
  obtain ⟨creation?, reported, fits⟩ := back
  exact ⟨creation?, front.append reported, fits⟩

theorem bind_pure {first : Action α} {next : α → β}
    (front : first.ReportsOne store owner? kinds) :
    (first >>= fun value => pure (next value)).ReportsOne store owner? kinds :=
  front.bind_nothing (.unchanged (by simp))

end Action.ReportsOne

/-- Columns are not reported. -/
theorem columns_unreported (create : Bool) : ∀ kind ∈ Change.Kind.creating create [.column],
    kind ∉ [.entity, .scope, .orphan, .slot] := by
  cases create <;> decide

namespace Model

variable {store : Store} {model : Model}

theorem entityById_reports (sound : store.Sound) (lives : store.modelLives model = true)
    (id : ObjectId) (create : Bool) :
    (model.entityById id create).ReportsOne store (some model)
      (Change.Kind.creating create [.entity]) := by
  by_cases own : id.dataSource = model.dataSource
  · cases filed : store.entity? model id with
    | some overlay => exact .of_unchanged (entityById_of_some own filed) (by simp)
    | none =>
        cases create with
        | false => exact .of_unchanged (entityById_false own filed) (by simp)
        | true =>
            refine .of_change (.addEntity model id) (entityById_true own filed) sound
              ⟨lives, own, filed⟩ not_false ?_
            rintro _ ⟨⟩
            exact ⟨by simp [Creation.kind], by simp [Creation.model?]⟩
  · exact .of_unchanged (entityById_of_foreign own) (by simp [Event.isCreation])

theorem findScope_reports (sound : store.Sound) (lives : store.modelLives model = true)
    (id : ObjectId) (create : Bool) :
    (model.findScope id create).ReportsOne store (some model)
      (Change.Kind.creating create [.scope]) := by
  cases filed : store.scope? model id with
  | some scope => exact .of_unchanged (findScope_of_some filed) (by simp)
  | none =>
      have outcome : model.findScope id create store = _ := findScope_of_none filed
      split at outcome
      · rename_i wanted
        simp only [Bool.and_eq_true, Bool.not_eq_true', beq_iff_eq] at wanted
        obtain ⟨⟨rfl, inner⟩, own⟩ := wanted
        refine .of_change (.addScope model id) outcome sound ⟨lives, own, inner, filed⟩ not_false ?_
        rintro _ ⟨⟩
        exact ⟨by simp [Creation.kind], by simp [Creation.model?]⟩
      · exact .of_unchanged outcome (by simp)

theorem fileOrphan_reports (sound : store.Sound) (lives : store.modelLives model = true)
    (key name : String) : (model.fileOrphan key name).ReportsOne store none [.orphan] := by
  cases filed : store.orphans.get? key with
  | some overlay => exact .of_unchanged (fileOrphan_of_some filed) (by simp)
  | none =>
      refine .of_change (.addOrphan model key name) (fileOrphan_of_none filed) sound
        ⟨lives, filed⟩ not_false ?_
      rintro _ ⟨⟩
      exact ⟨by simp [Creation.kind], by simp [Creation.model?]⟩

theorem findObject_reports (sound : store.Sound) (lives : store.modelLives model = true)
    (object : RealObject) (create : Bool) :
    (model.findObject object create).ReportsOne store (some model)
      (Change.Kind.creating create [.entity, .scope]) := by
  have entities : Change.Kind.creating create [.entity] ⊆
      Change.Kind.creating create [.entity, .scope] :=
    Change.Kind.creating_subset create (by simp)
  unfold findObject
  cases object with
  | container id =>
      dsimp only
      split
      · exact .of_unchanged rfl (by simp)
      · refine .bind_pure ((findScope_reports sound lives id create).mono ?_)
        exact Change.Kind.creating_subset create (by simp)
  | entity entity =>
      exact .bind_pure ((entityById_reports sound lives entity.id create).mono entities)
  | column entity column =>
      refine .bind_nothing ((entityById_reports sound lives entity.id create).mono entities) ?_
      -- The column is not reported; only the overlay of its entity is.
      refine Action.Makes.reported_nothing ?_
        ((entityById_makes lives entity.id create).sound sound) (columns_unreported create)
      split
      · exact .pure _
      · rename_i overlay found
        refine .bind (EntityOverlay.findColumn_makes ?_ column.name create) (.pure _)
        exact entityLives_of_entityById sound lives found

end Model

/-- The model that a reference is looked up in; none where an overlay stands for itself. -/
def EntityRef.model? (resolver : Resolver) (store : Store) : EntityRef → Option Model
  | .real entity => resolver.model? entity.dataSource store
  | .overlay _ => none

/-- The model that a reference is looked up in; none for containers outside the schema. -/
def ContainerRef.model? (resolver : Resolver) (store : Store) : ContainerRef → Option Model
  | .entity owner => owner.model? resolver store
  | .detached _ => none

/-- The model that the owner of a bound column is looked up in. -/
def Binding.model? (resolver : Resolver) (store : Store) (binding : Binding) : Option Model :=
  match binding.entity with
  | some entity => entity.model? resolver store
  | none => binding.container.model? resolver store

/-- The model that an object is looked up in; none where an overlay stands for itself. -/
def ObjectRef.model? (resolver : Resolver) (store : Store) : ObjectRef → Option Model
  | .real object => resolver.model? object.dataSource store
  | .overlay _ => none

namespace Resolver

variable {store : Store} {resolver : Resolver}

theorem resolveEntity_reports (sound : store.Sound) (entity : EntityRef) (create : Bool) :
    (resolver.resolveEntity entity create).ReportsOne store (entity.model? resolver store)
      (Change.Kind.creating create [.entity]) := by
  cases entity with
  | overlay overlay => exact .of_unchanged rfl (by simp)
  | real entity =>
      rw [EntityRef.model?]
      cases registered : resolver.model? entity.dataSource store with
      | none => exact .of_unchanged (resolveEntity_of_none registered) (by simp [Event.isCreation])
      | some model =>
          have reports :=
            Model.entityById_reports sound (modelLives_of_model? registered) entity.id create
          rwa [Action.ReportsOne, resolveEntity_of_some registered]

theorem resolveDetached_reports (sound : store.Sound) (container : DetachedContainer)
    (create : Bool) :
    (resolver.resolveDetached container create).ReportsOne store none
      (Change.Kind.creating create [.orphan]) := by
  cases create with
  | false => exact .of_unchanged (resolveDetached_false container) (by simp)
  | true =>
      cases registered : resolver.model? container.dataSource store with
      | none =>
          exact .of_unchanged (resolveDetached_of_no_model registered) (by simp [Event.isCreation])
      | some model =>
          rw [Action.ReportsOne, resolveDetached_of_model registered]
          have reports := Model.fileOrphan_reports sound (modelLives_of_model? registered)
            container.key container.name
          exact (reports.mono (by simp [Change.Kind.creating])).bind_pure

theorem resolveContainer_reports (sound : store.Sound) (container : ContainerRef)
    (create : Bool) :
    (resolver.resolveContainer container create).ReportsOne store
      (container.model? resolver store) (Change.Kind.creating create [.entity, .orphan]) := by
  cases container with
  | entity entity =>
      exact (resolveEntity_reports sound entity create).mono
        (Change.Kind.creating_subset create (by simp))
  | detached container =>
      exact (resolveDetached_reports sound container create).mono
        (Change.Kind.creating_subset create (by simp))

theorem resolveBinding_reports (sound : store.Sound) (binding : Binding) (create : Bool) :
    (resolver.resolveBinding binding create).ReportsOne store (binding.model? resolver store)
      (Change.Kind.creating create [.entity, .orphan]) := by
  obtain ⟨column, owner, container⟩ := binding
  cases owner with
  | some entity =>
      exact (resolveEntity_reports sound entity create).mono
        (Change.Kind.creating_subset create (by simp))
  | none => exact resolveContainer_reports sound container create

theorem resolveObject_reports (sound : store.Sound) (object : ObjectRef) (create : Bool) :
    (resolver.resolveObject object create).ReportsOne store (object.model? resolver store)
      (Change.Kind.creating create [.entity, .scope]) := by
  cases object with
  | overlay overlay => exact .of_unchanged rfl (by simp)
  | real object =>
      rw [ObjectRef.model?]
      cases registered : resolver.model? object.dataSource store with
      | none => exact .of_unchanged (resolveObject_of_none registered) (by simp [Event.isCreation])
      | some model =>
          have reports :=
            Model.findObject_reports sound (modelLives_of_model? registered) object create
          rwa [Action.ReportsOne, resolveObject_of_some registered]

end Resolver

/-! ## Settings -/

theorem OverlayObject.createSettings_reports {store : Store} (sound : store.Sound)
    (object : OverlayObject) (lives : store.lives object = true) :
    object.createSettings.ReportsOne store none [.slot] := by
  cases own : store.ownSettings? object with
  | some id => exact .of_unchanged (createSettings_of_some own) (by simp)
  | none =>
      refine .of_change (.createSettings object) rfl sound ⟨lives, own⟩ not_false ?_
      intro creation brings
      cases object with
      | column column =>
          cases brings
          exact ⟨by simp [Creation.kind], by simp [Creation.model?]⟩
      | _ => cases brings

/-- Settings that are installed on an entity are not new and therefore not reported. -/
theorem EntityOverlay.installSettings_reports {store : Store} (sound : store.Sound)
    (entity : EntityOverlay) (lives : store.entityLives entity = true) {id : SettingsId}
    (alive : store.settingsLive id = true) :
    ((OverlayObject.entity entity).installSettings id).ReportsOne store none [.slot] := by
  cases own : store.ownSettings? (.entity entity) with
  | some former => exact .of_unchanged (OverlayObject.installSettings_of_some own) (by simp)
  | none =>
      exact .of_change (.installSettings (.entity entity) id) rfl sound ⟨lives, alive, own⟩
        not_false (by simp [Change.creation?])

theorem ColumnOverlay.resolveSettings_reports {store : Store} (sound : store.Sound)
    {column : ColumnOverlay} (lives : store.columnLives column = true) (create : Bool) :
    (column.resolveSettings create).ReportsOne store none
      (Change.Kind.creating create [.slot]) := by
  cases create with
  | false => exact .of_unchanged rfl (by simp)
  | true =>
      refine .bind_pure ?_
      exact (OverlayObject.createSettings_reports sound (.column column) lives).mono
        (List.subset_cons_self _ _)

/-! ## Overlays and then settings -/

/-- Whether an action reports at most one overlay that came into being, and then at most the
settings of one column. -/
def Action.ReportsInTurn {α : Type} (action : Action α) (store : Store) (owner? : Option Model)
    (kinds : List Change.Kind) : Prop :=
  ∃ overlay? settings? : Option Creation,
    Reported store (action store).events (overlay?.toList ++ settings?.toList)
        (action store).store ∧
      (∀ overlay, overlay? = some overlay → overlay.Fits owner? kinds ∧ overlay.kind ≠ .slot) ∧
      ∀ settings, settings? = some settings → settings.kind ∈ kinds ∧ settings.kind = .slot

namespace Action.ReportsInTurn

variable {α β : Type} {action : Action α} {store : Store} {owner? : Option Model}
  {kinds overlays slots : List Change.Kind}

/-- First an overlay, then settings. -/
theorem bind {first : Action α} {second : α → Action β}
    (front : first.ReportsOne store owner? overlays) (apart : .slot ∉ overlays)
    (back : (second (first store).value).ReportsOne (first store).store none slots)
    (only : ∀ creation : Creation, creation.kind ∈ slots → creation.kind = .slot)
    (included : overlays ⊆ kinds ∧ slots ⊆ kinds) :
    (first >>= second).ReportsInTurn store owner? kinds := by
  obtain ⟨overlay?, early, fits⟩ := front
  obtain ⟨settings?, late, slot⟩ := back
  refine ⟨overlay?, settings?, early.append late, fun overlay same => ⟨?_, ?_⟩,
    fun settings same => ⟨?_, ?_⟩⟩
  · exact (fits overlay same).mono included.1
  · exact (fits overlay same).kind_ne_slot apart
  · exact included.2 (slot settings same).kind
  · exact only settings (slot settings same).kind

theorem of_overlay (reports : action.ReportsOne store owner? overlays) (apart : .slot ∉ overlays)
    (included : overlays ⊆ kinds) : action.ReportsInTurn store owner? kinds := by
  obtain ⟨overlay?, reported, fits⟩ := reports
  refine ⟨overlay?, none, by simpa using reported, fun overlay same => ⟨?_, ?_⟩, by simp⟩
  · exact (fits overlay same).mono included
  · exact (fits overlay same).kind_ne_slot apart

theorem of_settings (reports : action.ReportsOne store none slots)
    (only : ∀ creation : Creation, creation.kind ∈ slots → creation.kind = .slot)
    (included : slots ⊆ kinds) : action.ReportsInTurn store owner? kinds := by
  obtain ⟨settings?, reported, slot⟩ := reports
  refine ⟨none, settings?, by simpa using reported, by simp, fun settings same => ⟨?_, ?_⟩⟩
  · exact included (slot settings same).kind
  · exact only settings (slot settings same).kind

/-- Changes of other kinds report neither. -/
theorem of_makes (makes : action.Makes store kinds) (sound : store.Sound)
    (other : ∀ kind ∈ kinds, kind ∉ [.entity, .scope, .orphan, .slot]) :
    action.ReportsInTurn store owner? kinds :=
  ⟨none, none, makes.reported_nothing sound other, by simp, by simp⟩

end Action.ReportsInTurn

theorem Creation.kind_eq_slot {create : Bool} (creation : Creation)
    (listed : creation.kind ∈ Change.Kind.creating create [.slot]) : creation.kind = .slot := by
  rcases Change.Kind.mem_creating.mp listed with report | ⟨-, slot⟩
  · cases creation <;> cases report
  · exact List.mem_singleton.mp slot

/-- Asking for the settings of a bound column reports its entity or its orphan, and then the
settings. -/
theorem Resolver.bindingSettings_reports {resolver : Resolver} {store : Store}
    (sound : store.Sound) {binding : Binding} (lives : binding.lives store = true)
    (create : Bool) :
    (resolver.bindingSettings binding create).ReportsInTurn store (binding.model? resolver store)
      (Change.Kind.creating create [.entity, .orphan, .column, .slot]) := by
  have resolves : (resolver.resolveBinding binding create).Makes store _ :=
    resolveBinding_makes binding create
  refine .bind (resolveBinding_reports sound binding create) (by cases create <;> decide) ?_
    Creation.kind_eq_slot ⟨Change.Kind.creating_subset create (by simp),
      Change.Kind.creating_subset create (by simp)⟩
  cases resolved : (resolver.resolveBinding binding create store).value with
  | none => exact .of_unchanged rfl (by simp)
  | some entity =>
      have alive := entityLives_of_resolveBinding sound lives resolved
      -- The column comes in between without a report.
      have columns := EntityOverlay.findColumn_makes alive binding.column.name create
      refine .nothing_bind (columns.reported_nothing (resolves.sound sound)
        (columns_unreported create)) ?_
      cases found : (entity.findColumn binding.column.name create
          (resolver.resolveBinding binding create store).store).value with
      | none => exact .of_unchanged rfl (by simp)
      | some column =>
          refine ColumnOverlay.resolveSettings_reports
            (columns.sound (resolves.sound sound)) ?_ create
          exact EntityOverlay.columnLives_of_findColumn (resolves.sound sound) alive found

/-! ## Operations -/

namespace Operation

/-- The model that an operation asks for an overlay. -/
def addressed? (store : Store) : Operation → Option Model
  | entityById model _ _ | findEntity model _ _ | findScope model _ _ | findObject model _ _ =>
    some model
  | resolveEntity resolver entity _ => entity.model? resolver store
  | resolveContainer resolver container _ => container.model? resolver store
  | resolveBinding resolver binding _ | bindingSettings resolver binding _ =>
    binding.model? resolver store
  | resolveObject resolver object _ => object.model? resolver store
  | _ => none

/-- A permitted operation reports what it brings into being, the overlay before the settings. -/
theorem reports {store : Store} {operation : Operation} (sound : store.Sound)
    (permitted : operation.isPermitted store = true) :
    operation.action.ReportsInTurn store (operation.addressed? store) operation.kinds := by
  cases operation with
  | entityById model id create =>
      exact .of_overlay (Model.entityById_reports sound permitted id create) (by simp)
        (List.Subset.refl _)
  | findEntity model entity create =>
      exact .of_overlay (Model.entityById_reports sound permitted entity.id create) (by simp)
        (List.Subset.refl _)
  | findScope model id create =>
      exact .of_overlay (Model.findScope_reports sound permitted id create) (by simp)
        (List.Subset.refl _)
  | findObject model object create =>
      exact .of_overlay (Model.findObject_reports sound permitted object create) (by simp)
        (Change.Kind.creating_subset create (by simp))
  | resolveEntity resolver entity create =>
      exact .of_overlay (Resolver.resolveEntity_reports sound entity create) (by simp)
        (List.Subset.refl _)
  | resolveContainer resolver container create =>
      exact .of_overlay (Resolver.resolveContainer_reports sound container create) (by simp)
        (List.Subset.refl _)
  | resolveBinding resolver binding create =>
      exact .of_overlay (Resolver.resolveBinding_reports sound binding create) (by simp)
        (List.Subset.refl _)
  | resolveObject resolver object create =>
      exact .of_overlay (Resolver.resolveObject_reports sound object create) (by simp)
        (Change.Kind.creating_subset create (by simp))
  | fileOrphan model key name =>
      exact .of_overlay (Model.fileOrphan_reports sound permitted key name) (by simp)
        (List.Subset.refl _)
  | ownSettings object =>
      exact .of_settings (OverlayObject.createSettings_reports sound object permitted)
        (fun creation => List.mem_singleton.mp) (List.Subset.refl _)
  | installSettings entity id =>
      simp only [isPermitted, Bool.and_eq_true] at permitted
      exact .of_settings
        (EntityOverlay.installSettings_reports sound entity permitted.1 permitted.2)
        (fun creation => List.mem_singleton.mp) (List.Subset.refl _)
  | columnSettings column create =>
      exact .of_settings (ColumnOverlay.resolveSettings_reports sound permitted create)
        Creation.kind_eq_slot (List.Subset.refl _)
  | bindingSettings resolver binding create =>
      exact Resolver.bindingSettings_reports sound permitted create
  | findColumn entity name create =>
      exact .of_makes (makes sound permitted) sound (columns_unreported create)
  | _ => exact .of_makes (makes sound permitted) sound (by simp [kinds])

end Operation

/-! ## Runs -/

namespace Operation

/-- What operations report, one after the other. -/
def log : Store → List Operation → List Event
  | _, [] => []
  | store, operation :: later =>
    (operation.action store).events ++ log (operation.perform store) later

/-- Whether an operation reports what comes into being in it, and that once. -/
structure ReportsCreations (operation : Operation) (store : Store) : Prop where
  /-- At most one overlay comes into being, and after it settings of at most one column; nothing
  else does, and this is what is reported. -/
  inTurn : ∃ overlay? settings? : Option Creation,
    (operation.action store).events.filter (·.isCreation) =
        (overlay?.toList ++ settings?.toList).map Creation.event ∧
      (∀ creation, creation ∈ overlay?.toList ++ settings?.toList ↔
        creation.Absent store ∧ creation.Present (operation.perform store)) ∧
      (∀ overlay, overlay? = some overlay →
        overlay.kind ∈ operation.kinds ∧ overlay.kind ≠ .slot) ∧
      ∀ settings, settings? = some settings →
        settings.kind ∈ operation.kinds ∧ settings.kind = .slot
  entity : ∀ id, .createdEntity id ∈ (operation.action store).events ↔
    ∃ model, operation.addressed? store = some model ∧ store.entity? model id = none ∧
      ((operation.perform store).entity? model id).isSome = true
  container : ∀ id, .createdContainer id ∈ (operation.action store).events ↔
    ∃ model, operation.addressed? store = some model ∧ store.scope? model id = none ∧
      ((operation.perform store).scope? model id).isSome = true
  orphan : ∀ key name, .createdOrphan key name ∈ (operation.action store).events ↔
    store.orphans.get? key = none ∧
      ∃ overlay, (operation.perform store).orphans.get? key = some overlay ∧ overlay.name = name
  settings : ∀ name, .createdAttributeSettings name ∈ (operation.action store).events ↔
    ∃ column, column.name = name ∧ store.ownSettings? (.column column) = none ∧
      ((operation.perform store).ownSettings? (.column column)).isSome = true

end Operation

/-- A permitted operation reports what comes into being in it, and that once. -/
theorem Operation.reportsCreations {store : Store} {operation : Operation} (sound : store.Sound)
    (permitted : operation.isPermitted store = true) : operation.ReportsCreations store := by
  obtain ⟨overlay?, settings?, reported, overlays, slots⟩ := reports sound permitted
  -- What belongs to a model is the overlay, and the model is the one that was asked.
  have owned {creation : Creation} {number : Nat}
      (listed : creation ∈ overlay?.toList ++ settings?.toList)
      (belongs : creation.model? = some number) :
      ∃ model, operation.addressed? store = some model ∧ model.number = number := by
    rcases List.mem_append.mp listed with overlay | slot
    · have fits := (overlays creation (Option.mem_toList.mp overlay)).1
      exact Option.map_eq_some_iff.mp (fits.owner number belongs)
    · have kind := (slots creation (Option.mem_toList.mp slot)).2
      cases creation with
      | settings column => cases belongs
      | _ => cases kind
  refine ⟨⟨overlay?, settings?, reported.events_eq, reported.mem_iff_absent, ?_, slots⟩,
    fun id => ?_, fun id => ?_, fun key name => ?_, fun name => ?_⟩
  · exact fun overlay same => ⟨(overlays overlay same).1.kind, (overlays overlay same).2⟩
  · rw [reported.createdEntity_mem_iff]
    constructor
    · rintro ⟨number, listed⟩
      obtain ⟨model, addressed, rfl⟩ := owned listed rfl
      exact ⟨model, addressed, reported.entity_mem_iff.mp listed⟩
    · rintro ⟨model, -, comes⟩
      exact ⟨model.number, reported.entity_mem_iff.mpr comes⟩
  · rw [reported.createdContainer_mem_iff]
    constructor
    · rintro ⟨number, listed⟩
      obtain ⟨model, addressed, rfl⟩ := owned listed rfl
      exact ⟨model, addressed, reported.container_mem_iff.mp listed⟩
    · rintro ⟨model, -, comes⟩
      exact ⟨model.number, reported.container_mem_iff.mpr comes⟩
  · rw [reported.createdOrphan_mem_iff]
    exact reported.mem_iff_absent (.orphan key name)
  · rw [reported.createdAttributeSettings_mem_iff]
    refine exists_congr fun column => and_congr_right fun _ => ?_
    exact reported.mem_iff_absent (.settings column)

/-- A run reports what comes into being in it, each thing once. -/
theorem Run.reported {before after : Store} {operations : List Operation}
    (run : Run before operations after) (sound : before.Sound) :
    ∃ creations, Reported before (Operation.log before operations) creations after := by
  induction run with
  | done => exact ⟨[], .unchanged (by simp [Operation.log])⟩
  | next permitted _ ih =>
      obtain ⟨overlay?, settings?, step, -, -⟩ := Operation.reports sound permitted
      obtain ⟨later, rest⟩ := ih (Operation.sound_perform sound permitted)
      exact ⟨_, step.append rest⟩

/-- After every run, each step reports what comes into being in it, once and in turn, and the run
as a whole has reported all that is there, each thing once. -/
theorem Run.creations_reported {operations : List Operation} {store : Store}
    (run : Run .empty operations store) :
    (∃ creations : List Creation, (Operation.log .empty operations).filter (·.isCreation) =
        creations.map Creation.event ∧
      creations.Nodup ∧ ∀ creation, creation ∈ creations ↔ creation.Present store) ∧
    ∀ operation : Operation, operation.isPermitted store = true →
      operation.ReportsCreations store := by
  have sound : store.Sound := run.sound .empty
  refine ⟨?_, fun operation permitted => Operation.reportsCreations sound permitted⟩
  obtain ⟨creations, reported⟩ := run.reported .empty
  refine ⟨creations, reported.events_eq, reported.nodup, fun creation => ?_⟩
  have absent : creation.Absent .empty := by cases creation <;> rfl
  rw [reported.mem_iff, and_iff_right absent.not_present]

/-! ## Settings of a column of which nothing was known -/

namespace Quay

def resolver : Resolver := ⟨0, {}, []⟩

def model : Model := ⟨0, "harbor"⟩

def ships : SchemaEntity := .unreadable ⟨"harbor", ["port", "ships"]⟩ "offline"

def berth : Column := ⟨"berth", "text", none, 0, true⟩

def tides : DetachedContainer := .query "harbor" "tides" "select * from tides"

def setup : List Operation :=
  [.createModel model.dataSource (.unreachable "offline"), .register resolver model,
    .findScope model ⟨"harbor", ["port"]⟩ true,
    .bindingSettings resolver (.ofDetached tides berth) true]

def store : Store := setup.foldl (fun store operation => operation.perform store) .empty

theorem run : Run .empty setup store := Run.of_permits (by decide)

/-- The settings of the column of an entity. -/
def request : Operation := .bindingSettings resolver (.ofEntity (.real ships) berth) true

/-- The request brings the entity and the settings into being and reports them in this order; asked
once more it reports nothing. -/
theorem creations_reported_ships :
    Run .empty setup store ∧ request.isPermitted store = true ∧
      (request.action store).events =
        [.createdEntity ships.id, .createdAttributeSettings "berth"] ∧
      request.ReportsCreations store ∧
      (request.action (request.perform store)).events = [] ∧
      ∃ creations : List Creation, (Operation.log .empty setup).filter (·.isCreation) =
        creations.map Creation.event ∧ creations.length = 3 := by
  obtain ⟨⟨creations, reported, -, -⟩, step⟩ := Run.creations_reported run
  refine ⟨run, by decide, by decide, step request (by decide), by decide, creations, reported, ?_⟩
  rw [← List.length_map, ← reported]
  decide

end Quay

end SchemaOverlay
