import SchemaOverlay.Proofs.Lookup

/-!
# Operations as changes

Every permitted operation on a sound store makes allowed changes, and only of
the kinds listed for it: a query makes none but reports, a resolution makes
overlays, and so on.  Sound stores therefore stay sound along every run.
-/

namespace SchemaOverlay

open SchemaOverlay.Action

namespace Change.Kind

/-- Reports, and with `create` set the given kinds as well. -/
def creating (create : Bool) (kinds : List Kind) : List Kind :=
  .report :: if create then kinds else []

@[simp] theorem mem_creating {create : Bool} {kinds : List Kind} {kind : Kind} :
    kind ∈ creating create kinds ↔ kind = .report ∨ create = true ∧ kind ∈ kinds := by
  cases create <;> simp [creating]

theorem report_mem_creating (create : Bool) (kinds : List Kind) :
    .report ∈ creating create kinds := List.mem_cons_self

theorem creating_subset (create : Bool) {fewer kinds : List Kind} (included : fewer ⊆ kinds) :
    creating create fewer ⊆ creating create kinds := by
  cases create with
  | false => exact List.Subset.refl _
  | true => exact List.cons_subset_cons _ included

end Change.Kind

open Change.Kind

/-- Models live on while nothing is registered or let go. -/
theorem Action.Makes.modelLives {α : Type} {action : Action α} {store : Store}
    {kinds : List Change.Kind} (makes : action.Makes store kinds)
    (other : .registry ∉ kinds ∧ .hold ∉ kinds) {model : Model}
    (lives : store.modelLives model = true) : (action store).store.modelLives model = true := by
  refine makes.keeps (fun store => store.modelLives model = true) ?_ lives
  intro store change kind lives allowed
  refine Change.modelLives_apply allowed ?_ lives
  rw [List.mem_cons, List.mem_singleton]
  rintro (registry | hold)
  · exact other.1 (registry ▸ kind)
  · exact other.2 (hold ▸ kind)

theorem Action.Makes.sound {α : Type} {action : Action α} {store : Store}
    {kinds : List Change.Kind} (makes : action.Makes store kinds) (sound : store.Sound) :
    (action store).store.Sound := by
  obtain ⟨changes, trace, -⟩ := makes
  exact trace.sound sound

/-- Reports alone leave the store as it is. -/
theorem Action.Makes.store_eq {α : Type} {action : Action α} {store : Store}
    (makes : action.Makes store [.report]) : (action store).store = store := by
  obtain ⟨changes, trace, listed⟩ := makes
  exact trace.eq_of_reports fun change mem => List.mem_singleton.mp (listed change mem)

namespace Action.Makes

variable {α : Type} {action : Action α} {store : Store} {kinds : List Change.Kind}

/-- Only registering a model touches the registries. -/
theorem registries (makes : action.Makes store kinds) (other : .registry ∉ kinds) :
    (action store).store.registries = store.registries :=
  makes.view_eq Store.registries (fun _ _ => Change.registries_apply) other

/-- Only new overlays of detached containers touch the orphans. -/
theorem orphans (makes : action.Makes store kinds) (other : .orphan ∉ kinds) :
    (action store).store.orphans = store.orphans :=
  makes.view_eq Store.orphans (fun _ _ => Change.orphans_apply) other

theorem model? (makes : action.Makes store kinds) (other : .registry ∉ kinds) (resolver : Resolver)
    (dataSource : String) :
    resolver.model? dataSource (action store).store = resolver.model? dataSource store := by
  simp only [Resolver.model?, Store.registry, makes.registries other]

/-- Columns, other declarations and settings leave alive what lives. -/
theorem entityLives (makes : action.Makes store kinds)
    (inner : kinds ⊆ [.report, .column, .declaration, .slot, .contents])
    (entity : EntityOverlay) :
    (action store).store.entityLives entity = store.entityLives entity := by
  refine makes.keeps (fun later => later.entityLives entity = store.entityLives entity) ?_ rfl
  intro later change listed same allowed
  rw [Change.entityLives_apply allowed (inner listed), same]

end Action.Makes

/-! ## Look-ups -/

namespace Model

variable {store : Store} {model : Model}

theorem entityById_makes (lives : store.modelLives model = true) (id : ObjectId) (create : Bool) :
    (model.entityById id create).Makes store (creating create [.entity]) := by
  unfold entityById
  split
  · exact .bind (.report rfl (report_mem_creating _ _)) (.pure _)
  · rename_i own
    refine .read_bind ?_
    split
    · exact .pure _
    · rename_i absent
      cases create with
      | false => exact .pure _
      | true =>
          refine .bind ?_ (.pure _)
          refine .single (.addEntity model id) rfl ?_ (by simp [creating, Change.kind])
          exact ⟨lives, Decidable.not_not.mp own, absent⟩

theorem findScope_makes (lives : store.modelLives model = true) (id : ObjectId) (create : Bool) :
    (model.findScope id create).Makes store (creating create [.scope]) := by
  unfold findScope
  refine .read_bind ?_
  split
  · exact .pure _
  · rename_i absent
    split
    · rename_i wanted
      simp only [Bool.and_eq_true, Bool.not_eq_true', beq_iff_eq] at wanted
      obtain ⟨⟨rfl, inner⟩, own⟩ := wanted
      refine .bind ?_ (.pure _)
      refine .single (.addScope model id) rfl ?_ (by simp [creating, Change.kind])
      exact ⟨lives, own, inner, absent⟩
    · exact .pure _

theorem fileOrphan_makes (lives : store.modelLives model = true) (key name : String) :
    (model.fileOrphan key name).Makes store [.orphan] := by
  unfold fileOrphan
  refine .read_bind ?_
  split
  · exact .pure _
  · rename_i absent
    exact .single (.addOrphan model key name) rfl ⟨lives, absent⟩ (by simp [Change.kind])

theorem entityLives_of_entityById (sound : store.Sound) (lives : store.modelLives model = true)
    {id : ObjectId} {create : Bool} {entity : EntityOverlay}
    (found : (model.entityById id create store).value = some entity) :
    (model.entityById id create store).store.entityLives entity = true := by
  have makes := entityById_makes lives id create
  obtain ⟨ledger, after⟩ := makes.sound sound
  refine after.entityLives_of_filed ?_ (entity?_of_entityById found).2
  refine makes.modelLives ?_ lives
  cases create <;> decide

end Model

namespace EntityOverlay

variable {store : Store} {entity : EntityOverlay}

theorem findColumn_makes (lives : store.entityLives entity = true) (name : String)
    (create : Bool) : (entity.findColumn name create).Makes store (creating create [.column]) := by
  unfold findColumn
  refine .read_bind ?_
  split
  · exact .pure _
  · rename_i absent
    cases create with
    | false => exact .pure _
    | true =>
        refine .bind ?_ (.pure _)
        refine .single (.addColumn entity name none) rfl ?_
          (by simp [creating, Change.kind])
        exact ⟨lives, absent⟩

/-- A column that a living entity yields lives. -/
theorem columnLives_of_findColumn (sound : store.Sound) (lives : store.entityLives entity = true)
    {name : String} {create : Bool} {column : ColumnOverlay}
    (found : (entity.findColumn name create store).value = some column) :
    (entity.findColumn name create store).store.columnLives column = true := by
  have makes := findColumn_makes lives name create
  obtain ⟨ledger, after⟩ := makes.sound sound
  have alive : (entity.findColumn name create store).store.entityLives entity = true := by
    rw [makes.entityLives (by cases create <;> simp [creating]), lives]
  have declared := (Store.column?_mem (column?_of_findColumn found)).1
  have owner := ((after.declared_recorded (after.has_entity alive)).columns _ declared).1
  exact Store.columnLives_iff.mpr (.inl (by rw [owner]; exact ⟨alive, declared⟩))

theorem declareColumn_makes (lives : store.entityLives entity = true) (name typeName : String) :
    (entity.declareColumn name typeName).Makes store [.column] := by
  unfold declareColumn
  refine .read_bind ?_
  split
  · exact .pure _
  · rename_i absent
    refine .single (.addColumn entity name (some typeName)) rfl ?_
      (by simp [Change.kind])
    exact ⟨lives, absent⟩

end EntityOverlay

namespace Model

variable {store : Store} {model : Model}

theorem findObject_makes (sound : store.Sound) (lives : store.modelLives model = true)
    (object : RealObject) (create : Bool) :
    (model.findObject object create).Makes store (creating create [.entity, .scope, .column]) := by
  have entities : creating create [.entity] ⊆ creating create [.entity, .scope, .column] :=
    creating_subset create (by simp)
  unfold findObject
  cases object with
  | container id =>
      dsimp only
      split
      · exact .pure _
      · refine .bind ?_ (.pure _)
        exact (findScope_makes lives id create).mono (creating_subset create (by simp))
  | entity entity =>
      exact .bind ((entityById_makes lives entity.id create).mono entities) (.pure _)
  | column entity column =>
      refine .bind ((entityById_makes lives entity.id create).mono entities) ?_
      split
      · exact .pure _
      · rename_i overlay found
        refine .bind ?_ (.pure _)
        refine (EntityOverlay.findColumn_makes ?_ column.name create).mono
          (creating_subset create (by simp))
        exact entityLives_of_entityById sound lives found

end Model

namespace Resolver

variable {store : Store} {resolver : Resolver}

theorem requireModel_makes (dataSource : String) {kinds : List Change.Kind}
    (listed : .report ∈ kinds) : (resolver.requireModel dataSource).Makes store kinds := by
  unfold requireModel
  refine .read_bind ?_
  split
  · exact .pure _
  · exact .bind (.report rfl listed) (.pure _)

theorem modelLives_of_model? {dataSource : String} {model : Model}
    (found : resolver.model? dataSource store = some model) : store.modelLives model = true :=
  Store.modelLives_of_registered found

theorem resolveEntity_makes (entity : EntityRef) (create : Bool) :
    (resolver.resolveEntity entity create).Makes store (creating create [.entity]) := by
  cases entity with
  | overlay overlay => exact .pure _
  | real real =>
      refine .bind (requireModel_makes _ (report_mem_creating _ _)) ?_
      cases found : resolver.model? real.dataSource store with
      | none =>
          rw [requireModel_of_none found]
          exact .pure _
      | some model =>
          rw [requireModel_of_some found]
          exact Model.entityById_makes (modelLives_of_model? found) real.id create

theorem entityLives_of_resolveEntity (sound : store.Sound) {entity : EntityRef} {create : Bool}
    (lives : entity.lives store = true) {overlay : EntityOverlay}
    (resolved : (resolver.resolveEntity entity create store).value = some overlay) :
    (resolver.resolveEntity entity create store).store.entityLives overlay = true := by
  cases entity with
  | overlay own =>
      cases resolved
      exact lives
  | real real =>
      simp only [resolveEntity, bind_apply] at resolved ⊢
      cases found : resolver.model? real.dataSource store with
      | none =>
          rw [requireModel_of_none found] at resolved
          cases resolved
      | some model =>
          rw [requireModel_of_some found] at resolved ⊢
          exact Model.entityLives_of_entityById sound (modelLives_of_model? found) resolved

theorem resolveDetached_makes (container : DetachedContainer) (create : Bool) :
    (resolver.resolveDetached container create).Makes store (creating create [.orphan]) := by
  unfold resolveDetached
  cases create with
  | false => exact .read _
  | true =>
      refine .bind (requireModel_makes _ (report_mem_creating _ _)) ?_
      cases found : resolver.model? container.dataSource store with
      | none =>
          rw [requireModel_of_none found]
          exact .pure _
      | some model =>
          rw [requireModel_of_some found]
          refine .bind ?_ (.pure _)
          exact (Model.fileOrphan_makes (modelLives_of_model? found) container.key
            container.name).mono (by simp [creating])

theorem entityLives_of_resolveDetached {container : DetachedContainer} {create : Bool}
    {overlay : EntityOverlay}
    (resolved : (resolver.resolveDetached container create store).value = some overlay) :
    (resolver.resolveDetached container create store).store.entityLives overlay = true :=
  Store.entityLives_iff.mpr (.inr (.inl ⟨_, orphan_of_resolveDetached resolved⟩))

theorem resolveContainer_makes (container : ContainerRef) (create : Bool) :
    (resolver.resolveContainer container create).Makes store
      (creating create [.entity, .orphan]) := by
  cases container with
  | entity entity =>
      exact (resolveEntity_makes entity create).mono (creating_subset create (by simp))
  | detached container =>
      exact (resolveDetached_makes container create).mono (creating_subset create (by simp))

theorem entityLives_of_resolveContainer (sound : store.Sound) {container : ContainerRef}
    {create : Bool} (lives : container.lives store = true) {overlay : EntityOverlay}
    (resolved : (resolver.resolveContainer container create store).value = some overlay) :
    (resolver.resolveContainer container create store).store.entityLives overlay = true := by
  cases container with
  | entity entity => exact entityLives_of_resolveEntity sound lives resolved
  | detached container => exact entityLives_of_resolveDetached resolved

theorem resolveBinding_makes (binding : Binding) (create : Bool) :
    (resolver.resolveBinding binding create).Makes store (creating create [.entity, .orphan]) := by
  unfold resolveBinding
  split
  · rename_i entity _
    exact (resolveEntity_makes entity create).mono (creating_subset create (by simp))
  · exact resolveContainer_makes binding.container create

theorem entityLives_of_resolveBinding (sound : store.Sound) {binding : Binding} {create : Bool}
    (lives : binding.lives store = true) {overlay : EntityOverlay}
    (resolved : (resolver.resolveBinding binding create store).value = some overlay) :
    (resolver.resolveBinding binding create store).store.entityLives overlay = true := by
  obtain ⟨column, owner, container⟩ := binding
  rw [Binding.lives, Bool.and_eq_true] at lives
  cases owner with
  | none => exact entityLives_of_resolveContainer sound lives.2 resolved
  | some entity => exact entityLives_of_resolveEntity sound (by simpa using lives.1) resolved

theorem resolveObject_makes (sound : store.Sound) (object : ObjectRef) (create : Bool) :
    (resolver.resolveObject object create).Makes store
      (creating create [.entity, .scope, .column]) := by
  cases object with
  | overlay overlay => exact .pure _
  | real real =>
      refine .bind (requireModel_makes _ (report_mem_creating _ _)) ?_
      cases found : resolver.model? real.dataSource store with
      | none =>
          rw [requireModel_of_none found]
          exact .pure _
      | some model =>
          rw [requireModel_of_some found]
          exact Model.findObject_makes sound (modelLives_of_model? found) real create

end Resolver

/-! ## Settings -/

namespace OverlayObject

variable {store : Store}

theorem createSettings_makes (object : OverlayObject) (lives : store.lives object = true) :
    object.createSettings.Makes store [.slot] := by
  cases own : store.ownSettings? object with
  | some id =>
      refine ⟨[], ?_, by simp⟩
      rw [createSettings_of_some own]
      exact .done
  | none => exact .single (.createSettings object) rfl ⟨lives, own⟩ (by simp [Change.kind])

theorem installSettings_makes (object : OverlayObject) (lives : store.lives object = true)
    {id : SettingsId} (alive : store.settingsLive id = true) :
    (object.installSettings id).Makes store [.slot] := by
  cases own : store.ownSettings? object with
  | some former =>
      refine ⟨[], ?_, by simp⟩
      rw [installSettings_of_some own]
      exact .done
  | none =>
      exact .single (.installSettings object id) rfl ⟨lives, alive, own⟩
        (by simp [Change.kind])

end OverlayObject

theorem ColumnOverlay.resolveSettings_makes {store : Store} {column : ColumnOverlay}
    (lives : store.columnLives column = true) (create : Bool) :
    (column.resolveSettings create).Makes store (creating create [.slot]) := by
  cases create with
  | false => exact .read _
  | true =>
      refine .bind ?_ (.pure _)
      exact (OverlayObject.createSettings_makes (.column column) lives).mono
        (List.subset_cons_self _ _)

namespace Resolver

variable {store : Store} {resolver : Resolver}

theorem bindingSettings_makes (sound : store.Sound) {binding : Binding}
    (lives : binding.lives store = true) (create : Bool) :
    (resolver.bindingSettings binding create).Makes store
      (creating create [.entity, .orphan, .column, .slot]) := by
  have resolves : (resolver.resolveBinding binding create).Makes store _ :=
    resolveBinding_makes binding create
  refine .bind (resolves.mono (creating_subset create (by simp))) ?_
  cases resolved : (resolver.resolveBinding binding create store).value with
  | none => exact .pure _
  | some entity =>
      have alive := entityLives_of_resolveBinding sound lives resolved
      refine .bind ((EntityOverlay.findColumn_makes alive binding.column.name create).mono
        (creating_subset create (by simp))) ?_
      split
      · exact .pure _
      · rename_i column found
        refine (ColumnOverlay.resolveSettings_makes ?_ create).mono
          (creating_subset create (by simp))
        exact EntityOverlay.columnLives_of_findColumn (resolves.sound sound) alive found

/-- With `create` set the binding leads to a living column, which gets settings, or nowhere. -/
theorem bindingSettings_cases (sound : store.Sound) {binding : Binding}
    (lives : binding.lives store = true) :
    (resolver.bindingSettings binding true store).store =
        (resolver.resolveBinding binding true store).store ∨
      ∃ entity column,
        (resolver.resolveBinding binding true store).store.entityLives entity = true ∧
        (entity.findColumn binding.column.name true
          (resolver.resolveBinding binding true store).store).value = some column ∧
        (entity.findColumn binding.column.name true
          (resolver.resolveBinding binding true store).store).store.columnLives column = true ∧
        (resolver.bindingSettings binding true store).store =
          ((OverlayObject.column column).createSettings (entity.findColumn binding.column.name true
            (resolver.resolveBinding binding true store).store).store).store := by
  have resolves : (resolver.resolveBinding binding true).Makes store _ :=
    resolveBinding_makes binding true
  simp only [bindingSettings, bind_apply]
  cases resolved : (resolver.resolveBinding binding true store).value with
  | none => exact .inl rfl
  | some entity =>
      have alive := entityLives_of_resolveBinding sound lives resolved
      obtain ⟨column, found⟩ := EntityOverlay.exists_findColumn entity binding.column.name
        (resolver.resolveBinding binding true store).store
      have living := EntityOverlay.columnLives_of_findColumn (resolves.sound sound) alive found
      refine .inr ⟨entity, column, alive, found, living, ?_⟩
      simp only [bind_apply, found, ColumnOverlay.resolveSettings, if_true]
      rfl

/-! ## Queries -/

theorem collectOptions_makes (sound : store.Sound) {binding : Binding}
    (lives : binding.lives store = true) :
    (resolver.collectOptions binding).Makes store [.report] := by
  refine .bind (bindingSettings_makes sound lives false) ?_
  split
  · exact .pure _
  · exact .read_bind (.pure _)

theorem selectTransformers_makes (sound : store.Sound) {binding : Binding}
    (lives : binding.lives store = true) (custom : Option Bool) :
    (resolver.selectTransformers binding custom).Makes store [.report] := by
  unfold selectTransformers
  dsimp only
  split
  · exact .pure _
  · refine .bind (bindingSettings_makes sound lives false) (.read_bind ?_)
    split
    · exact .pure _
    · exact .pure _

theorem merge_makes {α : Type} (entity : EntityRef)
    (items : SchemaEntity → Except SourceError (List α)) (declared : Declarations → List α) :
    (resolver.merge entity items declared).Makes store [.report] := by
  refine .read_bind ?_
  split
  · exact .pure _
  · refine .bind (resolveEntity_makes entity false) ?_
    split
    · exact .pure _
    · exact .read_bind (.pure _)

theorem descriptionColumns_makes (entity : EntityRef) (key : Column) :
    (resolver.descriptionColumns entity key).Makes store [.report] := by
  refine .bind (resolveEntity_makes entity false) (.read_bind ?_)
  split
  · exact .pure _
  · exact .read _

end Resolver

theorem EntityRef.tryReal_makes {store : Store} (entity : EntityRef) :
    entity.tryReal.Makes store [.report] := by
  refine .read_bind ?_
  split
  · exact .pure _
  · exact .bind (.report rfl (by simp)) (.pure _)

/-! ## Operations -/

namespace Operation

/-- The kinds of changes that an operation may make. -/
def kinds : Operation → List Change.Kind
  | createModel _ _ => [.model]
  | createSettings _ => [.settings]
  | createDetached _ _ => [.detached]
  | fileOrphan _ _ _ => [.orphan]
  | register _ _ => [.registry]
  | entityById _ _ create | findEntity _ _ create | resolveEntity _ _ create =>
    creating create [.entity]
  | findScope _ _ create => creating create [.scope]
  | findObject _ _ create | resolveObject _ _ create => creating create [.entity, .scope, .column]
  | resolveContainer _ _ create | resolveBinding _ _ create => creating create [.entity, .orphan]
  | findColumn _ _ create => creating create [.column]
  | declareColumn _ _ _ => [.column]
  | declareConstraint _ _ | declareForeignKey _ _ | describe _ _ => [.declaration]
  | ownSettings _ | installSettings _ _ => [.slot]
  | editSettings _ _ => [.contents]
  | columnSettings _ create => creating create [.slot]
  | bindingSettings _ _ create => creating create [.entity, .orphan, .column, .slot]
  | collectOptions _ _ | selectTransformers _ _ _ | constraints _ _ | associations _ _
  | descriptionColumns _ _ _ | tryReal _ => [.report]
  | retain _ | release _ => [.hold]

/-- A permitted operation makes allowed changes of its kinds. -/
theorem makes {store : Store} {operation : Operation} (sound : store.Sound)
    (permitted : operation.isPermitted store = true) :
    operation.action.Makes store operation.kinds := by
  cases operation with
  | createModel dataSource catalog =>
      exact .single (.addModel dataSource catalog) rfl trivial (by simp [kinds, Change.kind])
  | createSettings contents =>
      exact .single (.addSettings contents) rfl trivial (by simp [kinds, Change.kind])
  | createDetached model name =>
      exact .single (.addDetached model name) rfl permitted (by simp [kinds, Change.kind])
  | fileOrphan model key name => exact Model.fileOrphan_makes permitted key name
  | register resolver model =>
      exact .single (.register resolver model) rfl permitted (by simp [kinds, Change.kind])
  | entityById model id create => exact Model.entityById_makes permitted id create
  | findEntity model entity create => exact Model.entityById_makes permitted entity.id create
  | findScope model id create => exact Model.findScope_makes permitted id create
  | findObject model object create => exact Model.findObject_makes sound permitted object create
  | resolveEntity resolver entity create => exact Resolver.resolveEntity_makes entity create
  | resolveContainer resolver container create =>
      exact Resolver.resolveContainer_makes container create
  | resolveBinding resolver binding create =>
      exact Resolver.resolveBinding_makes binding create
  | resolveObject resolver object create => exact Resolver.resolveObject_makes sound object create
  | findColumn entity name create => exact EntityOverlay.findColumn_makes permitted name create
  | declareColumn entity name typeName =>
      exact EntityOverlay.declareColumn_makes permitted name typeName
  | declareConstraint entity constraint =>
      exact .single (.declareConstraint entity constraint) rfl permitted
        (by simp [kinds, Change.kind])
  | declareForeignKey entity key =>
      exact .single (.declareForeignKey entity key) rfl permitted
        (by simp [kinds, Change.kind])
  | describe entity columns =>
      exact .single (.describe entity columns) rfl permitted
        (by simp [kinds, Change.kind])
  | ownSettings object => exact OverlayObject.createSettings_makes object permitted
  | installSettings entity id =>
      simp only [isPermitted, Bool.and_eq_true] at permitted
      exact OverlayObject.installSettings_makes (.entity entity) permitted.1 permitted.2
  | editSettings id update =>
      exact .single (.edit id update) rfl permitted (by simp [kinds, Change.kind])
  | columnSettings column create => exact ColumnOverlay.resolveSettings_makes permitted create
  | bindingSettings resolver binding create =>
      exact Resolver.bindingSettings_makes sound permitted create
  | collectOptions resolver binding => exact Resolver.collectOptions_makes sound permitted
  | selectTransformers resolver binding custom =>
      exact Resolver.selectTransformers_makes sound permitted custom
  | constraints resolver entity => exact Resolver.merge_makes entity _ _
  | associations resolver entity => exact Resolver.merge_makes entity _ _
  | descriptionColumns resolver entity key => exact Resolver.descriptionColumns_makes entity key
  | tryReal entity => exact EntityRef.tryReal_makes entity
  | retain held =>
      exact .single (.retain held) rfl permitted (by simp [kinds, Change.kind])
  | release held =>
      exact .single (.release held) rfl trivial (by simp [kinds, Change.kind])

theorem sound_perform {store : Store} {operation : Operation} (sound : store.Sound)
    (permitted : operation.isPermitted store = true) : (operation.perform store).Sound :=
  (makes sound permitted).sound sound

end Operation

/-! ## Runs -/

theorem Run.sound {before after : Store} {operations : List Operation}
    (run : Run before operations after) (sound : before.Sound) : after.Sound :=
  run.keeps (fun _ _ sound permitted => Operation.sound_perform sound permitted) sound

/-- Every reachable store is sound. -/
theorem Store.Reachable.sound {store : Store} (reachable : store.Reachable) : store.Sound := by
  obtain ⟨operations, run⟩ := reachable
  exact run.sound .empty

end SchemaOverlay
