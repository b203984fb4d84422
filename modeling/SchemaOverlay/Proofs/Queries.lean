import SchemaOverlay.Proofs.Operation

/-!
# Queries

Whoever looks an overlay up without the wish to create it, or asks for settings,
transformers or metadata, only reads.  Whatever the answer is, the store stays
as it is, and nothing is reported to have come into being.
-/

namespace SchemaOverlay

open SchemaOverlay.Action

/-! ## Quiet actions -/

/-- Whether an action leaves a store as it is and reports nothing that came into being. -/
structure Action.Quiet {α : Type} (action : Action α) (store : Store) : Prop where
  store_eq : (action store).store = store
  plain : ∀ event ∈ (action store).events, event.isCreation = false

namespace Action.Quiet

variable {α β : Type} {store : Store}

theorem pure (value : α) : (Pure.pure value : Action α).Quiet store := ⟨rfl, by simp⟩

theorem read (view : Store → α) : (Action.read view).Quiet store := ⟨rfl, by simp⟩

theorem report {event : Event} (plain : event.isCreation = false) :
    (Action.report event).Quiet store := ⟨rfl, by simpa using plain⟩

/-- Quiet actions one after the other read one and the same store. -/
theorem bind {first : Action α} {second : α → Action β} (front : first.Quiet store)
    (back : (second (first store).value).Quiet store) : (first >>= second).Quiet store := by
  constructor
  · rw [bind_apply, front.store_eq, back.store_eq]
  · intro event mem
    rw [bind_apply, front.store_eq] at mem
    rcases List.mem_append.mp mem with sooner | later
    · exact front.plain event sooner
    · exact back.plain event later

theorem read_bind {view : Store → α} {second : α → Action β}
    (back : (second (view store)).Quiet store) : (Action.read view >>= second).Quiet store :=
  .bind (.read view) back

theorem silent {action : Action α} (quiet : action.Quiet store) : action.silent.Quiet store :=
  ⟨quiet.store_eq, quiet.plain⟩

end Action.Quiet

/-! ## Look-ups without the wish to create -/

namespace Model

variable (model : Model) (store : Store)

theorem entityById_quiet (id : ObjectId) : (model.entityById id false).Quiet store := by
  unfold entityById
  split
  · exact .bind (.report rfl) (.pure _)
  · refine .read_bind ?_
    split
    · exact .pure _
    · exact .pure _

theorem findScope_quiet (id : ObjectId) : (model.findScope id false).Quiet store := by
  refine .read_bind ?_
  split
  · exact .pure _
  · exact .pure _

end Model

theorem EntityOverlay.findColumn_quiet (entity : EntityOverlay) (name : String) (store : Store) :
    (entity.findColumn name false).Quiet store := by
  refine .read_bind ?_
  split
  · exact .pure _
  · exact .pure _

theorem Model.findObject_quiet (model : Model) (object : RealObject) (store : Store) :
    (model.findObject object false).Quiet store := by
  unfold findObject
  cases object with
  | container id =>
      dsimp only
      split
      · exact .pure _
      · exact .bind (model.findScope_quiet store id) (.pure _)
  | entity entity => exact .bind (model.entityById_quiet store entity.id) (.pure _)
  | column entity column =>
      refine .bind (model.entityById_quiet store entity.id) ?_
      split
      · exact .pure _
      · rename_i overlay _
        exact .bind (overlay.findColumn_quiet column.name store) (.pure _)

namespace Resolver

variable (resolver : Resolver) (store : Store)

theorem requireModel_quiet (dataSource : String) :
    (resolver.requireModel dataSource).Quiet store := by
  refine .read_bind ?_
  split
  · exact .pure _
  · exact .bind (.report rfl) (.pure _)

theorem resolveEntity_quiet (entity : EntityRef) :
    (resolver.resolveEntity entity false).Quiet store := by
  cases entity with
  | overlay overlay => exact .pure _
  | real real =>
      refine .bind (resolver.requireModel_quiet store real.dataSource) ?_
      split
      · exact .pure _
      · rename_i model _
        exact model.entityById_quiet store real.id

theorem resolveContainer_quiet (container : ContainerRef) :
    (resolver.resolveContainer container false).Quiet store := by
  cases container with
  | entity entity => exact resolver.resolveEntity_quiet store entity
  | detached container => exact .read _

theorem resolveBinding_quiet (binding : Binding) :
    (resolver.resolveBinding binding false).Quiet store := by
  unfold resolveBinding
  split
  · exact resolver.resolveEntity_quiet store _
  · exact resolver.resolveContainer_quiet store binding.container

theorem resolveObject_quiet (object : ObjectRef) :
    (resolver.resolveObject object false).Quiet store := by
  cases object with
  | overlay overlay => exact .pure _
  | real real =>
      refine .bind (resolver.requireModel_quiet store real.dataSource) ?_
      split
      · exact .pure _
      · rename_i model _
        exact model.findObject_quiet real store

/-! ## Settings and what follows from them -/

theorem bindingSettings_quiet (binding : Binding) :
    (resolver.bindingSettings binding false).Quiet store := by
  refine .bind (resolver.resolveBinding_quiet store binding) ?_
  split
  · exact .pure _
  · rename_i entity _
    refine .bind (entity.findColumn_quiet binding.column.name store) ?_
    split
    · exact .pure _
    · exact .read _

theorem collectOptions_quiet (binding : Binding) :
    (resolver.collectOptions binding).Quiet store := by
  refine .bind (resolver.bindingSettings_quiet store binding) ?_
  split
  · exact .pure _
  · exact .read_bind (.pure _)

theorem selectTransformers_quiet (binding : Binding) (custom : Option Bool) :
    (resolver.selectTransformers binding custom).Quiet store := by
  unfold selectTransformers
  dsimp only
  split
  · exact .pure _
  · refine .bind (resolver.bindingSettings_quiet store binding) (.read_bind ?_)
    split
    · exact .pure _
    · exact .pure _

/-! ## Metadata -/

theorem merge_quiet {α : Type} (entity : EntityRef)
    (items : SchemaEntity → Except SourceError (List α)) (declared : Declarations → List α) :
    (resolver.merge entity items declared).Quiet store := by
  refine .read_bind ?_
  split
  · exact .pure _
  · refine .bind (resolver.resolveEntity_quiet store entity) ?_
    split
    · exact .pure _
    · exact .read_bind (.pure _)

theorem descriptionColumns_quiet (entity : EntityRef) (key : Column) :
    (resolver.descriptionColumns entity key).Quiet store := by
  refine .bind (resolver.resolveEntity_quiet store entity) (.read_bind ?_)
  split
  · exact .pure _
  · exact .read _

end Resolver

theorem EntityRef.tryReal_quiet (entity : EntityRef) (store : Store) :
    entity.tryReal.Quiet store := by
  refine .read_bind ?_
  split
  · exact .pure _
  · exact .bind (.report rfl) (.pure _)

/-! ## All queries -/

/-- Something that a caller asks, without the wish to create anything. -/
inductive Query where
  | entityById (model : Model) (id : ObjectId)
  | findEntity (model : Model) (entity : SchemaEntity)
  | findScope (model : Model) (id : ObjectId)
  | findObject (model : Model) (object : RealObject)
  | resolveEntity (resolver : Resolver) (entity : EntityRef)
  | resolveContainer (resolver : Resolver) (container : ContainerRef)
  | resolveBinding (resolver : Resolver) (binding : Binding)
  | resolveObject (resolver : Resolver) (object : ObjectRef)
  | findColumn (entity : EntityOverlay) (name : String)
  | columnSettings (column : ColumnOverlay)
  | bindingSettings (resolver : Resolver) (binding : Binding)
  | collectOptions (resolver : Resolver) (binding : Binding)
  | selectTransformers (resolver : Resolver) (binding : Binding) (custom : Option Bool)
  | constraints (resolver : Resolver) (entity : EntityRef)
  | associations (resolver : Resolver) (entity : EntityRef)
  | references (entity : EntityRef)
  | descriptionColumns (resolver : Resolver) (entity : EntityRef) (key : Column)
  | requireReal (entity : EntityRef)
  | tryReal (entity : EntityRef)

namespace Query

/-- What asking does, whatever the answer is. -/
def action : Query → Action Unit
  | entityById model id => (model.entityById id false).silent
  | findEntity model entity => (model.findEntity entity false).silent
  | findScope model id => (model.findScope id false).silent
  | findObject model object => (model.findObject object false).silent
  | resolveEntity resolver entity => (resolver.resolveEntity entity false).silent
  | resolveContainer resolver container => (resolver.resolveContainer container false).silent
  | resolveBinding resolver binding => (resolver.resolveBinding binding false).silent
  | resolveObject resolver object => (resolver.resolveObject object false).silent
  | findColumn entity name => (entity.findColumn name false).silent
  | columnSettings column => (column.resolveSettings false).silent
  | bindingSettings resolver binding => (resolver.bindingSettings binding false).silent
  | collectOptions resolver binding => (resolver.collectOptions binding).silent
  | selectTransformers resolver binding custom =>
    (resolver.selectTransformers binding custom).silent
  | constraints resolver entity => (resolver.constraints entity).silent
  | associations resolver entity => (resolver.associations entity).silent
  | references entity => (Action.read entity.references).silent
  | descriptionColumns resolver entity key => (resolver.descriptionColumns entity key).silent
  | requireReal entity => (Action.read entity.requireReal).silent
  | tryReal entity => entity.tryReal.silent

/-- Asking leaves the whole store as it is, whether there is an answer or none or a failure, and
reports nothing that came into being. -/
theorem changes_nothing (query : Query) (store : Store) :
    (query.action store).store = store ∧
      ∀ event ∈ (query.action store).events, event.isCreation = false := by
  have quiet : query.action.Quiet store := by
    cases query with
    | entityById model id => exact (model.entityById_quiet store id).silent
    | findEntity model entity => exact (model.entityById_quiet store entity.id).silent
    | findScope model id => exact (model.findScope_quiet store id).silent
    | findObject model object => exact (model.findObject_quiet object store).silent
    | resolveEntity resolver entity => exact (resolver.resolveEntity_quiet store entity).silent
    | resolveContainer resolver container =>
        exact (resolver.resolveContainer_quiet store container).silent
    | resolveBinding resolver binding =>
        exact (resolver.resolveBinding_quiet store binding).silent
    | resolveObject resolver object => exact (resolver.resolveObject_quiet store object).silent
    | findColumn entity name => exact (entity.findColumn_quiet name store).silent
    | columnSettings column => exact (Quiet.read _).silent
    | bindingSettings resolver binding =>
        exact (resolver.bindingSettings_quiet store binding).silent
    | collectOptions resolver binding =>
        exact (resolver.collectOptions_quiet store binding).silent
    | selectTransformers resolver binding custom =>
        exact (resolver.selectTransformers_quiet store binding custom).silent
    | constraints resolver entity => exact (resolver.merge_quiet store entity _ _).silent
    | associations resolver entity => exact (resolver.merge_quiet store entity _ _).silent
    | references entity => exact (Quiet.read _).silent
    | descriptionColumns resolver entity key =>
        exact (resolver.descriptionColumns_quiet store entity key).silent
    | requireReal entity => exact (Quiet.read _).silent
    | tryReal entity => exact (entity.tryReal_quiet store).silent
  exact ⟨quiet.store_eq, quiet.plain⟩

end Query

end SchemaOverlay
