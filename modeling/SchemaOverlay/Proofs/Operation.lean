import SchemaOverlay.Overlay.Description
import SchemaOverlay.Overlay.Merge
import SchemaOverlay.Overlay.Selection

/-!
# Operations and runs

Everything that callers may do with the overlays, one operation at a time.  A
caller can only name an object that lives, because holding a name keeps what it
names alive.  A run carries out permitted operations in any order, by any number
of resolvers; the reachable stores are those that runs from the empty store lead
to.  Overlays of containers outside the schema are filed by resolvers and, under
any key, by callers.  The runs meant are those in which callers file there what
the place is for: an overlay of a container outside the schema that comes into
being as it is filed, and so neither one that was made before nor one that has
an identity.
-/

namespace SchemaOverlay

/-! ## What references name -/

/-- Whether the overlay that a reference names, if any, lives. -/
def EntityRef.lives (store : Store) : EntityRef → Bool
  | .real _ => true
  | .overlay entity => store.entityLives entity

/-- Whether the overlay that a reference names, if any, lives. -/
def ContainerRef.lives (store : Store) : ContainerRef → Bool
  | .entity owner => owner.lives store
  | .detached _ => true

/-- Whether every overlay that a binding names lives. -/
def Binding.lives (store : Store) (binding : Binding) : Bool :=
  binding.entity.all (·.lives store) && binding.container.lives store

/-- Whether the overlay that a reference names, if any, lives. -/
def ObjectRef.lives (store : Store) : ObjectRef → Bool
  | .real _ => true
  | .overlay object => store.lives object

/-! ## Operations -/

/-- Something that a caller does. -/
inductive Operation where
  | createModel (dataSource : String) (catalog : SchemaCatalog)
  | createSettings (contents : TransformSettings)
  | createDetached (model : Model) (name : String)
  | fileOrphan (model : Model) (key name : String)
  | register (resolver : Resolver) (model : Model)
  | entityById (model : Model) (id : ObjectId) (create : Bool)
  | findEntity (model : Model) (entity : SchemaEntity) (create : Bool)
  | findScope (model : Model) (id : ObjectId) (create : Bool)
  | findObject (model : Model) (object : RealObject) (create : Bool)
  | resolveEntity (resolver : Resolver) (entity : EntityRef) (create : Bool)
  | resolveContainer (resolver : Resolver) (container : ContainerRef) (create : Bool)
  | resolveBinding (resolver : Resolver) (binding : Binding) (create : Bool)
  | resolveObject (resolver : Resolver) (object : ObjectRef) (create : Bool)
  | findColumn (entity : EntityOverlay) (name : String) (create : Bool)
  | declareColumn (entity : EntityOverlay) (name typeName : String)
  | declareConstraint (entity : EntityOverlay) (constraint : Constraint)
  | declareForeignKey (entity : EntityOverlay) (key : Association)
  | describe (entity : EntityOverlay) (columns : Option String)
  | ownSettings (object : OverlayObject)
  | installSettings (entity : EntityOverlay) (id : SettingsId)
  | editSettings (id : SettingsId) (edit : TransformSettings.Edit)
  | columnSettings (column : ColumnOverlay) (create : Bool)
  | bindingSettings (resolver : Resolver) (binding : Binding) (create : Bool)
  | collectOptions (resolver : Resolver) (binding : Binding)
  | selectTransformers (resolver : Resolver) (binding : Binding) (custom : Option Bool)
  | constraints (resolver : Resolver) (entity : EntityRef)
  | associations (resolver : Resolver) (entity : EntityRef)
  | descriptionColumns (resolver : Resolver) (entity : EntityRef) (key : Column)
  | tryReal (entity : EntityRef)
  | retain (held : Held)
  | release (held : Held)

/-- The action with its value left aside. -/
def Action.silent {α : Type} (action : Action α) : Action Unit := fun store =>
  ⟨(), (action store).store, (action store).events⟩

namespace Operation

/-- Whether every object that the operation names lives. -/
def isPermitted (store : Store) : Operation → Bool
  | createModel _ _ | createSettings _ | release _ => true
  | createDetached model _ | fileOrphan model _ _ | register _ model | entityById model _ _
  | findEntity model _ _ | findScope model _ _ | findObject model _ _ => store.modelLives model
  | resolveEntity _ entity _ | constraints _ entity | associations _ entity
  | descriptionColumns _ entity _ | tryReal entity => entity.lives store
  | resolveContainer _ container _ => container.lives store
  | resolveBinding _ binding _ | bindingSettings _ binding _ | collectOptions _ binding
  | selectTransformers _ binding _ => binding.lives store
  | resolveObject _ object _ => object.lives store
  | findColumn entity _ _ | declareColumn entity _ _ | declareConstraint entity _
  | declareForeignKey entity _ | describe entity _ => store.entityLives entity
  | ownSettings object => store.lives object
  | installSettings entity id => store.entityLives entity && store.settingsLive id
  | editSettings id _ => store.settingsLive id
  | columnSettings column _ => store.columnLives column
  | retain held => store.isAlive held

/-- What the operation does to the store and what it reports. -/
def action : Operation → Action Unit
  | createModel dataSource catalog => (Model.create dataSource catalog).silent
  | createSettings contents => (SettingsId.create contents).silent
  | createDetached model name => (model.createDetached name).silent
  | fileOrphan model key name => (model.fileOrphan key name).silent
  | register resolver model => (resolver.register model).silent
  | entityById model id create => (model.entityById id create).silent
  | findEntity model entity create => (model.findEntity entity create).silent
  | findScope model id create => (model.findScope id create).silent
  | findObject model object create => (model.findObject object create).silent
  | resolveEntity resolver entity create => (resolver.resolveEntity entity create).silent
  | resolveContainer resolver container create =>
    (resolver.resolveContainer container create).silent
  | resolveBinding resolver binding create => (resolver.resolveBinding binding create).silent
  | resolveObject resolver object create => (resolver.resolveObject object create).silent
  | findColumn entity name create => (entity.findColumn name create).silent
  | declareColumn entity name typeName => (entity.declareColumn name typeName).silent
  | declareConstraint entity constraint => entity.declareConstraint constraint
  | declareForeignKey entity key => entity.declareForeignKey key
  | describe entity columns => entity.describe columns
  | ownSettings object => object.createSettings.silent
  | installSettings entity id => ((OverlayObject.entity entity).installSettings id).silent
  | editSettings id edit => id.edit edit
  | columnSettings column create => (column.resolveSettings create).silent
  | bindingSettings resolver binding create => (resolver.bindingSettings binding create).silent
  | collectOptions resolver binding => (resolver.collectOptions binding).silent
  | selectTransformers resolver binding custom =>
    (resolver.selectTransformers binding custom).silent
  | constraints resolver entity => (resolver.constraints entity).silent
  | associations resolver entity => (resolver.associations entity).silent
  | descriptionColumns resolver entity key => (resolver.descriptionColumns entity key).silent
  | tryReal entity => entity.tryReal.silent
  | retain held => Action.change (·.retain held)
  | release held => Action.change (·.release held)

def perform (operation : Operation) (store : Store) : Store := (operation.action store).store

/-- Whether the operation registers a model for a data source with the resolver of a number. -/
def registers (number : Nat) (dataSource : String) : Operation → Bool
  | register resolver model => resolver.number == number && model.dataSource == dataSource
  | _ => false

end Operation

/-! ## Runs -/

/-- Permitted operations, one after the other. -/
inductive Run : Store → List Operation → Store → Prop where
  | done {store : Store} : Run store [] store
  | next {store after : Store} {operation : Operation} {later : List Operation}
      (permitted : operation.isPermitted store = true)
      (run : Run (operation.perform store) later after) : Run store (operation :: later) after

namespace Run

variable {before middle after : Store} {first second : List Operation}

/-- One run after another is a run. -/
theorem append (front : Run before first middle) (back : Run middle second after) :
    Run before (first ++ second) after := by
  induction front with
  | done => exact back
  | next permitted _ ih => exact .next permitted (ih back)

/-- What every permitted operation keeps, a run keeps. -/
theorem keeps {property : Store → Prop} {operations : List Operation}
    (run : Run before operations after)
    (step : ∀ store operation, property store → Operation.isPermitted store operation = true →
      property (operation.perform store))
    (holds : property before) : property after := by
  induction run with
  | done => exact holds
  | next permitted _ ih => exact ih (step _ _ holds permitted)

/-- Whether each operation of a list is permitted when its turn comes. -/
def permits : Store → List Operation → Bool
  | _, [] => true
  | store, operation :: later =>
    operation.isPermitted store && permits (operation.perform store) later

/-- Permitted operations run to the store that they make one after the other. -/
theorem of_permits {store : Store} {operations : List Operation}
    (permitted : permits store operations = true) :
    Run store operations
      (operations.foldl (fun store operation => operation.perform store) store) := by
  induction operations generalizing store with
  | nil => exact .done
  | cons operation later ih =>
      rw [permits, Bool.and_eq_true] at permitted
      exact .next permitted.1 (ih permitted.2)

end Run

/-- Whether some run from the empty store leads to the store. -/
def Store.Reachable (store : Store) : Prop := ∃ operations, Run .empty operations store

namespace Store.Reachable

/-- What a run reaches from a reachable store is reachable. -/
theorem run {before after : Store} {operations : List Operation} (reachable : before.Reachable)
    (run : Run before operations after) : after.Reachable := by
  obtain ⟨earlier, front⟩ := reachable
  exact ⟨earlier ++ operations, front.append run⟩

end Store.Reachable

end SchemaOverlay
