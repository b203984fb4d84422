import SchemaOverlay.Overlay.Object
import SchemaOverlay.Transform.Settings

/-!
# The overlay store

Everything that changes: which models are registered, which overlays the models
hold, the overlays of containers outside the schema, what was declared on each
entity, the settings and the objects that own them.  An object lives as long as
its owner does or a caller holds it: a registered model keeps its scopes and
entities, an entity its columns, an object its settings.  Links from an object
to its owner keep nothing alive.
-/

namespace SchemaOverlay

/-- Scopes by the identities of their containers.  A walk outwards comes to an end because no scope
stands under any other identity than its own. -/
structure ScopeTable where
  entries : SortedMap ObjectId ScopeOverlay
  own : ∀ id scope, entries.get? id = some scope → scope.id = id

namespace ScopeTable

def empty : ScopeTable := ⟨.empty, fun _ _ found => nomatch found⟩

def get? (table : ScopeTable) (id : ObjectId) : Option ScopeOverlay := table.entries.get? id

/-- The table with one more scope. -/
def file (table : ScopeTable) (scope : ScopeOverlay) : ScopeTable where
  entries := table.entries.insert scope.id scope
  own id filed found := by
    rw [SortedMap.get?_insert] at found
    split at found
    · rename_i here
      cases found
      exact here.symm
    · exact table.own id filed found

@[simp] theorem get?_empty (id : ObjectId) : empty.get? id = none := rfl

theorem get?_file (table : ScopeTable) (scope : ScopeOverlay) (id : ObjectId) :
    (table.file scope).get? id = if id = scope.id then some scope else table.get? id :=
  SortedMap.get?_insert table.entries scope.id id scope

end ScopeTable

/-- What a model holds: the overlays, filed by the identities of what is underneath. -/
structure ModelState where
  /-- Finds the real entities underneath the overlays. -/
  catalog : SchemaCatalog
  scopes : ScopeTable
  entities : SortedMap ObjectId EntityOverlay

namespace ModelState

def ofCatalog (catalog : SchemaCatalog) : ModelState := ⟨catalog, .empty, .empty⟩

instance : Inhabited ModelState := ⟨ofCatalog ⟨fun _ => .ok none⟩⟩

end ModelState

/-- What was declared on an entity, in the order of the declarations. -/
structure Declarations where
  columns : List ColumnOverlay
  constraints : List Constraint
  foreignKeys : List Association
  /-- The columns that describe the entity's rows, as they were written. -/
  description : Option String
  deriving DecidableEq, Repr

namespace Declarations

def empty : Declarations := ⟨[], [], [], none⟩

instance : Inhabited Declarations := ⟨empty⟩

end Declarations

/-- What a caller holds on to. -/
inductive Held where
  | object (object : OverlayObject)
  | settings (id : SettingsId)
  deriving DecidableEq, Repr

/-- The models of a resolver by data source. -/
abbrev Registry := SortedMap String Model

/-- The state shared by all resolvers. -/
structure Store where
  /-- Numbers from here on are unused. -/
  fresh : Nat
  /-- The registered models, by the numbers of the resolvers. -/
  registries : SortedMap Nat Registry
  models : SortedMap Nat ModelState
  /-- The overlays of containers outside the schema, by key. -/
  orphans : SortedMap String EntityOverlay
  declarations : SortedMap Nat Declarations
  settings : SortedMap Nat TransformSettings
  /-- Which object owns which settings; the first entry of an object counts. -/
  slots : List (OverlayObject × SettingsId)
  /-- What callers hold on to, once for each time. -/
  held : List Held

namespace Store

/-- The store in which nothing was done yet. -/
def empty : Store := ⟨0, .empty, .empty, .empty, .empty, .empty, [], []⟩

instance : Inhabited Store := ⟨empty⟩

def registry (store : Store) (resolver : Nat) : Registry :=
  (store.registries.get? resolver).getD .empty

def modelState (store : Store) (model : Model) : ModelState :=
  (store.models.get? model.number).getD default

def declared (store : Store) (entity : EntityOverlay) : Declarations :=
  (store.declarations.get? entity.number).getD .empty

def contents (store : Store) (id : SettingsId) : TransformSettings :=
  (store.settings.get? id.number).getD .empty

/-- The settings that an object owns itself. -/
def ownSettings? (store : Store) (object : OverlayObject) : Option SettingsId :=
  (store.slots.find? fun slot => slot.1 == object).map (·.2)

/-- The scope that a model holds for a container. -/
def scope? (store : Store) (model : Model) (id : ObjectId) : Option ScopeOverlay :=
  (store.modelState model).scopes.get? id

/-- The overlay that a model holds for an entity. -/
def entity? (store : Store) (model : Model) (id : ObjectId) : Option EntityOverlay :=
  (store.modelState model).entities.get? id

/-- The entity overlays of a model, ordered by identity. -/
def entities (store : Store) (model : Model) : List EntityOverlay :=
  (store.modelState model).entities.values.mergeSort fun front back =>
    (compare front.id? back.id?).isLE

/-- The overlay of a column that was declared or asked for by name. -/
def column? (store : Store) (entity : EntityOverlay) (name : String) : Option ColumnOverlay :=
  (store.declared entity).columns.find? fun column => column.name == name

/-- The innermost existing scope around an identity, or else the model. -/
def nearestScope (store : Store) (model : Model) (id : ObjectId) : OverlayObject :=
  match id.ancestors.findSome? (store.scope? model) with
  | some scope => .scope scope
  | none => .model model

/-! ## Life time -/

/-- Whether a caller holds on to something. -/
def holds (store : Store) (held : Held) : Bool := store.held.contains held

/-- Whether some resolver has registered the model. -/
def isRegistered (store : Store) (model : Model) : Bool :=
  store.registries.values.any fun registry => registry.values.contains model

def modelLives (store : Store) (model : Model) : Bool :=
  store.isRegistered model || store.holds (.object (.model model))

def scopeLives (store : Store) (scope : ScopeOverlay) : Bool :=
  (store.modelLives scope.model && store.scope? scope.model scope.id == some scope)
    || store.holds (.object (.scope scope))

/-- Whether an entity overlay is among those that its model holds. -/
def isFiled (store : Store) (entity : EntityOverlay) : Bool :=
  match entity.id? with
  | some id => store.entity? entity.model id == some entity
  | none => false

def entityLives (store : Store) (entity : EntityOverlay) : Bool :=
  (store.modelLives entity.model && store.isFiled entity) || store.orphans.values.contains entity
    || store.holds (.object (.entity entity))

def columnLives (store : Store) (column : ColumnOverlay) : Bool :=
  (store.entityLives column.entity && (store.declared column.entity).columns.contains column)
    || store.holds (.object (.column column))

def lives (store : Store) : OverlayObject → Bool
  | .model model => store.modelLives model
  | .scope scope => store.scopeLives scope
  | .entity entity => store.entityLives entity
  | .column column => store.columnLives column

def settingsLive (store : Store) (id : SettingsId) : Bool :=
  store.slots.any (fun slot => slot.2 == id && store.lives slot.1) || store.holds (.settings id)

/-- Whether something that a caller may hold lives. -/
def isAlive (store : Store) : Held → Bool
  | .object object => store.lives object
  | .settings id => store.settingsLive id

/-! ## Updates -/

/-- The store in which a caller holds on to something once more. -/
def retain (store : Store) (held : Held) : Store := { store with held := held :: store.held }

/-- The store in which a caller holds on to something once less. -/
def release (store : Store) (held : Held) : Store := { store with held := store.held.erase held }

def updateModel (store : Store) (model : Model) (change : ModelState → ModelState) : Store :=
  { store with models := store.models.insert model.number (change (store.modelState model)) }

/-- Change what is declared on an entity. -/
def updateDeclared (store : Store) (entity : EntityOverlay) (change : Declarations → Declarations) :
    Store :=
  { store with
    declarations := store.declarations.insert entity.number (change (store.declared entity)) }

def updateContents (store : Store) (id : SettingsId) (contents : TransformSettings) : Store :=
  { store with settings := store.settings.insert id.number contents }

end Store

end SchemaOverlay
