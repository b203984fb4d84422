import SchemaOverlay.Overlay.Real
import SchemaOverlay.Overlay.Resolver

/-!
# Merged metadata

What the schema and the overlay say about an entity together: first what the
schema layer reports, in its order, then what was declared, in the order of the
declarations.  Declared foreign keys are not reported as references.
-/

namespace SchemaOverlay

/-- An item with where it comes from. -/
inductive Merged (α : Type) where
  | real (item : α)
  | declared (item : α)
  deriving DecidableEq, Repr

namespace Merged

variable {α : Type}

def item : Merged α → α
  | .real item => item
  | .declared item => item

/-- Whether the item was declared on an overlay. -/
def isDeclared : Merged α → Bool
  | .real _ => false
  | .declared _ => true

end Merged

namespace EntityRef

variable {α : Type}

/-- What the schema layer reports about the entity behind a reference; nothing without one. -/
def realItems (entity : EntityRef) (items : SchemaEntity → Except SourceError (List α))
    (store : Store) : Except OverlayError (List (Merged α)) :=
  match entity.real? store with
  | .error error => .error error
  | .ok none => .ok []
  | .ok (some schemaEntity) =>
    match items schemaEntity with
    | .error error => .error (.metadataAccess error)
    | .ok listed => .ok (listed.map .real)

end EntityRef

namespace Resolver

variable {α : Type}

/-- What the schema layer reports about an entity, then what its overlay declares. -/
def merge (resolver : Resolver) (entity : EntityRef)
    (items : SchemaEntity → Except SourceError (List α)) (declared : Declarations → List α) :
    Action (Except OverlayError (List (Merged α))) := do
  match ← Action.read (entity.realItems items) with
  | .error error => return .error error
  | .ok reported =>
    match ← resolver.resolveEntity entity false with
    | none => return .ok reported
    | some overlay =>
      let declarations ← Action.read (·.declared overlay)
      return .ok (reported ++ (declared declarations).map .declared)

def constraints (resolver : Resolver) (entity : EntityRef) :
    Action (Except OverlayError (List (Merged Constraint))) :=
  resolver.merge entity (·.constraints) (·.constraints)

def associations (resolver : Resolver) (entity : EntityRef) :
    Action (Except OverlayError (List (Merged Association))) :=
  resolver.merge entity (·.associations) (·.foreignKeys)

end Resolver

/-- The foreign keys that lead to an entity, as the schema layer reports them. -/
def EntityRef.references (entity : EntityRef) (store : Store) :
    Except OverlayError (List (Merged Association)) :=
  entity.realItems (·.references) store

end SchemaOverlay
