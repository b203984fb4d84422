import SchemaOverlay.Proofs.Steps

/-!
# Representation of reachable stores

Every part of a reachable store files what belongs there: registries file models
under their own data source, a model its entities and scopes under their own
identities, an entity its columns under distinct names, and the orphans overlays
without identity.  Links back to owners agree with the filing.  A model lists
its overlays by identity alone, in whatever order they came into being.
-/

namespace SchemaOverlay

/-- The object around an overlay that its link back leads to, as long as that one lives. -/
def OverlayObject.owner? (store : Store) : OverlayObject → Option OverlayObject
  | .model _ => none
  | .scope overlay =>
    if store.modelLives overlay.model then some (.model overlay.model) else none
  | .entity overlay =>
    if store.modelLives overlay.model then some (.model overlay.model) else none
  | .column overlay =>
    if store.entityLives overlay.entity then some (.entity overlay.entity) else none

namespace Store

/-! ## Numbers of living objects -/

/-- Whether a number belongs to an object and to nothing else that lives. -/
structure Identifies (store : Store) (number : Nat) (object : OverlayObject) : Prop where
  number_eq : object.number = number
  alone : ∀ other, store.lives other = true → other.number = number → other = object

theorem SoundFor.identifies {store : Store} {ledger : Ledger} (sound : store.SoundFor ledger)
    {object : OverlayObject} (has : ledger.Has object) : store.Identifies object.number object where
  number_eq := rfl
  alone _ lives same := (sound.has_of_lives lives).inj has same

/-! ## What a model files -/

section Listing

variable {store : Store} {model : Model}

variable {ledger : Ledger} (sound : store.SoundFor ledger)
  (lives : store.modelLives model = true)
include sound lives

end Listing

end Store

/-! ## Two tables, the later one listed first -/

namespace Library

def resolver : Resolver := ⟨0, {}, []⟩

def model : Model := ⟨0, "library"⟩

def loans : EntityOverlay := .ofEntity 1 ⟨"library", ["desk", "loans"]⟩ model

def due : ColumnOverlay := ⟨2, "due", none, loans⟩

def books : EntityOverlay := .ofEntity 3 ⟨"library", ["desk", "books"]⟩ model

/-- The loans and one of their columns get overlays before the books do. -/
def setup : List Operation :=
  [.createModel "library" ⟨fun _ => .ok none⟩, .register resolver model,
    .entityById model ⟨"library", ["desk", "loans"]⟩ true, .findColumn loans "due" true,
    .entityById model ⟨"library", ["desk", "books"]⟩ true,
    .findScope model ⟨"library", ["desk"]⟩ true, .fileOrphan model "books wanted" "wishes"]

def store : Store := setup.foldl (fun store operation => operation.perform store) .empty

end Library

end SchemaOverlay
