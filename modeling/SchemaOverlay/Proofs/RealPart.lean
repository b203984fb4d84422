import SchemaOverlay.Proofs.Resolution

/-!
# Real parts of merges

A merge reports first what the schema lists of the entity behind a reference.
From an overlay the way there leads through the overlay's own model, whichever
model is registered by now.  So the real part is that of the registered catalog
as long as the overlay's model is the registered one, and nothing at all once
that model is gone.
-/

namespace SchemaOverlay

open SchemaOverlay.Action

/-! ## The real part of one merge -/

variable {α : Type}

/-- Whether a merge fails, or begins with everything that the schema lists. -/
def Merged.IsComplete (listed : Except SourceError (List α))
    (merged : Except OverlayError (List (Merged α))) : Prop :=
  ∀ items, merged = .ok items → ∃ real, listed = .ok real ∧ real.map .real <+: items

namespace EntityOverlay

variable {store : Store} {overlay : EntityOverlay}
  {items : SchemaEntity → Except SourceError (List α)}

/-- What the schema lists of the entity underneath, found the overlay's own way; nothing where
there is no entity. -/
def reported (overlay : EntityOverlay) (items : SchemaEntity → Except SourceError (List α))
    (store : Store) : Except SourceError (List α) :=
  match overlay.realEntity? store with
  | .error error => .error error
  | .ok none => .ok []
  | .ok (some entity) => items entity

/-- Whether what the overlay reports, if anything, begins with what the schema lists. -/
def Covers (overlay : EntityOverlay) (items : SchemaEntity → Except SourceError (List α))
    (listed : Except SourceError (List α)) (store : Store) : Prop :=
  ∀ known, overlay.reported items store = .ok known → ∃ real, listed = .ok real ∧ real <+: known

theorem reported_of_dead (gone : store.modelLives overlay.model = false) :
    overlay.reported items store = .ok [] := by
  simp only [reported, realEntity?_of_dead gone]

/-- Through the registered model an overlay reports of its entity what the catalog lists. -/
theorem reported_of_registered {resolver : Resolver} {dataSource : String} {id : ObjectId}
    {entity : SchemaEntity} (own : overlay.id? = some id)
    (registered : resolver.model? dataSource store = some overlay.model)
    (served : (store.modelState overlay.model).catalog.find id = .ok (some entity)) :
    overlay.reported items store = items entity := by
  have lives := Resolver.modelLives_of_model? registered
  simp only [reported, realEntity?_of_id? own lives, served]

theorem realItems_overlay :
    EntityRef.realItems (.overlay overlay) items store =
      ((overlay.reported items store).map (·.map Merged.real)).mapError .metadataAccess := by
  simp only [EntityRef.realItems, EntityRef.real?, reported]
  cases behind : overlay.realEntity? store with
  | error error => rfl
  | ok found =>
      cases found with
      | none => rfl
      | some entity =>
          have kept : Except.mapError OverlayError.metadataAccess (.ok (some entity)) =
              .ok (some entity) := rfl
          simp only [kept]
          cases items entity <;> rfl

/-- A merge of an overlay reports the real part, then what is declared on the overlay. -/
theorem merge_overlay (resolver : Resolver) (declared : Declarations → List α) :
    resolver.merge (.overlay overlay) items declared store =
      ⟨((overlay.reported items store).map fun known =>
          known.map .real ++ (declared (store.declared overlay)).map .declared).mapError
            .metadataAccess, store, []⟩ := by
  simp only [Resolver.merge, bind_apply, read_apply, realItems_overlay]
  cases overlay.reported items store with
  | error error => rfl
  | ok known => rfl

end EntityOverlay

/-- Among real items followed by declared ones, the real ones are those at the front. -/
theorem Merged.map_real_prefix_iff {real known declared : List α} :
    real.map Merged.real <+: known.map Merged.real ++ declared.map Merged.declared ↔
      real <+: known := by
  induction real generalizing known with
  | nil => simp
  | cons first rest ih =>
      cases known with
      | nil => cases declared <;> simp
      | cons other later => simp [List.cons_prefix_cons, ih]

namespace Merged

variable {listed reported : Except SourceError (List α)}

/-- A merge is complete exactly when the reported real part begins with what the schema lists. -/
theorem isComplete_iff (declared : List α) :
    IsComplete listed ((reported.map fun known =>
        known.map .real ++ declared.map .declared).mapError .metadataAccess) ↔
      ∀ known, reported = .ok known → ∃ real, listed = .ok real ∧ real <+: known := by
  cases reported with
  | error error =>
      change IsComplete listed (.error (.metadataAccess error)) ↔ _
      simp [IsComplete]
  | ok known =>
      change IsComplete listed (.ok (known.map .real ++ declared.map .declared)) ↔ _
      simp [IsComplete, map_real_prefix_iff]

end Merged

namespace EntityOverlay

variable {store : Store} {overlay : EntityOverlay} {resolver : Resolver}
  {items : SchemaEntity → Except SourceError (List α)} {listed : Except SourceError (List α)}

theorem merge_isComplete_iff (declared : Declarations → List α) :
    Merged.IsComplete listed (resolver.merge (.overlay overlay) items declared store).value ↔
      overlay.Covers items listed store := by
  rw [merge_overlay]
  exact Merged.isComplete_iff _

theorem references_isComplete_iff {listed : Except SourceError (List Association)} :
    Merged.IsComplete listed (EntityRef.references (.overlay overlay) store) ↔
      overlay.Covers (·.references) listed store := by
  have bare := @Merged.isComplete_iff _ listed (overlay.reported (·.references) store) []
  simp only [List.map_nil, List.append_nil] at bare
  rw [EntityRef.references, realItems_overlay]
  exact bare

theorem covers_of_eq (same : overlay.reported items store = listed) :
    overlay.Covers items listed store := by
  intro known found
  exact ⟨known, same.symm.trans found, List.prefix_rfl⟩

/-- Whether each merge of the overlay fails, or begins with everything that the schema lists of the
entity. -/
structure MergesComplete (overlay : EntityOverlay) (resolver : Resolver) (entity : SchemaEntity)
    (store : Store) : Prop where
  constraints : Merged.IsComplete entity.constraints
    (resolver.constraints (.overlay overlay) store).value
  associations : Merged.IsComplete entity.associations
    (resolver.associations (.overlay overlay) store).value
  references : Merged.IsComplete entity.references
    (EntityRef.references (.overlay overlay) store)

/-- An overlay of the registered model merges completely. -/
theorem mergesComplete_of_registered {id : ObjectId} {entity : SchemaEntity}
    (own : overlay.id? = some id)
    (registered : resolver.model? overlay.dataSource store = some overlay.model)
    (served : (store.modelState overlay.model).catalog.find id = .ok (some entity)) :
    overlay.MergesComplete resolver entity store where
  constraints := (merge_isComplete_iff _).mpr
    (covers_of_eq (reported_of_registered own registered served))
  associations := (merge_isComplete_iff _).mpr
    (covers_of_eq (reported_of_registered own registered served))
  references := references_isComplete_iff.mpr
    (covers_of_eq (reported_of_registered own registered served))

/-- Where the registered catalog serves the entity of an overlay, a merge of the overlay is
complete exactly when what the overlay's own model leads to begins with what that entity lists.
Once its model is gone, only what was declared is left of a merge.  All merges are complete as
long as the overlay's model is the registered one, which it remains until another one is
registered in its place. -/
theorem merges_complete_iff {id : ObjectId} {model : Model} {entity : SchemaEntity}
    (own : overlay.id? = some id)
    (registered : resolver.model? overlay.dataSource store = some model)
    (served : (store.modelState model).catalog.find id = .ok (some entity)) :
    ((Merged.IsComplete entity.constraints (resolver.constraints (.overlay overlay) store).value ↔
        overlay.Covers (·.constraints) entity.constraints store) ∧
      (Merged.IsComplete entity.associations
          (resolver.associations (.overlay overlay) store).value ↔
        overlay.Covers (·.associations) entity.associations store) ∧
      (Merged.IsComplete entity.references (EntityRef.references (.overlay overlay) store) ↔
        overlay.Covers (·.references) entity.references store)) ∧
      (store.modelLives overlay.model = false →
        resolver.constraints (.overlay overlay) store =
            ⟨.ok ((store.declared overlay).constraints.map .declared), store, []⟩ ∧
          resolver.associations (.overlay overlay) store =
            ⟨.ok ((store.declared overlay).foreignKeys.map .declared), store, []⟩ ∧
          EntityRef.references (.overlay overlay) store = .ok []) ∧
      (overlay.model = model → overlay.MergesComplete resolver entity store) ∧
      ∀ earlier operations, earlier.Reachable →
        resolver.model? overlay.dataSource earlier = some overlay.model →
        Run earlier operations store →
        (∀ operation ∈ operations,
          operation.registers resolver.number overlay.dataSource = false) →
        overlay.MergesComplete resolver entity store := by
  have current : overlay.model = model → overlay.MergesComplete resolver entity store := by
    rintro rfl
    exact mergesComplete_of_registered own registered served
  refine ⟨⟨merge_isComplete_iff _, merge_isComplete_iff _, references_isComplete_iff⟩,
    fun gone => ⟨?_, ?_, ?_⟩, current, fun earlier operations before first run kept => ?_⟩
  · rw [Resolver.constraints, merge_overlay, reported_of_dead gone]
    rfl
  · rw [Resolver.associations, merge_overlay, reported_of_dead gone]
    rfl
  · rw [EntityRef.references, realItems_overlay, reported_of_dead gone]
    rfl
  · have still := (run.model? before.sound kept).trans first
    exact current (Option.some.inj (still.symm.trans registered))

end EntityOverlay

/-! ## A table whose overlay outlives its model -/

namespace Warehouse

def resolver : Resolver := ⟨0, {}, []⟩

def primaryKey : Constraint := ⟨"orders_pkey", .primaryKey, ["id"]⟩

def orders : SchemaEntity :=
  ⟨⟨"shop", ["public", "orders"]⟩, .ok [], .ok [primaryKey], .ok [], .ok []⟩

def catalog : SchemaCatalog := ⟨fun id => .ok (if id = orders.id then some orders else none)⟩

def former : Model := ⟨0, "shop"⟩

def ordersOverlay : EntityOverlay := .ofEntity 1 orders.id former

/-- The overlay declares a unique key. -/
def uniqueKey : Constraint := ⟨"orders_code_vkey", .uniqueKey, ["code"]⟩

def model : Model := ⟨2, "shop"⟩

def laterOverlay : EntityOverlay := .ofEntity 3 orders.id model

/-- Somebody holds the overlay of a table while another model of the same catalog is registered and
the former one is let go. -/
def setup : List Operation :=
  [.createModel "shop" catalog, .register resolver former, .entityById former orders.id true,
    .retain (.object (.entity ordersOverlay)), .declareConstraint ordersOverlay uniqueKey,
    .createModel "shop" catalog, .register resolver model, .release (.object (.model former)),
    .entityById model orders.id true]

def store : Store := setup.foldl (fun store operation => operation.perform store) .empty

/-- The merge of the overlay succeeds without the key that the table has. -/
theorem primary_key_missing :
    store.Reachable ∧ store.entityLives ordersOverlay = true ∧
      ordersOverlay.id? = some orders.id ∧
      resolver.model? ordersOverlay.dataSource store = some model ∧
      (store.modelState model).catalog.find orders.id = .ok (some orders) ∧
      orders.constraints = .ok [primaryKey] ∧
      resolver.constraints (.overlay ordersOverlay) store =
        ⟨.ok [.declared uniqueKey], store, []⟩ ∧
      ¬ ordersOverlay.MergesComplete resolver orders store := by
  have merged : resolver.constraints (.overlay ordersOverlay) store =
      ⟨.ok [.declared uniqueKey], store, []⟩ := rfl
  refine ⟨⟨setup, Run.of_permits (by decide)⟩, by decide, rfl, by decide, rfl, rfl, merged, ?_⟩
  intro complete
  obtain ⟨real, listed, starts⟩ := complete.constraints _ (congrArg Outcome.value merged)
  cases listed
  simp at starts

/-- The overlay that the registered model holds lists the key of the table, the other one only its
own. -/
theorem merges_complete_orders :
    ordersOverlay.id? = some orders.id ∧
      resolver.model? ordersOverlay.dataSource store = some model ∧
      (store.modelState model).catalog.find orders.id = .ok (some orders) ∧
      laterOverlay.MergesComplete resolver orders store ∧
      resolver.constraints (.overlay ordersOverlay) store =
        ⟨.ok [.declared uniqueKey], store, []⟩ ∧
      ¬ ordersOverlay.Covers (·.constraints) orders.constraints store := by
  have registered : resolver.model? "shop" store = some model := by decide
  have served : (store.modelState model).catalog.find orders.id = .ok (some orders) := rfl
  have gone : store.modelLives ordersOverlay.model = false := by decide
  have former_id : ordersOverlay.id? = some orders.id := rfl
  have later_id : laterOverlay.id? = some orders.id := rfl
  obtain ⟨⟨complete, -, -⟩, dead, -, -⟩ :=
    EntityOverlay.merges_complete_iff former_id registered served
  obtain ⟨-, -, current, -⟩ :=
    EntityOverlay.merges_complete_iff later_id registered served
  have merged : resolver.constraints (.overlay ordersOverlay) store =
      ⟨.ok [.declared uniqueKey], store, []⟩ := (dead gone).1
  refine ⟨rfl, registered, served, current rfl, merged, fun covers => ?_⟩
  obtain ⟨real, listed, starts⟩ := complete.mpr covers _ (congrArg Outcome.value merged)
  cases listed
  simp at starts

end Warehouse

end SchemaOverlay
