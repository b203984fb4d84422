import SchemaOverlay.Proofs.History
import SchemaOverlay.Proofs.Resolution

/-!
# Merged metadata

A merge reports of a real entity what its schema lists, in that order, and then
everything that was ever declared on the entity's overlay in the registered
model, in the order of the declarations.  A failure of the schema is reported
alone, whatever was declared.  Merging leaves the store as it is.
-/

namespace SchemaOverlay

open SchemaOverlay.Action

/-! ## One merge -/

namespace Resolver

variable {α : Type} {store : Store} {resolver : Resolver} {entity : SchemaEntity}
  {items : SchemaEntity → Except SourceError (List α)} {declared : Declarations → List α}

/-- What cannot be read of the schema is all that is reported. -/
theorem merge_of_error {error : SourceError} (failed : items entity = .error error) :
    resolver.merge (.real entity) items declared store =
      ⟨.error (.metadataAccess error), store, []⟩ := by
  have unread :
      EntityRef.realItems (.real entity) items store = .error (.metadataAccess error) := by
    simp only [EntityRef.realItems, EntityRef.real?, failed]
  simp only [merge, bind_apply, read_apply, unread]
  rfl

/-- What the schema lists stands before what the overlay in the registered model declares. -/
theorem merge_of_ok (sound : store.Sound) {model : Model} {listed : List α}
    (registered : resolver.model? entity.dataSource store = some model)
    (reported : items entity = .ok listed) :
    resolver.merge (.real entity) items declared store =
      ⟨.ok (listed.map .real ++
        ((store.entity? model entity.id).elim [] fun overlay =>
          declared (store.declared overlay)).map .declared), store, []⟩ := by
  have real : EntityRef.realItems (.real entity) items store = .ok (listed.map .real) := by
    simp only [EntityRef.realItems, EntityRef.real?, reported]
  have own : entity.id.dataSource = model.dataSource :=
    (sound.dataSource_of_model? registered).symm
  simp only [merge, bind_apply, read_apply, real, resolveEntity_of_some registered]
  cases filed : store.entity? model entity.id with
  | none =>
      rw [Model.entityById_false own filed]
      simp
  | some overlay =>
      rw [Model.entityById_of_some own filed]
      rfl

end Resolver

/-! ## Merges after a run -/

/-- A merge reports after what the schema lists all that the run declared on overlays of the
entity in the registered model. -/
theorem Run.merge {α : Type} {declares? : Operation → Option (EntityOverlay × α)}
    {kept : Declarations → List α} (lists : Operation.Lists declares? kept)
    (bare : kept .empty = []) {operations : List Operation} {store : Store}
    (run : Run .empty operations store) {resolver : Resolver} {entity : SchemaEntity}
    {model : Model} (registered : resolver.model? entity.dataSource store = some model)
    {items : SchemaEntity → Except SourceError (List α)} {listed : List α}
    (reported : items entity = .ok listed) :
    resolver.merge (.real entity) items kept store =
      ⟨.ok (listed.map .real ++
        (Operation.declaredOn declares? model entity.id operations).map .declared), store, []⟩ := by
  have lives := Resolver.modelLives_of_model? registered
  have files : Store.FilesHeld .empty := by simp [Store.FilesHeld, Store.empty]
  rw [Resolver.merge_of_ok (run.sound .empty) registered reported,
    run.declaredOn_eq lists .empty files lives]
  cases store.entity? model entity.id with
  | none => rfl
  | some overlay =>
      have history : kept (store.declared overlay) =
          kept .empty ++ Operation.declaredUnder declares? overlay.number operations :=
        run.declared lists .empty overlay
      rw [bare, List.nil_append] at history
      simp only [Option.elim_some, history]

/-- After every run, the merged constraints and associations of a real entity are those of the
schema and then those declared on its overlay in the registered model, each in its order.  Where
the schema cannot be read, its error is the result, and the store stays as it is either way. -/
theorem Run.merged_metadata {operations : List Operation} {store : Store}
    (run : Run .empty operations store) {resolver : Resolver} {entity : SchemaEntity}
    {model : Model} (registered : resolver.model? entity.dataSource store = some model) :
    (∀ listed, entity.constraints = .ok listed →
      resolver.constraints (.real entity) store =
        ⟨.ok (listed.map .real ++
          (Operation.declaredOn Operation.constraint? model entity.id operations).map .declared),
          store, []⟩) ∧
      (∀ error, entity.constraints = .error error →
        resolver.constraints (.real entity) store =
          ⟨.error (.metadataAccess error), store, []⟩) ∧
      (∀ listed, entity.associations = .ok listed →
        resolver.associations (.real entity) store =
          ⟨.ok (listed.map .real ++
            (Operation.declaredOn Operation.foreignKey? model entity.id operations).map .declared),
            store, []⟩) ∧
      ∀ error, entity.associations = .error error →
        resolver.associations (.real entity) store =
          ⟨.error (.metadataAccess error), store, []⟩ := by
  refine ⟨fun listed reported => ?_, fun error failed => ?_, fun listed reported => ?_,
    fun error failed => ?_⟩
  · exact run.merge Operation.lists_constraints rfl registered reported
  · exact Resolver.merge_of_error failed
  · exact run.merge Operation.lists_foreignKeys rfl registered reported
  · exact Resolver.merge_of_error failed

/-! ## Declarations on overlays of two models -/

namespace Depot

def resolver : Resolver := ⟨0, {}, []⟩

def former : Model := ⟨0, "depot"⟩

def model : Model := ⟨1, "depot"⟩

def primaryKey : Constraint := ⟨"stock_pkey", .primaryKey, ["id"]⟩

def stock : SchemaEntity :=
  ⟨⟨"depot", ["main", "stock"]⟩, .ok [], .ok [primaryKey], .error (.metadata "offline"), .ok []⟩

def formerStock : EntityOverlay := .ofEntity 2 stock.id former

def stockOverlay : EntityOverlay := .ofEntity 3 stock.id model

def uniqueKey : Constraint := ⟨"stock_code_vkey", .uniqueKey, ["code"]⟩

def check : Constraint := ⟨"stock_count_vcheck", .check, ["count"]⟩

def shelf : Association := ⟨"stock_shelf_vfk", stock.id, ⟨"depot", ["main", "shelf"]⟩, []⟩

/-- Two models take turns, and something is declared on the overlays of both. -/
def operations : List Operation :=
  [.createModel "depot" (.unreachable "offline"), .createModel "depot" (.unreachable "offline"),
    .register resolver former, .resolveEntity resolver (.real stock) true,
    .declareConstraint formerStock check, .register resolver model,
    .entityById model stock.id true, .declareConstraint stockOverlay uniqueKey,
    .declareConstraint formerStock primaryKey, .declareForeignKey stockOverlay shelf,
    .describe stockOverlay (some "code"), .declareConstraint stockOverlay check]

def store : Store := operations.foldl (fun store operation => operation.perform store) .empty

/-- What was declared on the overlay of the former model is left out, and associations that
cannot be read are not made up for by the declared one. -/
theorem merged_metadata_stock :
    Run .empty operations store ∧ resolver.model? "depot" store = some model ∧
      resolver.constraints (.real stock) store =
        ⟨.ok [.real primaryKey, .declared uniqueKey, .declared check], store, []⟩ ∧
      resolver.associations (.real stock) store =
        ⟨.error (.metadataAccess (.metadata "offline")), store, []⟩ := by
  have run : Run .empty operations store := Run.of_permits (by decide)
  have registered : resolver.model? "depot" store = some model := by decide
  have served : resolver.model? stock.dataSource store = some model := registered
  obtain ⟨constraints, -, -, associations⟩ := Run.merged_metadata run served
  refine ⟨run, registered, ?_, associations _ rfl⟩
  have declared : Operation.declaredOn Operation.constraint? model stock.id operations =
      [uniqueKey, check] := by decide
  rw [constraints _ rfl, declared]
  rfl

end Depot

end SchemaOverlay
