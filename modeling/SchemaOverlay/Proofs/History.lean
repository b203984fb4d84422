import Mathlib.Data.List.Basic
import SchemaOverlay.Proofs.Growth
import SchemaOverlay.Proofs.Representation

/-!
# Histories

What a store keeps about an overlay or about settings is the history of the
operations on it: the declared constraints and foreign keys in the order in
which they were declared, and the contents of settings as the edits left them.
No other operation has a part in it.  An overlay is found again in a history by
the entity and the model it belongs to, since a model files one overlay only for
each entity.
-/

namespace SchemaOverlay

open SchemaOverlay.Action

/-! ## What operations write -/

namespace Operation

variable {α : Type}

/-- The constraint that an operation declares, and the overlay that it is declared on. -/
def constraint? : Operation → Option (EntityOverlay × Constraint)
  | declareConstraint entity constraint => some (entity, constraint)
  | _ => none

/-- The foreign key that an operation declares, and the overlay that it is declared on. -/
def foreignKey? : Operation → Option (EntityOverlay × Association)
  | declareForeignKey entity key => some (entity, key)
  | _ => none

/-- The edit of some settings that an operation carries out. -/
def edit? (id : SettingsId) : Operation → Option TransformSettings.Edit
  | editSettings edited edit => if edited = id then some edit else none
  | _ => none

/-- What operations declare on the overlays that a condition singles out, in their order. -/
def declaredWhere (declares? : Operation → Option (EntityOverlay × α))
    (owner : EntityOverlay → Bool) (operations : List Operation) : List α :=
  operations.filterMap fun operation => (declares? operation).bind fun declaration =>
    if owner declaration.1 then some declaration.2 else none

/-- What operations declare on the overlay of an entity in a model, in their order. -/
def declaredOn (declares? : Operation → Option (EntityOverlay × α)) (model : Model) (id : ObjectId)
    (operations : List Operation) : List α :=
  declaredWhere declares? (fun owner => owner.model = model ∧ owner.id? = some id) operations

/-- What operations declare on the overlay of a number, in their order. -/
def declaredUnder (declares? : Operation → Option (EntityOverlay × α)) (number : Nat)
    (operations : List Operation) : List α :=
  declaredWhere declares? (·.number = number) operations

theorem declaredWhere_cons (declares? : Operation → Option (EntityOverlay × α))
    (owner : EntityOverlay → Bool) (operation : Operation) (later : List Operation) :
    declaredWhere declares? owner (operation :: later) =
      declaredWhere declares? owner [operation] ++ declaredWhere declares? owner later := by
  rw [← List.singleton_append]
  exact List.filterMap_append

/-- What is declared on an entity after an operation, its columns left aside. -/
def declare (operation : Operation) (entity : EntityOverlay) (declared : Declarations) :
    Declarations :=
  match operation with
  | declareConstraint owner constraint =>
    if owner.number = entity.number then
      { declared with constraints := declared.constraints ++ [constraint] }
    else declared
  | declareForeignKey owner key =>
    if owner.number = entity.number then
      { declared with foreignKeys := declared.foreignKeys ++ [key] }
    else declared
  | describe owner columns =>
    if owner.number = entity.number then { declared with description := columns } else declared
  | _ => declared

end Operation

/-! ## Declarations -/

section Declarations

variable {α : Type} {store : Store} {operation : Operation}

/-- Without a declaration, what is kept of an entity besides its columns stays as it is. -/
theorem Change.kept_apply {kept : Declarations → α} {change : Change}
    (blind : ∀ declared columns, kept { declared with columns } = kept declared)
    (allowed : change.Allowed store) (other : change.kind ≠ .declaration)
    (entity : EntityOverlay) :
    kept ((change.apply store).declared entity) = kept (store.declared entity) := by
  by_cases column : change.kind = .column
  · cases change with
    | addColumn owner name typeName =>
        simp only [apply_addColumn, Store.declared, SortedMap.get?_insert]
        split
        · rename_i same
          simp only [Option.getD_some, blind, same]
        · rfl
    | _ => cases column
  · have neither : change.kind ∉ [.column, .declaration] := by simp [column, other]
    simp only [Store.declared, declarations_apply allowed neither]

theorem Action.Makes.kept {β : Type} {kept : Declarations → α} {action : Action β}
    {kinds : List Change.Kind} (makes : action.Makes store kinds)
    (blind : ∀ declared columns, kept { declared with columns } = kept declared)
    (other : .declaration ∉ kinds) (entity : EntityOverlay) :
    kept ((action store).store.declared entity) = kept (store.declared entity) := by
  refine makes.view_eq (fun later => kept (later.declared entity)) ?_ other
  intro later change allowed other
  exact Change.kept_apply blind allowed other entity

theorem Store.declared_updateDeclared (owner entity : EntityOverlay)
    (update : Declarations → Declarations) :
    (store.updateDeclared owner update).declared entity =
      if owner.number = entity.number then update (store.declared entity)
      else store.declared entity := by
  simp only [Store.updateDeclared, Store.declared, SortedMap.get?_insert]
  by_cases same : owner.number = entity.number
  · rw [if_pos same.symm, if_pos same, same]
    rfl
  · rw [if_neg (Ne.symm same), if_neg same]

namespace Operation

/-- What a permitted operation declares is all that changes besides columns. -/
theorem declared_perform (sound : store.Sound) (permitted : operation.isPermitted store = true)
    {kept : Declarations → α}
    (blind : ∀ declared columns, kept { declared with columns } = kept declared)
    (entity : EntityOverlay) :
    kept ((operation.perform store).declared entity) =
      kept (operation.declare entity (store.declared entity)) := by
  have frame := (makes sound permitted).kept blind
  cases operation with
  | declareConstraint owner constraint =>
      exact congrArg kept (Store.declared_updateDeclared owner entity _)
  | declareForeignKey owner key =>
      exact congrArg kept (Store.declared_updateDeclared owner entity _)
  | describe owner columns =>
      exact congrArg kept (Store.declared_updateDeclared owner entity _)
  | _ => exact frame (by simp [kinds]) entity

/-- Whether a list is what operations declare: on living overlays, each item at the end of the
list of its overlay, and nothing else. -/
structure Lists (declares? : Operation → Option (EntityOverlay × α))
    (kept : Declarations → List α) : Prop where
  blind : ∀ declared columns, kept { declared with columns } = kept declared
  declare : ∀ (operation : Operation) (entity : EntityOverlay) (declared : Declarations),
    kept (operation.declare entity declared) =
      kept declared ++ declaredUnder declares? entity.number [operation]
  lives : ∀ {store : Store} {operation : Operation} {declaration : EntityOverlay × α},
    declares? operation = some declaration → operation.isPermitted store = true →
      store.entityLives declaration.1 = true

theorem lists_constraints : Lists constraint? (·.constraints) where
  blind _ _ := rfl
  declare operation entity declared := by
    cases operation with
    | declareConstraint owner _ | declareForeignKey owner _ | describe owner _ =>
        by_cases same : owner.number = entity.number <;>
          simp [Operation.declare, declaredUnder, declaredWhere, constraint?, same]
    | _ => simp [Operation.declare, declaredUnder, declaredWhere, constraint?]
  lives := by
    intro store operation declaration declares permitted
    cases operation with
    | declareConstraint entity constraint =>
        cases declares
        exact permitted
    | _ => cases declares

theorem lists_foreignKeys : Lists foreignKey? (·.foreignKeys) where
  blind _ _ := rfl
  declare operation entity declared := by
    cases operation with
    | declareConstraint owner _ | declareForeignKey owner _ | describe owner _ =>
        by_cases same : owner.number = entity.number <;>
          simp [Operation.declare, declaredUnder, declaredWhere, foreignKey?, same]
    | _ => simp [Operation.declare, declaredUnder, declaredWhere, foreignKey?]
  lives := by
    intro store operation declaration declares permitted
    cases operation with
    | declareForeignKey entity key =>
        cases declares
        exact permitted
    | _ => cases declares

end Operation

/-- What a store keeps of an entity is what was kept before, and then all that the run declares on
the entity. -/
theorem Run.declared {declares? : Operation → Option (EntityOverlay × α)}
    {kept : Declarations → List α} (lists : Operation.Lists declares? kept) {before after : Store}
    {operations : List Operation} (run : Run before operations after) (sound : before.Sound)
    (entity : EntityOverlay) :
    kept (after.declared entity) =
      kept (before.declared entity) ++
        Operation.declaredUnder declares? entity.number operations := by
  induction run with
  | done => simp [Operation.declaredUnder, Operation.declaredWhere]
  | @next store after operation later permitted _ ih =>
      have here := Operation.declared_perform sound permitted lists.blind entity
      rw [ih (Operation.sound_perform sound permitted), here, lists.declare,
        List.append_assoc]
      exact congrArg _ (Operation.declaredWhere_cons declares? _ operation later).symm

end Declarations

/-! ## Overlays found again -/

namespace Store

variable {store : Store}

/-- Whether every entity overlay in somebody's hands is the one that its model files. -/
def FilesHeld (store : Store) : Prop :=
  ∀ (entity : EntityOverlay) (id : ObjectId), .object (.entity entity) ∈ store.held →
    entity.id? = some id → store.entity? entity.model id = some entity

/-- A living overlay of an entity is the one that its model files. -/
theorem FilesHeld.entity?_of_lives (files : store.FilesHeld) (sound : store.Sound)
    {entity : EntityOverlay} {id : ObjectId} (lives : store.entityLives entity = true)
    (carried : entity.id? = some id) : store.entity? entity.model id = some entity := by
  rcases entityLives_iff.mp lives with ⟨-, filed⟩ | ⟨key, filed⟩ | held
  · obtain ⟨own, same, found⟩ := isFiled_iff.mp filed
    cases carried.symm.trans same
    exact found
  · obtain ⟨ledger, sound⟩ := sound
    cases carried.symm.trans (sound.orphans _ _ filed).2
  · exact files entity id held carried

end Store

/-- A new overlay of an entity is filed. -/
theorem Change.entity?_of_created {store : Store} {change : Change} {entity : EntityOverlay}
    {id : ObjectId} (created : change.created store = some (.entity entity))
    (carried : entity.id? = some id) :
    (change.apply store).entity? entity.model id = some entity := by
  cases change with
  | addEntity model own =>
      obtain rfl : .ofEntity store.fresh own model = entity :=
        OverlayObject.entity.inj (Option.some.inj created)
      obtain rfl : own = id := Option.some.inj carried
      exact entity?_addEntity model own
  | addDetached model name =>
      obtain rfl : .ofDetached store.fresh name model = entity :=
        OverlayObject.entity.inj (Option.some.inj created)
      cases carried
  | addOrphan model key name =>
      obtain rfl : .ofDetached store.fresh name model = entity :=
        OverlayObject.entity.inj (Option.some.inj created)
      cases carried
  | _ => cases created

theorem Change.filesHeld_apply {store : Store} {change : Change} (sound : store.Sound)
    (files : store.FilesHeld) (allowed : change.Allowed store) :
    (change.apply store).FilesHeld := by
  intro entity id held carried
  have grows := Change.grows sound allowed
  rcases held_cases allowed held with former | ⟨new, created, same⟩ | ⟨_, _, same⟩ | ⟨_, alive⟩
  · exact grows.entity? (files entity id former carried)
  · -- Whatever else comes into being for the caller is no overlay of an entity.
    cases same
    exact entity?_of_created created carried
  · cases same
  · exact grows.entity? (files.entity?_of_lives sound alive carried)

theorem Operation.filesHeld_perform {store : Store} {operation : Operation} (sound : store.Sound)
    (files : store.FilesHeld) (permitted : operation.isPermitted store = true) :
    (operation.perform store).FilesHeld := by
  refine ((makes sound permitted).keeps (fun later => later.Sound ∧ later.FilesHeld) ?_
    ⟨sound, files⟩).2
  rintro later change - ⟨sound, files⟩ allowed
  exact ⟨Change.sound_apply sound allowed, Change.filesHeld_apply sound files allowed⟩

theorem Trace.soundFor {before after : Store} {changes : List Change} {events : List Event}
    (trace : Trace before changes events after) {ledger : Ledger}
    (sound : before.SoundFor ledger) :
    ∃ larger, after.SoundFor larger ∧ ∀ object, ledger.Has object → larger.Has object := by
  induction trace generalizing ledger with
  | done => exact ⟨ledger, sound, fun _ has => has⟩
  | next allowed _ ih =>
      obtain ⟨larger, after, grown⟩ := ih (Change.soundFor_apply sound allowed)
      exact ⟨larger, after, fun object has => grown object (Change.has_ledger sound has)⟩

/-- A run leads to a sound store in which every number names what it named before. -/
theorem Run.soundFor {before after : Store} {operations : List Operation}
    (run : Run before operations after) {ledger : Ledger} (sound : before.SoundFor ledger) :
    ∃ larger, after.SoundFor larger ∧ ∀ object, ledger.Has object → larger.Has object := by
  induction run generalizing ledger with
  | done => exact ⟨ledger, sound, fun _ has => has⟩
  | next permitted _ ih =>
      obtain ⟨changes, trace, -⟩ := Operation.makes ⟨ledger, sound⟩ permitted
      obtain ⟨middle, between, first⟩ := trace.soundFor sound
      obtain ⟨larger, after, second⟩ := ih between
      exact ⟨larger, after, fun object has => second object (first object has)⟩

/-- A run leaves the number of a living overlay to that one, and keeps an overlay of an entity
filed. -/
theorem Run.keeps_overlay {before after : Store} {operations : List Operation}
    (run : Run before operations after) (sound : before.Sound) (files : before.FilesHeld)
    {entity : EntityOverlay} (lives : before.entityLives entity = true) :
    after.Identifies entity.number (.entity entity) ∧
      ∀ id, entity.id? = some id → after.entity? entity.model id = some entity := by
  constructor
  · obtain ⟨ledger, known⟩ := sound
    obtain ⟨larger, later, grown⟩ := run.soundFor known
    exact later.identifies (grown _ (known.has_entity lives))
  · intro id carried
    exact (run.grows sound).entity? (files.entity?_of_lives sound lives carried)

section Found

variable {α : Type} {declares? : Operation → Option (EntityOverlay × α)}
  {kept : Declarations → List α} {before after : Store} {operations : List Operation}

/-- So it is with every overlay that a run declares something on. -/
theorem Run.owner_found (lists : Operation.Lists declares? kept)
    (run : Run before operations after) (sound : before.Sound) (files : before.FilesHeld)
    {operation : Operation} (mem : operation ∈ operations) {declaration : EntityOverlay × α}
    (declares : declares? operation = some declaration) :
    after.Identifies declaration.1.number (.entity declaration.1) ∧
      ∀ id, declaration.1.id? = some id →
        after.entity? declaration.1.model id = some declaration.1 := by
  induction run with
  | done => cases mem
  | @next store after first later permitted rest ih =>
      cases mem with
      | head =>
          have run := Run.next permitted rest
          exact run.keeps_overlay sound files (lists.lives declares permitted)
      | tail _ mem =>
          exact ih (Operation.sound_perform sound permitted)
            (Operation.filesHeld_perform sound files permitted) mem

/-- What a run declares on overlays of an entity in a living model, it declares on the overlay
that the model files for the entity. -/
theorem Run.declaredOn_eq (lists : Operation.Lists declares? kept)
    (run : Run before operations after) (sound : before.Sound) (files : before.FilesHeld)
    {model : Model} (lives : after.modelLives model = true) (id : ObjectId) :
    Operation.declaredOn declares? model id operations =
      (after.entity? model id).elim [] fun overlay =>
        Operation.declaredUnder declares? overlay.number operations := by
  cases filed : after.entity? model id with
  | none =>
      -- An overlay that was declared on would still be filed.
      refine List.filterMap_eq_nil_iff.mpr fun operation mem => ?_
      cases declares : declares? operation with
      | none => rfl
      | some declaration =>
          refine if_neg fun owned => ?_
          obtain ⟨rfl, carried⟩ := of_decide_eq_true owned
          have found := (run.owner_found lists sound files mem declares).2 id carried
          rw [filed] at found
          cases found
  | some overlay =>
      -- Both sides pick the same declarations: no other overlay of the entity is filed in the
      -- model, and no other living overlay has the number.
      refine List.filterMap_congr fun operation mem => ?_
      cases declares : declares? operation with
      | none => rfl
      | some declaration =>
          obtain ⟨identified, found⟩ := run.owner_found lists sound files mem declares
          have same : declaration.1.model = model ∧ declaration.1.id? = some id ↔
              declaration.1.number = overlay.number := by
            constructor
            · rintro ⟨rfl, carried⟩
              have own := found id carried
              rw [filed] at own
              rw [Option.some.inj own]
            · intro number
              obtain ⟨ledger, after⟩ := run.sound sound
              have alive := after.entityLives_of_filed lives filed
              have equal := identified.alone (.entity overlay) alive number.symm
              obtain ⟨carried, -, owner, -⟩ := after.entity_standsFor lives filed
              rw [← OverlayObject.entity.inj equal]
              exact ⟨owner, carried⟩
          simp only [Option.bind_some, same]

end Found

/-! ## Contents of settings -/

section Contents

variable {store : Store} {id : SettingsId}

/-- Only an edit touches the contents of settings whose number is used. -/
theorem Change.contents_apply {change : Change} (allowed : change.Allowed store)
    (other : change.kind ≠ .contents) (used : id.number < store.fresh) :
    (change.apply store).contents id = store.contents id := by
  have former : id.number ≠ store.fresh := Nat.ne_of_lt used
  cases change with
  | addSettings contents =>
      rw [apply_addSettings]
      simp only [Store.contents, SortedMap.get?_insert, if_neg former]
  | createSettings object =>
      rw [apply_createSettings allowed.2]
      simp only [Store.contents, SortedMap.get?_insert, if_neg former]
  | installSettings object own =>
      rw [apply_installSettings own allowed.2.2]
      rfl
  | edit => exact absurd rfl other
  | _ => rfl

/-- Numbers that are used stay used, and without an edit so do the contents under them. -/
theorem Action.Makes.contents {α : Type} {action : Action α} {kinds : List Change.Kind}
    (makes : action.Makes store kinds) (other : .contents ∉ kinds)
    (used : id.number < store.fresh) :
    id.number < (action store).store.fresh ∧
      (action store).store.contents id = store.contents id := by
  refine makes.keeps
    (fun later => id.number < later.fresh ∧ later.contents id = store.contents id) ?_ ⟨used, rfl⟩
  rintro later change listed ⟨used, same⟩ allowed
  refine ⟨Nat.lt_of_lt_of_le used (Change.fresh_le_apply allowed), ?_⟩
  rw [Change.contents_apply allowed ?_ used, same]
  intro contents
  exact other (contents ▸ listed)

namespace Operation

/-- The edits of some settings among operations, in their order. -/
def edits (id : SettingsId) (operations : List Operation) : List TransformSettings.Edit :=
  operations.filterMap (·.edit? id)

theorem contents_editSettings (edited : SettingsId) (update : TransformSettings.Edit)
    (store : Store) :
    ((editSettings edited update).perform store).contents id =
      if edited = id then (store.contents id).apply update else store.contents id := by
  have performed : (editSettings edited update).perform store =
      store.updateContents edited ((store.contents edited).apply update) := rfl
  rw [performed]
  simp only [Store.updateContents, Store.contents, SortedMap.get?_insert]
  by_cases same : edited = id
  · rw [if_pos (congrArg SettingsId.number same).symm, if_pos same, same]
    rfl
  · have apart : id.number ≠ edited.number := by
      intro number
      cases id
      cases edited
      exact same (congrArg SettingsId.mk number.symm)
    rw [if_neg same, if_neg apart]

/-- A permitted operation leaves the contents of settings as its edit of them does. -/
theorem contents_perform {operation : Operation} (sound : store.Sound)
    (permitted : operation.isPermitted store = true) (used : id.number < store.fresh) :
    id.number < (operation.perform store).fresh ∧
      (operation.perform store).contents id =
        (edits id [operation]).foldl TransformSettings.apply (store.contents id) := by
  have frame := fun other => (makes sound permitted).contents other used
  cases operation with
  | editSettings edited update =>
      refine ⟨used, ?_⟩
      rw [contents_editSettings]
      by_cases same : edited = id <;> simp [edits, edit?, same]
  | _ => exact frame (by simp [kinds])

end Operation

/-- A run leaves in settings what its edits of them make of what they held before. -/
theorem Run.contents {before after : Store} {operations : List Operation}
    (run : Run before operations after) (sound : before.Sound) (used : id.number < before.fresh) :
    after.contents id =
      (Operation.edits id operations).foldl TransformSettings.apply (before.contents id) := by
  induction run with
  | done => rfl
  | @next store after operation later permitted _ ih =>
      obtain ⟨still, here⟩ := Operation.contents_perform sound permitted used
      have split : Operation.edits id (operation :: later) =
          Operation.edits id [operation] ++ Operation.edits id later := by
        rw [← List.singleton_append]
        exact List.filterMap_append
      rw [ih (Operation.sound_perform sound permitted) still, here, split,
        List.foldl_append]

end Contents

end SchemaOverlay
