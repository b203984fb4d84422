import Mathlib.Data.List.Nodup
import SchemaOverlay.Proofs.Creation

/-!
# Columns by first demand

The columns of an entity overlay are the answer to all that was ever demanded
of it.  The first demand for a name brings the column into being, with the type
that a declaration gives it or with none, and every later demand for the name
finds that column and leaves it as it is.  So the list of columns only grows,
one column for each name, in the order in which the names were demanded first.
-/

namespace SchemaOverlay

open SchemaOverlay.Action

/-! ## Demands -/

/-- A call that wants an entity overlay to have a column of a name. -/
structure Demand where
  entity : EntityOverlay
  name : String
  /-- The type that the column is declared with; none where its overlay is only asked for. -/
  typeName : Option String
  deriving DecidableEq, Repr

namespace Demand

/-- What an action makes of the columns of the overlay of a number when it meets a demand. -/
inductive Meets (number : Nat) (columns : List ColumnOverlay) :
    Option Demand → List ColumnOverlay → Prop where
  | undemanded : Meets number columns none columns
  | elsewhere {demand : Demand} (other : demand.entity.number ≠ number) :
    Meets number columns (some demand) columns
  | found {demand : Demand} {column : ColumnOverlay} (mem : column ∈ columns)
      (named : column.name = demand.name) :
    Meets number columns (some demand) columns
  | added {demand : Demand} {fresh : Nat} (here : demand.entity.number = number)
      (absent : ∀ column ∈ columns, column.name ≠ demand.name) :
    Meets number columns (some demand)
      (columns ++ [⟨fresh, demand.name, demand.typeName, demand.entity⟩])

/-- Whether columns are what demands make of an entity without columns: one column for each name
in the order of the first demands, and each as its first demand wanted it. -/
structure AnsweredBy (demands : List Demand) (columns : List ColumnOverlay) : Prop where
  names : columns.map (·.name) = (demands.map (·.name)).eraseDups
  first : ∀ column ∈ columns, ∃ demand,
    demands.find? (·.name == column.name) = some demand ∧ demand.typeName = column.typeName

/-- The demands on the overlay of a number. -/
def under (number : Nat) (demands : List Demand) : List Demand :=
  demands.filter (·.entity.number == number)

theorem under_append (number : Nat) (front back : List Demand) :
    under number (front ++ back) = under number front ++ under number back :=
  List.filter_append ..

namespace AnsweredBy

variable {demands : List Demand} {columns : List ColumnOverlay} {demand : Demand}

theorem nil : AnsweredBy [] [] := ⟨rfl, by simp⟩

theorem name_mem_iff (answered : AnsweredBy demands columns) (name : String) :
    (∃ column ∈ columns, column.name = name) ↔ ∃ demand ∈ demands, demand.name = name := by
  rw [← List.mem_map, ← List.mem_map, answered.names, List.mem_eraseDups]

/-- A further demand for a name that was demanded before asks for nothing new. -/
theorem again (answered : AnsweredBy demands columns) {column : ColumnOverlay}
    (mem : column ∈ columns) (named : column.name = demand.name) :
    AnsweredBy (demands ++ [demand]) columns where
  names := by
    have known : demand.name ∈ demands.map (·.name) := by
      rw [← List.mem_eraseDups, ← answered.names, ← named]
      exact List.mem_map_of_mem mem
    have nothing : [demand.name].removeAll (demands.map (·.name)) = [] := by
      simpa [List.removeAll] using known
    rw [List.map_append, List.map_singleton, List.eraseDups_append, nothing, List.eraseDups_nil,
      List.append_nil, answered.names]
  first other listed := by
    obtain ⟨first, found, same⟩ := answered.first other listed
    exact ⟨first, by rw [List.find?_append, found, Option.some_or], same⟩

/-- The first demand for a name adds the column that it wants. -/
theorem add (answered : AnsweredBy demands columns) (fresh : Nat)
    (absent : ∀ column ∈ columns, column.name ≠ demand.name) :
    AnsweredBy (demands ++ [demand])
      (columns ++ [⟨fresh, demand.name, demand.typeName, demand.entity⟩]) where
  names := by
    have unknown : demand.name ∉ demands.map (·.name) := by
      rw [← List.mem_eraseDups, ← answered.names, List.mem_map]
      rintro ⟨column, mem, named⟩
      exact absent column mem named
    have new : [demand.name].removeAll (demands.map (·.name)) = [demand.name] := by
      simpa [List.removeAll] using unknown
    rw [List.map_append, List.map_append, List.map_singleton, List.map_singleton,
      List.eraseDups_append, new, answered.names]
    rfl
  first column listed := by
    rw [List.find?_append]
    rcases List.mem_append.mp listed with former | last
    · obtain ⟨first, found, same⟩ := answered.first column former
      exact ⟨first, by rw [found, Option.some_or], same⟩
    · obtain rfl := List.mem_singleton.mp last
      have missing : demands.find? (·.name == demand.name) = none := by
        rw [List.find?_eq_none]
        intro earlier mem named
        obtain ⟨column, listed, same⟩ :=
          (answered.name_mem_iff demand.name).mpr ⟨earlier, mem, by simpa using named⟩
        exact absent column listed same
      exact ⟨demand, by simp [missing], rfl⟩

/-- Columns that answer the demands so far answer one more once it is met. -/
theorem meet {number : Nat} {demand? : Option Demand} {later : List ColumnOverlay}
    (answered : AnsweredBy demands columns) (meets : Meets number columns demand? later) :
    AnsweredBy (demands ++ under number demand?.toList) later := by
  cases meets with
  | undemanded => simpa [under] using answered
  | elsewhere other => simpa [under, other] using answered
  | @found demand column mem named =>
      by_cases here : demand.entity.number = number
      · simpa [under, here] using answered.again mem named
      · simpa [under, here] using answered
  | added here absent => simpa [under, here] using answered.add _ absent

end AnsweredBy

end Demand

/-- A column of an overlay is found under its name. -/
theorem Store.SoundFor.column?_of_mem {store : Store} {ledger : Ledger}
    (sound : store.SoundFor ledger) {entity : EntityOverlay} (has : ledger.Has (.entity entity))
    {column : ColumnOverlay} (mem : column ∈ (store.declared entity).columns) :
    store.column? entity column.name = some column := by
  have names := (sound.declared_recorded has).names
  cases found : store.column? entity column.name with
  | none =>
      rw [Store.column?, List.find?_eq_none] at found
      exact absurd (beq_self_eq_true _) (found column mem)
  | some other =>
      obtain ⟨also, same⟩ := Store.column?_mem found
      rw [List.inj_on_of_nodup_map names also mem same]

/-! ## Actions that meet demands -/

namespace Change

variable {store : Store} {change : Change}

/-- Only a new column touches the columns of an entity. -/
theorem columns_apply (allowed : change.Allowed store) (other : change.kind ≠ .column)
    (entity : EntityOverlay) :
    ((change.apply store).declared entity).columns = (store.declared entity).columns := by
  by_cases declaration : change.kind = .declaration
  · cases change with
    | declareConstraint owner constraint =>
        rw [apply_declareConstraint, Store.declared_updateDeclared]
        split <;> rfl
    | declareForeignKey owner key =>
        rw [apply_declareForeignKey, Store.declared_updateDeclared]
        split <;> rfl
    | describe owner columns =>
        rw [apply_describe, Store.declared_updateDeclared]
        split <;> rfl
    | _ => cases declaration
  · have neither : change.kind ∉ [.column, .declaration] := by simp [other, declaration]
    simp only [Store.declared, declarations_apply allowed neither]

theorem columns_addColumn (owner entity : EntityOverlay) (name : String)
    (typeName : Option String) :
    (((addColumn owner name typeName).apply store).declared entity).columns =
      if entity.number = owner.number then
        (store.declared entity).columns ++ [⟨store.fresh, name, typeName, owner⟩]
      else (store.declared entity).columns := by
  rw [apply_addColumn]
  simp only [Store.declared, SortedMap.get?_insert]
  by_cases same : entity.number = owner.number <;> simp [same]

end Change

namespace Action

/-- Whether an action meets a demand, for an overlay that lives afterwards, and makes no other
column. -/
structure Meets {α : Type} (action : Action α) (store : Store) (demand? : Option Demand) :
    Prop where
  columns : ∀ entity : EntityOverlay, Demand.Meets entity.number (store.declared entity).columns
    demand? ((action store).store.declared entity).columns
  lives : ∀ demand, demand? = some demand →
    (action store).store.entityLives demand.entity = true

variable {α β : Type} {store : Store} {kinds : List Change.Kind} {demand? : Option Demand}

theorem Makes.columns {action : Action α} (makes : action.Makes store kinds)
    (other : .column ∉ kinds) (entity : EntityOverlay) :
    ((action store).store.declared entity).columns = (store.declared entity).columns :=
  makes.view_eq (fun later => (later.declared entity).columns)
    (fun _ _ allowed other => Change.columns_apply allowed other entity) other

namespace Meets

theorem silent {action : Action α} (meets : action.Meets store demand?) :
    action.silent.Meets store demand? :=
  ⟨meets.columns, meets.lives⟩

theorem of_makes {action : Action α} (makes : action.Makes store kinds)
    (other : .column ∉ kinds) : action.Meets store none where
  columns entity := by
    rw [makes.columns other]
    exact .undemanded
  lives _ none := by cases none

theorem of_store_eq {action : Action α} (same : (action store).store = store) :
    action.Meets store none where
  columns entity := by
    rw [same]
    exact .undemanded
  lives _ none := by cases none

/-- What comes before a demand may make anything but columns. -/
theorem after {first : Action α} {second : α → Action β} (makes : first.Makes store kinds)
    (other : .column ∉ kinds)
    (meets : (second (first store).value).Meets (first store).store demand?) :
    (first >>= second).Meets store demand? where
  columns entity := by
    rw [← makes.columns other entity]
    exact meets.columns entity
  lives := meets.lives

/-- What comes after a demand may still report and attach settings. -/
theorem before {first : Action α} {second : α → Action β} (meets : first.Meets store demand?)
    (makes : (second (first store).value).Makes (first store).store kinds)
    (inner : kinds ⊆ [.report, .slot]) : (first >>= second).Meets store demand? where
  columns entity := by
    have kept := makes.columns (fun listed => by simpa using inner listed) entity
    rw [bind_apply, kept]
    exact meets.columns entity
  lives demand wanted := by
    rw [bind_apply, makes.entityLives (fun kind listed => ?_), meets.lives demand wanted]
    have kind := inner listed
    simp only [List.mem_cons, List.not_mem_nil, or_false] at kind ⊢
    tauto

end Meets

end Action

namespace EntityOverlay

variable {store : Store} {entity : EntityOverlay} {name : String}

/-- An action that adds the column of a name where there is none meets the demand for it. -/
theorem meets {α : Type} {action : Action α} {typeName : Option String}
    (lives : store.entityLives entity = true)
    (found : ∀ column, store.column? entity name = some column → (action store).store = store)
    (missing : store.column? entity name = none →
      (action store).store = (Change.addColumn entity name typeName).apply store) :
    action.Meets store (some ⟨entity, name, typeName⟩) := by
  cases filed : store.column? entity name with
  | some column =>
      constructor
      · intro other
        rw [found column filed]
        by_cases here : entity.number = other.number
        · have same : store.declared other = store.declared entity := by
            simp only [Store.declared, here]
          obtain ⟨mem, named⟩ := Store.column?_mem filed
          exact .found (same ▸ mem) named
        · exact .elsewhere here
      · rintro _ ⟨⟩
        rwa [found column filed]
  | none =>
      have allowed : (Change.addColumn entity name typeName).Allowed store := ⟨lives, filed⟩
      constructor
      · intro other
        rw [missing filed, Change.columns_addColumn]
        split
        · rename_i here
          have same : store.declared other = store.declared entity := by
            simp only [Store.declared, here]
          refine .added here.symm fun column mem named => ?_
          rw [Store.column?, List.find?_eq_none, ← same] at filed
          exact filed column mem (by simpa using named)
        · rename_i here
          exact .elsewhere (Ne.symm here)
      · rintro _ ⟨⟩
        rw [missing filed, Change.entityLives_apply allowed (by simp [Change.kind]), lives]

theorem findColumn_meets (lives : store.entityLives entity = true) (name : String) :
    (entity.findColumn name true).Meets store (some ⟨entity, name, none⟩) := by
  refine meets lives (fun column filed => ?_) fun absent => ?_
  · rw [findColumn_of_some filed]
  · rw [findColumn_of_none absent, if_pos rfl]

theorem declareColumn_of_some {column : ColumnOverlay} (typeName : String)
    (found : store.column? entity name = some column) :
    entity.declareColumn name typeName store = ⟨column, store, []⟩ := by
  simp only [declareColumn, bind_apply, read_apply, found]
  rfl

theorem declareColumn_meets (lives : store.entityLives entity = true) (name typeName : String) :
    (entity.declareColumn name typeName).Meets store (some ⟨entity, name, some typeName⟩) := by
  refine meets lives (fun column filed => ?_) fun absent => ?_
  · rw [declareColumn_of_some typeName filed]
  · simp only [declareColumn, bind_apply, read_apply, absent]
    rfl

end EntityOverlay

/-! ## Operations that meet demands -/

/-- What a look-up of a real object demands: its column, where it is one, of the overlay that is
found for the column's entity. -/
def RealObject.demand? (overlay? : SchemaEntity → Option EntityOverlay) :
    RealObject → Option Demand
  | .column owner field => (overlay? owner).map fun entity => ⟨entity, field.name, none⟩
  | .container _ | .entity _ => none

namespace Operation

/-- The column that an operation demands, on the overlay that it leads to. -/
def demand? (store : Store) : Operation → Option Demand
  | findColumn entity name true => some ⟨entity, name, none⟩
  | declareColumn entity name typeName => some ⟨entity, name, some typeName⟩
  | findObject model object true =>
    object.demand? fun owner => (model.findEntity owner true store).value
  | resolveObject resolver (.real object) true =>
    object.demand? fun owner => (resolver.resolveEntity (.real owner) true store).value
  | bindingSettings resolver binding true =>
    (resolver.resolveBinding binding true store).value.map fun entity =>
      ⟨entity, binding.column.name, none⟩
  | _ => none

/-- What operations demand, one after the other. -/
def demands : Store → List Operation → List Demand
  | _, [] => []
  | store, operation :: later =>
    (operation.demand? store).toList ++ demands (operation.perform store) later

/-- What operations demand of an overlay, one after the other. -/
def demandsOn (entity : EntityOverlay) (store : Store) (operations : List Operation) :
    List Demand :=
  (demands store operations).filter (·.entity = entity)

end Operation

theorem Model.findObject_meets {store : Store} {model : Model} (sound : store.Sound)
    (lives : store.modelLives model = true) (object : RealObject) :
    (model.findObject object true).Meets store
      (object.demand? fun owner => (model.findEntity owner true store).value) := by
  cases object with
  | container id =>
      rw [RealObject.demand?, findObject]
      split
      · exact .of_store_eq rfl
      · exact .of_makes (.bind (findScope_makes lives id true) (.pure _)) (by decide)
  | entity owner =>
      exact .of_makes (.bind (entityById_makes lives owner.id true) (.pure _)) (by decide)
  | column owner column =>
      refine .after (entityById_makes lives owner.id true) (by decide) ?_
      rw [RealObject.demand?, findEntity]
      cases yields : (model.entityById owner.id true store).value with
      | none => exact .of_store_eq rfl
      | some overlay =>
          have alive := entityLives_of_entityById sound lives yields
          exact .before (overlay.findColumn_meets alive column.name) (.pure _) (List.nil_subset _)

namespace Resolver

variable {store : Store} {resolver : Resolver}

theorem resolveObject_meets (sound : store.Sound) (object : RealObject) :
    (resolver.resolveObject (.real object) true).Meets store
      (object.demand? fun owner => (resolver.resolveEntity (.real owner) true store).value) := by
  cases registered : resolver.model? object.dataSource store with
  | none =>
      have nothing : (object.demand? fun owner =>
          (resolver.resolveEntity (.real owner) true store).value) = none := by
        cases object with
        | column owner column =>
            simp only [RealObject.demand?, resolveEntity_of_none registered, Option.map_none]
        | _ => rfl
      rw [nothing]
      exact .of_store_eq (congrArg Outcome.store (resolveObject_of_none registered))
  | some model =>
      have same : (object.demand? fun owner =>
          (resolver.resolveEntity (.real owner) true store).value) =
            object.demand? fun owner => (model.findEntity owner true store).value := by
        cases object with
        | column owner column =>
            simp only [RealObject.demand?, resolveEntity_of_some registered, Model.findEntity]
        | _ => rfl
      have meets := Model.findObject_meets sound (modelLives_of_model? registered) object
      rw [same]
      constructor
      · rw [resolveObject_of_some registered]
        exact meets.columns
      · rw [resolveObject_of_some registered]
        exact meets.lives

theorem bindingSettings_meets (sound : store.Sound) {binding : Binding}
    (lives : binding.lives store = true) :
    (resolver.bindingSettings binding true).Meets store
      ((resolver.resolveBinding binding true store).value.map fun entity =>
        ⟨entity, binding.column.name, none⟩) := by
  have makes : (resolver.resolveBinding binding true).Makes store _ :=
    resolveBinding_makes binding true
  refine .after makes (by decide) ?_
  cases resolved : (resolver.resolveBinding binding true store).value with
  | none => exact .of_store_eq rfl
  | some entity =>
      have alive := entityLives_of_resolveBinding sound lives resolved
      refine .before (entity.findColumn_meets alive binding.column.name) ?_ (List.Subset.refl _)
      split
      · exact .pure _
      · rename_i column found
        have living := EntityOverlay.columnLives_of_findColumn (makes.sound sound) alive found
        exact ColumnOverlay.resolveSettings_makes living true

end Resolver

/-- A permitted operation meets its demand and makes no other column. -/
theorem Operation.meets {store : Store} {operation : Operation} (sound : store.Sound)
    (permitted : operation.isPermitted store = true) :
    operation.action.Meets store (operation.demand? store) := by
  have frame := Action.Meets.of_makes (makes sound permitted)
  cases operation with
  | findColumn entity name create =>
      cases create with
      | false => exact frame (by simp [kinds])
      | true => exact (entity.findColumn_meets permitted name).silent
  | declareColumn entity name typeName =>
      exact (entity.declareColumn_meets permitted name typeName).silent
  | findObject model object create =>
      cases create with
      | false => exact frame (by simp [kinds])
      | true => exact (model.findObject_meets sound permitted object).silent
  | resolveObject resolver object create =>
      cases object with
      | overlay object => exact .of_store_eq rfl
      | real object =>
          cases create with
          | false => exact frame (by simp [kinds])
          | true => exact (resolver.resolveObject_meets sound object).silent
  | bindingSettings resolver binding create =>
      cases create with
      | false => exact frame (by simp [kinds])
      | true => exact (Resolver.bindingSettings_meets sound permitted).silent
  | _ => exact frame (by simp [kinds])

/-! ## Runs -/

namespace Operation

/-- Only a declaration demands a column with a type. -/
theorem demand?_eq_declared_iff {store : Store} {operation : Operation} {entity : EntityOverlay}
    {name typeName : String} :
    operation.demand? store = some ⟨entity, name, some typeName⟩ ↔
      operation = .declareColumn entity name typeName := by
  constructor
  · intro demands
    unfold demand? at demands
    split at demands
    · cases demands
    · cases demands
      rfl
    · rename_i object
      cases object with
      | column owner column => simp [RealObject.demand?] at demands
      | _ => cases demands
    · rename_i object
      cases object with
      | column owner column => simp [RealObject.demand?] at demands
      | _ => cases demands
    · simp at demands
    · cases demands
  · rintro rfl
    rfl

/-- Whether a column is declared with a type before anything else demands one of its name. -/
def FirstDeclares (entity : EntityOverlay) (name typeName : String) (store : Store)
    (operations : List Operation) : Prop :=
  ∃ front later, operations = front ++ .declareColumn entity name typeName :: later ∧
    ∀ demand ∈ demandsOn entity store front, demand.name ≠ name

theorem demandsOn_cons (entity : EntityOverlay) (store : Store) (operation : Operation)
    (later : List Operation) :
    demandsOn entity store (operation :: later) =
      (operation.demand? store).toList.filter (·.entity = entity) ++
        demandsOn entity (operation.perform store) later := by
  rw [demandsOn, demands, List.filter_append]
  rfl

theorem mem_demandsOn_cons {entity : EntityOverlay} {store : Store} {operation : Operation}
    {later : List Operation} {demand : Demand} :
    demand ∈ demandsOn entity store (operation :: later) ↔
      (operation.demand? store = some demand ∧ demand.entity = entity) ∨
        demand ∈ demandsOn entity (operation.perform store) later := by
  simp [demandsOn_cons, List.mem_filter]

/-- A column is declared first by the first operation, or else by a later one when the first one
does not demand its name. -/
theorem firstDeclares_cons_iff {entity : EntityOverlay} {name typeName : String} {store : Store}
    {operation : Operation} {later : List Operation} :
    FirstDeclares entity name typeName store (operation :: later) ↔
      operation = .declareColumn entity name typeName ∨
        (∀ demand, operation.demand? store = some demand → demand.entity = entity →
            demand.name ≠ name) ∧
          FirstDeclares entity name typeName (operation.perform store) later := by
  constructor
  · rintro ⟨front, back, split, other⟩
    cases front with
    | nil => exact .inl (List.cons.inj split).1
    | cons first front =>
        obtain ⟨rfl, rest⟩ := List.cons.inj split
        refine .inr ⟨fun demand wants here => ?_, front, back, rest, fun demand mem => ?_⟩
        · exact other demand (mem_demandsOn_cons.mpr (.inl ⟨wants, here⟩))
        · exact other demand (mem_demandsOn_cons.mpr (.inr mem))
  · rintro (rfl | ⟨apart, front, back, rfl, other⟩)
    · exact ⟨[], later, rfl, by simp [demandsOn, demands]⟩
    · refine ⟨operation :: front, back, rfl, fun demand mem => ?_⟩
      rcases mem_demandsOn_cons.mp mem with ⟨wants, here⟩ | mem
      · exact apart demand wants here
      · exact other demand mem

/-- The first demand for a name wants a type exactly when it declares the column with it. -/
theorem find?_demandsOn_iff {entity : EntityOverlay} {name typeName : String} {store : Store}
    {operations : List Operation} :
    (demandsOn entity store operations).find? (·.name == name) =
        some ⟨entity, name, some typeName⟩ ↔
      FirstDeclares entity name typeName store operations := by
  induction operations generalizing store with
  | nil => simp [demandsOn, demands, FirstDeclares]
  | cons operation later ih =>
      rw [demandsOn_cons, List.find?_append, firstDeclares_cons_iff,
        ← @demand?_eq_declared_iff store]
      -- Either the first operation already demands the name, or it does not matter.
      by_cases wanted : ∃ demand, operation.demand? store = some demand ∧
          demand.entity = entity ∧ demand.name = name
      · obtain ⟨demand, wants, here, named⟩ := wanted
        simp [wants, here, named]
      · push Not at wanted
        have skipped : ((operation.demand? store).toList.filter (·.entity = entity)).find?
            (·.name == name) = none := by
          simpa [List.find?_eq_none, List.mem_filter] using wanted
        rw [skipped, Option.none_or, ih]
        constructor
        · exact fun declares => .inr ⟨wanted, declares⟩
        · rintro (declares | ⟨-, declares⟩)
          · exact absurd rfl (wanted _ declares rfl)
          · exact declares

theorem demands_append {before after : Store} {operations : List Operation}
    (run : Run before operations after) (later : List Operation) :
    demands before (operations ++ later) = demands before operations ++ demands after later := by
  induction run with
  | done => rfl
  | next _ _ ih => rw [List.cons_append, demands, demands, ih, List.append_assoc]

end Operation

namespace Run

variable {before after : Store} {operations : List Operation}

/-- Columns that answer the demands so far answer those of a run once it is over. -/
theorem answers (run : Run before operations after) (sound : before.Sound)
    (entity : EntityOverlay) {past : List Demand}
    (answered : Demand.AnsweredBy past (before.declared entity).columns) :
    Demand.AnsweredBy (past ++ Demand.under entity.number (Operation.demands before operations))
      (after.declared entity).columns := by
  induction run generalizing past with
  | done => simpa [Operation.demands, Demand.under] using answered
  | next permitted _ ih =>
      have step := answered.meet ((Operation.meets sound permitted).columns entity)
      rw [Operation.demands, Demand.under_append, ← List.append_assoc]
      exact ih (Operation.sound_perform sound permitted) step

/-- In a run's ledger stands every overlay that something was demanded of. -/
theorem has_demanded (run : Run before operations after) {ledger : Ledger}
    (sound : before.SoundFor ledger) :
    ∃ larger, after.SoundFor larger ∧ (∀ object, ledger.Has object → larger.Has object) ∧
      ∀ demand ∈ Operation.demands before operations, larger.Has (.entity demand.entity) := by
  induction run generalizing ledger with
  | done => exact ⟨ledger, sound, fun _ has => has, by simp [Operation.demands]⟩
  | next permitted _ ih =>
      obtain ⟨changes, trace, -⟩ := Operation.makes ⟨ledger, sound⟩ permitted
      obtain ⟨middle, between, first⟩ := trace.soundFor sound
      obtain ⟨larger, last, second, known⟩ := ih between
      refine ⟨larger, last, fun object has => second object (first object has), ?_⟩
      intro demand mem
      rcases List.mem_append.mp mem with here | later
      · have lives := (Operation.meets ⟨ledger, sound⟩ permitted).lives demand
          (Option.mem_toList.mp here)
        exact second _ (between.has_entity lives)
      · exact known demand later

/-- The demands on the number of an overlay that lives during the run are those on the overlay. -/
theorem under_eq_demandsOn (run : Run .empty operations before) {entity : EntityOverlay}
    (lives : before.entityLives entity = true) {later : List Operation}
    (further : Run before later after) :
    Demand.under entity.number (Operation.demands .empty (operations ++ later)) =
      Operation.demandsOn entity .empty (operations ++ later) := by
  -- All demands are on overlays of one ledger, in which no two objects share a number.
  obtain ⟨start, sound⟩ := Store.Sound.empty
  obtain ⟨middle, between, -, early⟩ := run.has_demanded sound
  obtain ⟨larger, -, grown, late⟩ := further.has_demanded between
  have listed : larger.Has (.entity entity) := grown _ (between.has_entity lives)
  refine List.filter_congr fun demand mem => ?_
  have known : larger.Has (.entity demand.entity) := by
    rw [Operation.demands_append run, List.mem_append] at mem
    rcases mem with sooner | later
    · exact grown _ (early demand sooner)
    · exact late demand later
  have same : demand.entity.number = entity.number ↔ demand.entity = entity :=
    ⟨fun number => OverlayObject.entity.inj (known.inj listed number), congrArg _⟩
  rw [Bool.eq_iff_iff, beq_iff_eq, decide_eq_true_iff, same]

/-- The columns of an overlay only grow: one for each name that was demanded, in the order of the
first demands.  A column has a type exactly when its first demand declared it with that type, and
whatever asks for its name later, in whatever way, gets this column and leaves it as it is. -/
theorem columns_by_first_demand (run : Run .empty operations before) {entity : EntityOverlay}
    (lives : before.entityLives entity = true) {later : List Operation}
    (further : Run before later after) :
    (before.declared entity).columns <+: (after.declared entity).columns ∧
      (after.declared entity).columns.map (·.name) =
        ((Operation.demandsOn entity .empty (operations ++ later)).map (·.name)).eraseDups ∧
      (∀ column ∈ (after.declared entity).columns, ∀ typeName,
        column.typeName = some typeName ↔
          Operation.FirstDeclares entity column.name typeName .empty (operations ++ later)) ∧
      ∀ column ∈ (before.declared entity).columns,
        (∀ create, entity.findColumn column.name create after = ⟨some column, after, []⟩) ∧
          ∀ typeName, entity.declareColumn column.name typeName after = ⟨column, after, []⟩ := by
  have sound : before.Sound := run.sound .empty
  have whole := run.append further
  have answered := whole.answers .empty entity .nil
  rw [List.nil_append, run.under_eq_demandsOn lives further] at answered
  have grows : before.Grows after := further.grows sound
  refine ⟨grows.columns entity, answered.names, fun column mem typeName => ?_, fun column mem => ?_⟩
  · obtain ⟨demand, first, same⟩ := answered.first column mem
    have wanted := List.find?_some first
    have listed := List.mem_of_find?_eq_some first
    simp only [Operation.demandsOn, List.mem_filter, decide_eq_true_eq] at listed
    obtain ⟨owner, name, kind⟩ := demand
    obtain rfl : owner = entity := listed.2
    obtain rfl : name = column.name := by simpa using wanted
    rw [← Operation.find?_demandsOn_iff, first, ← same]
    simp
  · obtain ⟨ledger, sound⟩ := sound
    have still := grows.column? (sound.column?_of_mem (sound.has_entity lives) mem)
    exact ⟨fun create => EntityOverlay.findColumn_of_some still,
      fun typeName => EntityOverlay.declareColumn_of_some typeName still⟩

end Run

/-! ## Demands on the overlay of a table of clients -/

namespace Salon

def resolver : Resolver := ⟨0, {}, []⟩

def model : Model := ⟨0, "salon"⟩

def clients : SchemaEntity := .unreadable ⟨"salon", ["main", "clients"]⟩ "offline"

def overlay : EntityOverlay := .ofEntity 1 clients.id model

def phone : ColumnOverlay := ⟨2, "phone", none, overlay⟩

def nick : ColumnOverlay := ⟨3, "nick", some "text", overlay⟩

def mail : ColumnOverlay := ⟨4, "mail", none, overlay⟩

def age : ColumnOverlay := ⟨6, "age", some "int4", overlay⟩

/-- One column is resolved, one is declared and one gets settings. -/
def setup : List Operation :=
  [.createModel model.dataSource (.unreachable "offline"), .register resolver model,
    .resolveObject resolver (.real (.column clients (.ofType "phone" "int8"))) true,
    .declareColumn overlay "nick" "text",
    .bindingSettings resolver (.ofEntity (.real clients) (.ofType "mail" "text")) true]

/-- Two of them are declared once more, with other types, before and after a new one. -/
def further : List Operation :=
  [.declareColumn overlay "phone" "uuid", .findColumn overlay "age" false,
    .declareColumn overlay "age" "int4", .findColumn overlay "age" true,
    .declareColumn overlay "nick" "varchar"]

def store : Store := setup.foldl (fun store operation => operation.perform store) .empty

def later : Store := further.foldl (fun store operation => operation.perform store) store

/-- The later declarations leave the columns of their names as they are, and one that is only looked
for makes none. -/
theorem columns_by_first_demand_clients :
    Run .empty setup store ∧ store.entityLives overlay = true ∧ Run store further later ∧
      (store.declared overlay).columns = [phone, nick, mail] ∧
      (later.declared overlay).columns = [phone, nick, mail, age] ∧
      (Operation.demandsOn overlay .empty (setup ++ further)).map (·.name) =
        ["phone", "nick", "mail", "phone", "age", "age", "nick"] ∧
      (later.declared overlay).columns.map (·.name) =
        ["phone", "nick", "mail", "phone", "age", "age", "nick"].eraseDups ∧
      Operation.FirstDeclares overlay "nick" "text" .empty (setup ++ further) ∧
      ¬ Operation.FirstDeclares overlay "phone" "uuid" .empty (setup ++ further) ∧
      overlay.declareColumn "phone" "uuid" later = ⟨phone, later, []⟩ := by
  have run : Run .empty setup store := Run.of_permits (by decide)
  have lives : store.entityLives overlay = true := by decide
  have further : Run store further later := Run.of_permits (by decide)
  obtain ⟨-, names, declared, kept⟩ := Run.columns_by_first_demand run lives further
  have demanded : (Operation.demandsOn overlay .empty (setup ++ Salon.further)).map (·.name) =
      ["phone", "nick", "mail", "phone", "age", "age", "nick"] := by decide
  refine ⟨run, lives, further, by decide, by decide, demanded, demanded ▸ names, ?_, ?_, ?_⟩
  · exact (declared nick (by decide) "text").mp rfl
  · exact fun first => by cases (declared phone (by decide) "uuid").mpr first
  · exact (kept phone (by decide)).2 "uuid"

end Salon

end SchemaOverlay
