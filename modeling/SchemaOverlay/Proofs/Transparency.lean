import SchemaOverlay.Proofs.Attachment
import SchemaOverlay.Proofs.Creation
import SchemaOverlay.Proofs.Queries
import SchemaOverlay.Proofs.Selection

/-!
# Transparent overlays

An overlay that has just come into being declares nothing and owns no settings.
It may stand between other objects and change the way outwards, but no query
tells it from an overlay that is missing: what is merged, what describes a row,
which settings apply and which transformers are selected stay the same for every
entity and every bound column.
-/

namespace SchemaOverlay

open SchemaOverlay.Action Change.Kind

/-! ## Stores that look the same -/

/-- What an overlay declares; nothing when it is missing. -/
def Store.declaredBy (store : Store) (overlay : Option EntityOverlay) : Declarations :=
  overlay.elim .empty store.declared

/-- Whether a store shows queries what another one shows them, whatever overlays it has besides. -/
structure Store.Transparent (before after : Store) : Prop where
  registries : after.registries = before.registries
  held : after.held = before.held
  settings : after.settings = before.settings
  declarations : after.declarations = before.declarations
  catalogs : ∀ model, (after.modelState model).catalog = (before.modelState model).catalog
  entities : ∀ model id,
    after.declaredBy (after.entity? model id) = before.declaredBy (before.entity? model id)
  orphans : ∀ key,
    after.declaredBy (after.orphans.get? key) = before.declaredBy (before.orphans.get? key)
  /-- No query gets at a column that is not declared. -/
  inherited : ∀ entity, ∀ column ∈ (before.declared entity).columns,
    (OverlayObject.column column).effectiveSettings? after =
      (OverlayObject.column column).effectiveSettings? before

namespace Store.Transparent

variable {before middle after : Store}

theorem refl (store : Store) : store.Transparent store where
  registries := rfl
  held := rfl
  settings := rfl
  declarations := rfl
  catalogs _ := rfl
  entities _ _ := rfl
  orphans _ := rfl
  inherited _ _ _ := rfl

theorem declared (transparent : before.Transparent after) (entity : EntityOverlay) :
    after.declared entity = before.declared entity := by
  simp only [Store.declared, transparent.declarations]

theorem trans (front : before.Transparent middle) (back : middle.Transparent after) :
    before.Transparent after where
  registries := back.registries.trans front.registries
  held := back.held.trans front.held
  settings := back.settings.trans front.settings
  declarations := back.declarations.trans front.declarations
  catalogs model := (back.catalogs model).trans (front.catalogs model)
  entities model id := (back.entities model id).trans (front.entities model id)
  orphans key := (back.orphans key).trans (front.orphans key)
  inherited entity column mem := by
    refine (back.inherited entity column ?_).trans (front.inherited entity column mem)
    rwa [front.declared]

end Store.Transparent

/-! ## Nothing belongs to unused numbers -/

namespace Store.SoundFor

variable {store : Store} {ledger : Ledger}

theorem declared_fresh (sound : store.SoundFor ledger) {overlay : EntityOverlay}
    (new : overlay.number = store.fresh) : store.declared overlay = .empty := by
  unfold Store.declared
  cases filed : store.declarations.get? overlay.number with
  | none => rfl
  | some declared =>
      obtain ⟨entity, number, recorded⟩ := sound.declared _ _ filed
      have lt := sound.number_lt recorded.listed
      exact absurd (number.trans new) (Nat.ne_of_lt lt)

theorem ownSettings?_fresh (sound : store.SoundFor ledger) {object : OverlayObject}
    (new : object.number = store.fresh) : store.ownSettings? object = none := by
  rw [ownSettings?, Option.map_eq_none_iff, List.find?_eq_none]
  intro slot mem same
  have lt := sound.number_lt (sound.slots slot mem).1
  rw [beq_iff_eq.mp same, new] at lt
  exact Nat.lt_irrefl _ lt

end Store.SoundFor

/-! ## Changes that declare nothing -/

/-- From an identity outwards the settings are those of the innermost scope that owns some. -/
theorem Store.findSome?_outwards (store : Store) (model : Model) (id : ObjectId) :
    (store.outwards model id).findSome? store.ownSettings? =
      (id.ancestors.findSome? fun outer =>
        (store.scope? model outer).bind fun scope => store.ownSettings? (.scope scope)).or
          (store.ownSettings? (.model model)) := by
  rw [outwards, enclosing_eq, List.findSome?_append, List.findSome?_map, ← List.head?_filterMap,
    List.filterMap_filterMap, List.head?_filterMap, List.findSome?_singleton]
  rfl

namespace Change

variable {store : Store} {ledger : Ledger} {change : Change}

/-- Changes that bring overlays into being and declare nothing on them. -/
def Kind.bare : List Kind := [.report, .entity, .scope, .orphan]

theorem entityLives_addScope (model : Model) (id : ObjectId) (entity : EntityOverlay) :
    ((addScope model id).apply store).entityLives entity = store.entityLives entity := by
  have lives : ((addScope model id).apply store).modelLives entity.model =
      store.modelLives entity.model := Store.modelLives_congr rfl rfl _
  have filed : ((addScope model id).apply store).isFiled entity = store.isFiled entity := by
    simp only [Store.isFiled, entity?_addScope]
  rw [Store.entityLives, lives, filed]
  rfl

/-- A new scope owns nothing, so what is around it applies as before. -/
theorem findSome?_outwards_addScope (sound : store.SoundFor ledger) {model : Model} {id : ObjectId}
    (absent : store.scope? model id = none) (owner : Model) (wanted : ObjectId) :
    (((addScope model id).apply store).outwards owner wanted).findSome? store.ownSettings? =
      (store.outwards owner wanted).findSome? store.ownSettings? := by
  have own : ((addScope model id).apply store).ownSettings? = store.ownSettings? := rfl
  have scopes (outer : ObjectId) :
      ((((addScope model id).apply store).scope? owner outer).bind fun scope =>
        store.ownSettings? (.scope scope)) =
      (store.scope? owner outer).bind fun scope => store.ownSettings? (.scope scope) := by
    rw [scope?_addScope_eq]
    split
    · rename_i here
      have bare : store.scope? owner outer = none := by
        rwa [here.2, Store.scope?_of_number here.1]
      rw [bare, Option.bind_some, sound.ownSettings?_fresh rfl, Option.bind_none]
    · rfl
  rw [← own, Store.findSome?_outwards, own, Store.findSome?_outwards]
  simp only [scopes]

theorem effectiveSettings?_addScope (sound : store.SoundFor ledger) {model : Model} {id : ObjectId}
    (allowed : (addScope model id).Allowed store) (column : ColumnOverlay) :
    (OverlayObject.column column).effectiveSettings? ((addScope model id).apply store) =
      (OverlayObject.column column).effectiveSettings? store := by
  have lives (owner : Model) : ((addScope model id).apply store).modelLives owner =
      store.modelLives owner := Store.modelLives_congr rfl rfl _
  have own : ((addScope model id).apply store).ownSettings? = store.ownSettings? := rfl
  have around : (((addScope model id).apply store).levelsAround column.entity).findSome?
      store.ownSettings? = (store.levelsAround column.entity).findSome? store.ownSettings? := by
    rw [Store.levelsAround, Store.levelsAround, lives]
    split
    · cases column.entity.id? with
      | some wanted => exact findSome?_outwards_addScope sound allowed.2.2.2 _ _
      | none => rfl
    · rfl
  rw [OverlayObject.effectiveSettings?_column (sound_apply ⟨ledger, sound⟩ allowed),
    OverlayObject.effectiveSettings?_column ⟨ledger, sound⟩, own, Store.levels, Store.levels,
    entityLives_addScope]
  split
  · simp only [List.findSome?_cons, around]
  · rfl

/-- What applies to a known column does not depend on overlays without settings. -/
theorem effectiveSettings?_bare (sound : store.SoundFor ledger) (allowed : change.Allowed store)
    (listed : change.kind ∈ Kind.bare) {column : ColumnOverlay}
    (has : ledger.Has (.column column)) :
    (OverlayObject.column column).effectiveSettings? (change.apply store) =
      (OverlayObject.column column).effectiveSettings? store := by
  -- Only a new scope changes the levels of a column; the others leave them as they are.
  by_cases scope : change.kind = .scope
  · cases change with
    | addScope model id => exact effectiveSettings?_addScope sound allowed column
    | _ => cases scope
  · have attaching : ∀ kind ∈ Kind.bare, kind ≠ .scope → kind ∈ Kind.attaching := by decide
    have other : ∀ kind ∈ Kind.bare, kind ≠ .slot := by decide
    have own : (change.apply store).ownSettings? = store.ownSettings? := by
      funext object
      simp only [Store.ownSettings?, slots_apply (other _ listed)]
    rw [OverlayObject.effectiveSettings?_column (sound_apply ⟨ledger, sound⟩ allowed),
      OverlayObject.effectiveSettings?_column ⟨ledger, sound⟩, own,
      levels_attaching sound allowed (attaching _ listed scope) has]

/-- A new overlay of an entity declares what the missing one did. -/
theorem declaredBy_entity?_bare (sound : store.SoundFor ledger) (allowed : change.Allowed store)
    (listed : change.kind ∈ Kind.bare) (owner : Model) (wanted : ObjectId) :
    (change.apply store).declaredBy ((change.apply store).entity? owner wanted) =
      store.declaredBy (store.entity? owner wanted) := by
  cases change with
  | addEntity model id =>
      rw [entity?_addEntity_eq]
      split
      · rename_i here
        have absent : store.entity? owner wanted = none := by
          rw [here.2, Store.entity?_of_number here.1]
          exact allowed.2.2
        rw [absent]
        exact sound.declared_fresh rfl
      · rfl
  | addScope model id => rw [entity?_addScope]; rfl
  | report | addOrphan => rfl
  | _ => simp [kind, Kind.bare] at listed

theorem declaredBy_orphan_bare (sound : store.SoundFor ledger) (allowed : change.Allowed store)
    (listed : change.kind ∈ Kind.bare) (key : String) :
    (change.apply store).declaredBy ((change.apply store).orphans.get? key) =
      store.declaredBy (store.orphans.get? key) := by
  cases change with
  | addOrphan model filing name =>
      rw [apply_addOrphan, SortedMap.get?_insert]
      split
      · rename_i same
        rw [same, allowed.2]
        exact sound.declared_fresh rfl
      · rfl
  | report | addEntity | addScope => rfl
  | _ => simp [kind, Kind.bare] at listed

theorem catalog_bare (listed : change.kind ∈ Kind.bare) (owner : Model) :
    ((change.apply store).modelState owner).catalog = (store.modelState owner).catalog := by
  cases change with
  | addEntity model id | addScope model id =>
      simp only [apply_addEntity, apply_addScope, Store.modelState, SortedMap.get?_insert]
      by_cases here : owner.number = model.number <;> simp [here]
  | report | addOrphan => rfl
  | _ => simp [kind, Kind.bare] at listed

/-- Bringing an overlay into being shows in no view of the store. -/
theorem transparent (sound : store.Sound) (allowed : change.Allowed store)
    (listed : change.kind ∈ Kind.bare) : store.Transparent (change.apply store) := by
  obtain ⟨ledger, sound⟩ := sound
  have registry : ∀ kind ∈ Kind.bare, kind ≠ .registry := by decide
  have held : ∀ kind ∈ Kind.bare, kind ∉ [.model, .settings, .detached, .hold] := by decide
  have declaration : ∀ kind ∈ Kind.bare, kind ∉ [.column, .declaration] := by decide
  constructor
  case registries => exact registries_apply allowed (registry _ listed)
  case held => exact held_apply allowed (held _ listed)
  case settings =>
    cases change with
    | report | addEntity | addScope | addOrphan => rfl
    | _ => simp [kind, Kind.bare] at listed
  case declarations => exact declarations_apply allowed (declaration _ listed)
  case catalogs => exact catalog_bare listed
  case entities => exact declaredBy_entity?_bare sound allowed listed
  case orphans => exact declaredBy_orphan_bare sound allowed listed
  case inherited =>
    intro entity column mem
    exact effectiveSettings?_bare sound allowed listed (sound.has_declared mem)

end Change

/-! ## Operations that declare nothing -/

theorem Trace.transparent {before after : Store} {changes : List Change} {events : List Event}
    (trace : Trace before changes events after) (sound : before.Sound)
    (listed : ∀ change ∈ changes, change.kind ∈ Change.Kind.bare) : before.Transparent after := by
  induction trace with
  | done => exact .refl _
  | next allowed _ ih =>
      have here := Change.transparent sound allowed (listed _ List.mem_cons_self)
      exact here.trans (ih (Change.sound_apply sound allowed)
        fun change mem => listed change (List.mem_cons_of_mem _ mem))

theorem Action.Makes.transparent {α : Type} {action : Action α} {store : Store}
    {kinds : List Change.Kind} (makes : action.Makes store kinds) (sound : store.Sound)
    (bare : kinds ⊆ Change.Kind.bare) : store.Transparent (action store).store := by
  obtain ⟨changes, trace, listed⟩ := makes
  exact trace.transparent sound fun change mem => bare (listed change mem)

namespace Operation

/-- Operations that at most bring overlays of entities, of containers or of scopes into being. -/
inductive Bare : Operation → Prop where
  | entityById (model : Model) (id : ObjectId) (create : Bool) : Bare (.entityById model id create)
  | findEntity (model : Model) (entity : SchemaEntity) (create : Bool) :
    Bare (.findEntity model entity create)
  | findScope (model : Model) (id : ObjectId) (create : Bool) : Bare (.findScope model id create)
  | resolveEntity (resolver : Resolver) (entity : EntityRef) (create : Bool) :
    Bare (.resolveEntity resolver entity create)
  | resolveContainer (resolver : Resolver) (container : ContainerRef) (create : Bool) :
    Bare (.resolveContainer resolver container create)
  | resolveBinding (resolver : Resolver) (binding : Binding) (create : Bool) :
    Bare (.resolveBinding resolver binding create)
  | resolveScope (resolver : Resolver) (id : ObjectId) (create : Bool) :
    Bare (.resolveObject resolver (.real (.container id)) create)
  | fileOrphan (model : Model) (key name : String) : Bare (.fileOrphan model key name)

theorem creating_subset_bare (create : Bool) {kinds : List Change.Kind}
    (included : kinds ⊆ Change.Kind.bare) : creating create kinds ⊆ Change.Kind.bare := by
  intro kind mem
  rcases mem_creating.mp mem with rfl | ⟨-, mem⟩
  · decide
  · exact included mem

/-- Resolving a container of the schema makes a scope at most. -/
theorem resolveScope_makes {store : Store} (resolver : Resolver) (id : ObjectId) (create : Bool) :
    (resolver.resolveObject (.real (.container id)) create).Makes store
      (creating create [.scope]) := by
  refine .bind (Resolver.requireModel_makes _ (report_mem_creating _ _)) ?_
  cases registered : resolver.model? id.dataSource store with
  | none =>
      rw [RealObject.dataSource, Resolver.requireModel_of_none registered]
      exact .pure _
  | some model =>
      rw [RealObject.dataSource, Resolver.requireModel_of_some registered]
      simp only [Model.findObject]
      split
      · exact .pure _
      · exact .bind (Model.findScope_makes (Resolver.modelLives_of_model? registered) id create)
          (.pure _)

/-- Such an operation shows in no view of the store. -/
theorem Bare.transparent {operation : Operation} (bare : operation.Bare) {store : Store}
    (sound : store.Sound) (permitted : operation.isPermitted store = true) :
    store.Transparent (operation.perform store) := by
  have makes := Operation.makes sound permitted
  cases bare with
  | entityById _ _ create | findEntity _ _ create | findScope _ _ create
  | resolveEntity _ _ create | resolveContainer _ _ create | resolveBinding _ _ create =>
      exact makes.transparent sound (creating_subset_bare create (by decide))
  | resolveScope resolver id create =>
      exact (resolveScope_makes resolver id create).transparent sound
        (creating_subset_bare create (by decide))
  | fileOrphan _ _ _ => exact makes.transparent sound (show [.orphan] ⊆ Change.Kind.bare by decide)

end Operation

theorem Run.transparent {before after : Store} {operations : List Operation}
    (run : Run before operations after) (sound : before.Sound)
    (bare : ∀ operation ∈ operations, operation.Bare) : before.Transparent after := by
  induction run with
  | done => exact .refl _
  | next permitted _ ih =>
      have here := (bare _ List.mem_cons_self).transparent sound permitted
      exact here.trans (ih (Operation.sound_perform sound permitted)
        fun operation mem => bare operation (List.mem_cons_of_mem _ mem))

/-! ## What queries see -/

/-- An overlay is looked up among those of the model's own data source. -/
theorem Model.value_entityById_false (model : Model) (id : ObjectId) (store : Store) :
    (model.entityById id false store).value =
      if id.dataSource = model.dataSource then store.entity? model id else none := by
  by_cases own : id.dataSource = model.dataSource
  · rw [if_pos own]
    cases filed : store.entity? model id with
    | some entity => rw [entityById_of_some own filed]
    | none => rw [entityById_false own filed]
  · rw [if_neg own, entityById_of_foreign own]

/-- A column is looked up among those that were declared. -/
theorem EntityOverlay.value_findColumn_false (entity : EntityOverlay) (name : String)
    (store : Store) : (entity.findColumn name false store).value = store.column? entity name := by
  cases filed : store.column? entity name with
  | some column => rw [findColumn_of_some filed]
  | none => rw [findColumn_of_none filed, if_neg Bool.false_ne_true]

namespace Resolver

variable {α : Type}

/-- A merge sees of an overlay only what it declares. -/
theorem value_merge (resolver : Resolver) (entity : EntityRef)
    (items : SchemaEntity → Except SourceError (List α)) {declared : Declarations → List α}
    (bare : declared .empty = []) (store : Store) :
    (resolver.merge entity items declared store).value =
      (entity.realItems items store).map fun reported =>
        reported ++ (declared (store.declaredBy
          (resolver.resolveEntity entity false store).value)).map .declared := by
  have kept := (resolver.resolveEntity_quiet store entity).store_eq
  simp only [merge, bind_apply, read_apply]
  cases entity.realItems items store with
  | error error => rfl
  | ok reported =>
      simp only [bind_apply, Except.map]
      cases (resolver.resolveEntity entity false store).value with
      | none => simp [Store.declaredBy, bare]
      | some overlay => simp only [bind_apply, read_apply, kept]; rfl

/-- So does whoever asks what describes the rows. -/
theorem value_descriptionColumns (resolver : Resolver) (entity : EntityRef) (key : Column)
    (store : Store) :
    (resolver.descriptionColumns entity key store).value =
      match (store.declaredBy (resolver.resolveEntity entity false store).value).description with
      | some text => .ok (some text)
      | none => resolver.chosenDescription entity key store := by
  have kept := (resolver.resolveEntity_quiet store entity).store_eq
  have same : ((resolver.resolveEntity entity false store).value.bind fun overlay =>
      (store.declared overlay).description) =
        (store.declaredBy (resolver.resolveEntity entity false store).value).description := by
    cases (resolver.resolveEntity entity false store).value <;> rfl
  simp only [descriptionColumns, bind_apply, read_apply, kept, same]
  cases (store.declaredBy (resolver.resolveEntity entity false store).value).description <;> rfl

/-- Settings apply to a bound column that its overlay declares. -/
theorem value_bindingSettings_false (resolver : Resolver) (binding : Binding) (store : Store) :
    (resolver.bindingSettings binding false store).value =
      ((store.declaredBy (resolver.resolveBinding binding false store).value).columns.find?
        (·.name == binding.column.name)).bind fun column =>
          (OverlayObject.column column).effectiveSettings? store := by
  have kept := (resolver.resolveBinding_quiet store binding).store_eq
  simp only [bindingSettings, bind_apply, kept]
  cases (resolver.resolveBinding binding false store).value with
  | none => rfl
  | some entity =>
      have still := (entity.findColumn_quiet binding.column.name store).store_eq
      simp only [bind_apply, entity.value_findColumn_false, still]
      change _ = (store.column? entity binding.column.name).bind _
      cases store.column? entity binding.column.name <;> rfl

theorem value_collectOptions (resolver : Resolver) (binding : Binding) (store : Store) :
    (resolver.collectOptions binding store).value =
      ((resolver.bindingSettings binding false store).value.map fun id =>
        (store.contents id).options).getD .empty := by
  have kept := (resolver.bindingSettings_quiet store binding).store_eq
  simp only [collectOptions, bind_apply, kept]
  cases (resolver.bindingSettings binding false store).value <;> rfl

end Resolver

namespace Store.Transparent

variable {before after : Store} {resolver : Resolver}

theorem real? (transparent : before.Transparent after) (entity : EntityRef) :
    entity.real? after = entity.real? before := by
  cases entity with
  | real entity => rfl
  | overlay overlay =>
      have lives := Store.modelLives_congr transparent.registries transparent.held overlay.model
      simp only [EntityRef.real?, EntityOverlay.realEntity?, lives, transparent.catalogs]

theorem realItems {α : Type} (transparent : before.Transparent after) (entity : EntityRef)
    (items : SchemaEntity → Except SourceError (List α)) :
    entity.realItems items after = entity.realItems items before := by
  simp only [EntityRef.realItems, transparent.real?]

theorem contents (transparent : before.Transparent after) : after.contents = before.contents := by
  funext id
  simp only [Store.contents, transparent.settings]

/-- What an entity resolves to declares the same. -/
theorem resolveEntity (transparent : before.Transparent after) (entity : EntityRef) :
    after.declaredBy (resolver.resolveEntity entity false after).value =
      before.declaredBy (resolver.resolveEntity entity false before).value := by
  cases entity with
  | overlay overlay => exact transparent.declared overlay
  | real entity =>
      have same : resolver.model? entity.dataSource after =
          resolver.model? entity.dataSource before := by
        simp only [Resolver.model?, Store.registry, transparent.registries]
      cases registered : resolver.model? entity.dataSource before with
      | none =>
          rw [Resolver.resolveEntity_of_none registered,
            Resolver.resolveEntity_of_none (same.trans registered)]
          rfl
      | some model =>
          rw [Resolver.resolveEntity_of_some registered,
            Resolver.resolveEntity_of_some (same.trans registered),
            model.value_entityById_false, model.value_entityById_false]
          split
          · exact transparent.entities model entity.id
          · rfl

theorem resolveBinding (transparent : before.Transparent after) (binding : Binding) :
    after.declaredBy (resolver.resolveBinding binding false after).value =
      before.declaredBy (resolver.resolveBinding binding false before).value := by
  rcases binding.leads_cases with ⟨entity, leads⟩ | ⟨container, leads, -⟩
  · rw [Binding.resolveBinding_of_entity? leads]
    exact transparent.resolveEntity entity
  · rw [Binding.eq_ofDetached leads]
    exact transparent.orphans container.key

theorem merge {α : Type} (transparent : before.Transparent after) (entity : EntityRef)
    (items : SchemaEntity → Except SourceError (List α)) {declared : Declarations → List α}
    (bare : declared .empty = []) :
    (resolver.merge entity items declared after).value =
      (resolver.merge entity items declared before).value := by
  rw [resolver.value_merge entity items bare, resolver.value_merge entity items bare,
    transparent.realItems, transparent.resolveEntity]

theorem descriptionColumns (transparent : before.Transparent after) (entity : EntityRef)
    (key : Column) :
    (resolver.descriptionColumns entity key after).value =
      (resolver.descriptionColumns entity key before).value := by
  rw [resolver.value_descriptionColumns, resolver.value_descriptionColumns,
    transparent.resolveEntity]
  simp only [Resolver.chosenDescription, transparent.real?]

theorem bindingSettings (transparent : before.Transparent after) (binding : Binding) :
    (resolver.bindingSettings binding false after).value =
      (resolver.bindingSettings binding false before).value := by
  rw [resolver.value_bindingSettings_false, resolver.value_bindingSettings_false,
    transparent.resolveBinding]
  cases resolved : (resolver.resolveBinding binding false before).value with
  | none => rfl
  | some entity =>
      cases found : (before.declaredBy (some entity)).columns.find?
          (·.name == binding.column.name) with
      | none => rfl
      | some column => exact transparent.inherited entity column (List.mem_of_find?_eq_some found)

theorem collectOptions (transparent : before.Transparent after) (binding : Binding) :
    (resolver.collectOptions binding after).value =
      (resolver.collectOptions binding before).value := by
  rw [resolver.value_collectOptions, resolver.value_collectOptions,
    transparent.bindingSettings, transparent.contents]

theorem selectTransformers (transparent : before.Transparent after) (binding : Binding)
    (custom : Option Bool) :
    (resolver.selectTransformers binding custom after).value =
      (resolver.selectTransformers binding custom before).value := by
  rw [resolver.value_selectTransformers, resolver.value_selectTransformers, Resolver.selection,
    Resolver.selection, transparent.bindingSettings, Store.filterUnder, Store.filterUnder,
    transparent.contents]

end Store.Transparent

/-- However many overlays of entities, of containers outside the schema and of scopes come into
being, no query shows it: the merged metadata, the description columns, the settings and the
options of bound columns and the transformers selected for them are what they were. -/
theorem Store.Reachable.overlays_transparent {before after : Store} (reachable : before.Reachable)
    {operations : List Operation} (run : Run before operations after)
    (bare : ∀ operation ∈ operations, operation.Bare) (resolver : Resolver) :
    (∀ entity : EntityRef,
      (resolver.constraints entity after).value = (resolver.constraints entity before).value ∧
        (resolver.associations entity after).value =
          (resolver.associations entity before).value ∧
        entity.references after = entity.references before ∧
        ∀ key, (resolver.descriptionColumns entity key after).value =
          (resolver.descriptionColumns entity key before).value) ∧
      ∀ binding : Binding,
        (resolver.bindingSettings binding false after).value =
            (resolver.bindingSettings binding false before).value ∧
          (resolver.collectOptions binding after).value =
            (resolver.collectOptions binding before).value ∧
          ∀ custom, (resolver.selectTransformers binding custom after).value =
            (resolver.selectTransformers binding custom before).value := by
  have transparent := run.transparent reachable.sound bare
  refine ⟨fun entity => ⟨?_, ?_, ?_, ?_⟩, fun binding => ⟨?_, ?_, ?_⟩⟩
  · exact transparent.merge entity _ rfl
  · exact transparent.merge entity _ rfl
  · exact transparent.realItems entity _
  · exact transparent.descriptionColumns entity
  · exact transparent.bindingSettings binding
  · exact transparent.collectOptions binding
  · exact transparent.selectTransformers binding

/-! ## A scope between a table and its model -/

namespace Harbor

def resolver : Resolver := ⟨0, {}, []⟩

def model : Model := ⟨0, "harbor"⟩

def ship : SchemaEntity := ⟨⟨"harbor", ["port", "ship"]⟩, .ok [], .ok [], .ok [], .ok []⟩

def shipOverlay : EntityOverlay := .ofEntity 1 ship.id model

def flag : Column := ⟨"flag", "text", none, 0, true⟩

def flagOverlay : ColumnOverlay := ⟨2, "flag", none, shipOverlay⟩

def uniqueKey : Constraint := ⟨"ship_name_vkey", .uniqueKey, ["name"]⟩

/-- The settings of the whole data source. -/
def settings : SettingsId := ⟨3⟩

def setup : List Operation :=
  [.createModel "harbor" (.unreachable "offline"), .register resolver model,
    .entityById model ship.id true, .findColumn shipOverlay "flag" true,
    .declareConstraint shipOverlay uniqueKey, .ownSettings (.model model)]

def store : Store := setup.foldl (fun store operation => operation.perform store) .empty

/-- A scope around the table comes into being, another table's overlay and that of a query. -/
def further : List Operation :=
  [.findScope model ⟨"harbor", ["port"]⟩ true,
    .entityById model ⟨"harbor", ["port", "crane"]⟩ true,
    .resolveContainer resolver (.detached (.query "harbor" "arrivals" "select 1")) true]

def later : Store := further.foldl (fun store operation => operation.perform store) store

/-- The flag of a ship still inherits the settings of the data source, past the new scope, and
the ship has the constraints that it had. -/
theorem overlays_transparent_ship :
    store.Reachable ∧ Run store further later ∧ (∀ operation ∈ further, operation.Bare) ∧
      (later.scope? model ⟨"harbor", ["port"]⟩).isSome = true ∧
      (resolver.bindingSettings (.ofEntity (.real ship) flag) false later).value =
        some settings ∧
      (resolver.constraints (.real ship) later).value = .ok [.declared uniqueKey] := by
  have reachable : store.Reachable := ⟨setup, Run.of_permits (by decide)⟩
  have run : Run store further later := Run.of_permits (by decide)
  have bare : ∀ operation ∈ further, operation.Bare := by
    simp only [further, List.forall_mem_cons]
    exact ⟨.findScope _ _ _, .entityById _ _ _, .resolveContainer _ _ _, by simp⟩
  obtain ⟨entities, bindings⟩ := Store.Reachable.overlays_transparent reachable run bare resolver
  refine ⟨reachable, run, bare, by decide, ?_, ?_⟩
  · rw [(bindings (.ofEntity (.real ship) flag)).1]
    have declared : ((store.declaredBy (resolver.resolveBinding (.ofEntity (.real ship) flag) false
        store).value).columns.find? (·.name == "flag")) = some flagOverlay := by decide
    rw [resolver.value_bindingSettings_false]
    refine (congrArg (Option.bind · _) declared).trans ?_
    rw [Option.bind_some, OverlayObject.effectiveSettings?_column reachable.sound]
    decide +kernel
  · rw [(entities (.real ship)).1]
    rfl

end Harbor

end SchemaOverlay
