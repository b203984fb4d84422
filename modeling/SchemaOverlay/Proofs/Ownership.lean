import SchemaOverlay.Proofs.Attachment
import SchemaOverlay.Proofs.History

/-!
# Settings are owned once

Settings become an object's own the first time that somebody asks for settings
of its own or installs some, and stay its own whatever is done later: everybody
who asks again is handed the same settings, and what others try to install is
left aside.  An edit of settings is therefore seen by all who were ever handed
them and by every column that inherits them.
-/

namespace SchemaOverlay

open SchemaOverlay.Action

/-! ## What edits show -/

/-- Whether two filters read alike on all ids besides one. -/
def TransformerFilter.AlikeBesides (id : String) (before after : TransformerFilter) : Prop :=
  ∀ other, other ≠ id → after.included.contains other = before.included.contains other ∧
    after.excluded.contains other = before.excluded.contains other

namespace TransformSettings

/-- Whether settings show an edit of what they were before: what the edit speaks of is read as it
says, and all else as before. -/
inductive Shows (before after : TransformSettings) : Edit → Prop where
  | setOption {name : String} {value : Value} (given : after.option? name = some value)
    (others : ∀ other, other ≠ name → after.option? other = before.option? other)
    (filter : after.filter = before.filter) : Shows before after (.setOption name value)
  | removeOption {name : String} (removed : after.option? name = none)
    (others : ∀ other, other ≠ name → after.option? other = before.option? other)
    (filter : after.filter = before.filter) : Shows before after (.removeOption name)
  | includeTransformer {id : String} (included : after.filter.included.contains id = true)
    (excluded : after.filter.excluded.contains id = false)
    (others : TransformerFilter.AlikeBesides id before.filter after.filter)
    (chosen : after.filter.chosen = before.filter.chosen)
    (options : after.options = before.options) : Shows before after (.includeTransformer id)
  | excludeTransformer {id : String} (excluded : after.filter.excluded.contains id = true)
    (included : after.filter.included.contains id = false)
    (others : TransformerFilter.AlikeBesides id before.filter after.filter)
    (chosen : after.filter.chosen = before.filter.chosen)
    (options : after.options = before.options) : Shows before after (.excludeTransformer id)
  | chooseTransformer {id : Option String} (chosen : after.filter.chosen = id)
    (included : after.filter.included = before.filter.included)
    (excluded : after.filter.excluded = before.filter.excluded)
    (options : after.options = before.options) : Shows before after (.chooseTransformer id)
  | setFilter {filter : TransformerFilter} (given : after.filter = filter)
    (options : after.options = before.options) : Shows before after (.setFilter filter)

theorem shows_setOption (settings : TransformSettings) (name : String) (value : Value) :
    settings.Shows (settings.setOption name value) (.setOption name value) := by
  refine .setOption ?_ (fun other apart => ?_) rfl
  · simp [option?, setOption, SortedMap.get?_insert]
  · simp [option?, setOption, SortedMap.get?_insert, apart]

theorem shows_removeOption (settings : TransformSettings) (name : String) :
    settings.Shows (settings.removeOption name) (.removeOption name) := by
  refine .removeOption ?_ (fun other apart => ?_) rfl
  · simp [option?, removeOption, SortedMap.get?_erase]
  · simp [option?, removeOption, SortedMap.get?_erase, apart]

theorem shows_includeTransformer (settings : TransformSettings) (id : String) :
    settings.Shows (settings.includeTransformer id) (.includeTransformer id) := by
  refine .includeTransformer ?_ ?_ (fun other apart => ?_) rfl rfl <;>
    simp [includeTransformer, TransformerFilter.withIncluded, NameSet.contains_add,
      NameSet.contains_erase, *]

theorem shows_excludeTransformer (settings : TransformSettings) (id : String) :
    settings.Shows (settings.excludeTransformer id) (.excludeTransformer id) := by
  refine .excludeTransformer ?_ ?_ (fun other apart => ?_) rfl rfl <;>
    simp [excludeTransformer, TransformerFilter.withExcluded, NameSet.contains_add,
      NameSet.contains_erase, *]

/-- Edited settings show the edit. -/
theorem shows_apply (settings : TransformSettings) (edit : Edit) :
    settings.Shows (settings.apply edit) edit := by
  cases edit with
  | setOption name value => exact settings.shows_setOption name value
  | removeOption name => exact settings.shows_removeOption name
  | includeTransformer id => exact settings.shows_includeTransformer id
  | excludeTransformer id => exact settings.shows_excludeTransformer id
  | chooseTransformer id => exact .chooseTransformer rfl rfl rfl rfl
  | setFilter filter => exact .setFilter rfl rfl

end TransformSettings

/-! ## Asking for settings -/

/-- Whether a binding leads to a column, which comes into being on the way where it is missing. -/
def Binding.LeadsTo (binding : Binding) (resolver : Resolver) (store : Store)
    (column : ColumnOverlay) : Prop :=
  ∃ entity, (resolver.resolveBinding binding true store).value = some entity ∧
    (entity.findColumn binding.column.name true
      (resolver.resolveBinding binding true store).store).value = some column

namespace Operation

/-- Whether an operation asks for the settings that an object owns itself, and would give it some
where it owns none. -/
inductive Asks (store : Store) : Operation → OverlayObject → Prop where
  | create (object : OverlayObject) : Asks store (.ownSettings object) object
  | install (entity : EntityOverlay) (id : SettingsId) :
    Asks store (.installSettings entity id) (.entity entity)
  | resolve (column : ColumnOverlay) : Asks store (.columnSettings column true) (.column column)
  | resolveBound (resolver : Resolver) (binding : Binding) (column : ColumnOverlay)
      (leads : binding.LeadsTo resolver store column) :
    Asks store (.bindingSettings resolver binding true) (.column column)

/-- The settings that an operation hands out to its caller. -/
def handsOut? (store : Store) : Operation → Option SettingsId
  | createSettings contents => some (SettingsId.create contents store).value
  | ownSettings object => some (object.createSettings store).value
  | installSettings entity id =>
    some ((OverlayObject.entity entity).installSettings id store).value
  | columnSettings column create => (column.resolveSettings create store).value
  | bindingSettings resolver binding create =>
    (resolver.bindingSettings binding create store).value
  | _ => none

end Operation

/-! ## What is handed out is owned -/

namespace OverlayObject

variable {store : Store}

theorem ownSettings?_createSettings (object : OverlayObject) (store : Store) :
    (object.createSettings store).store.ownSettings? object =
      some (object.createSettings store).value := by
  cases own : store.ownSettings? object with
  | some id =>
      rw [createSettings_of_some own]
      exact own
  | none =>
      obtain ⟨value, after⟩ := createSettings_of_none own
      rw [value, after, Store.ownSettings?_append rfl, own, if_pos rfl]
      rfl

theorem ownSettings?_installSettings (object : OverlayObject) (id : SettingsId) (store : Store) :
    (object.installSettings id store).store.ownSettings? object =
      some (object.installSettings id store).value := by
  cases own : store.ownSettings? object with
  | some former =>
      rw [installSettings_of_some own]
      exact own
  | none =>
      rw [installSettings_of_none own, Store.ownSettings?_append rfl, own, if_pos rfl]
      rfl

end OverlayObject

/-- With `create` set, a binding gets the settings of the column that it leads to. -/
theorem Resolver.bindingSettings_of_leadsTo {resolver : Resolver} {binding : Binding}
    {store : Store} {column : ColumnOverlay} (leads : binding.LeadsTo resolver store column) :
    ∃ found, (resolver.bindingSettings binding true store).value =
        some ((OverlayObject.column column).createSettings found).value ∧
      (resolver.bindingSettings binding true store).store =
        ((OverlayObject.column column).createSettings found).store := by
  obtain ⟨entity, resolved, found⟩ := leads
  simp only [bindingSettings, bind_apply, resolved, found, ColumnOverlay.resolveSettings, if_true]
  exact ⟨_, rfl, rfl⟩

/-- Who asks for settings of an object is handed some, and the object owns these afterwards. -/
theorem Operation.Asks.owned {store : Store} {operation : Operation} {object : OverlayObject}
    (asks : operation.Asks store object) :
    ∃ id, operation.handsOut? store = some id ∧
      (operation.perform store).ownSettings? object = some id := by
  cases asks with
  | create =>
      refine ⟨(object.createSettings store).value, rfl, ?_⟩
      exact object.ownSettings?_createSettings store
  | install entity id =>
      refine ⟨((OverlayObject.entity entity).installSettings id store).value, rfl, ?_⟩
      exact (OverlayObject.entity entity).ownSettings?_installSettings id store
  | resolve column =>
      refine ⟨((OverlayObject.column column).createSettings store).value, rfl, ?_⟩
      exact (OverlayObject.column column).ownSettings?_createSettings store
  | resolveBound resolver binding column leads =>
      obtain ⟨found, value, after⟩ := Resolver.bindingSettings_of_leadsTo leads
      refine ⟨((OverlayObject.column column).createSettings found).value, value, ?_⟩
      have performed : (bindingSettings resolver binding true).perform store =
          (resolver.bindingSettings binding true store).store := rfl
      rw [performed, after]
      exact (OverlayObject.column column).ownSettings?_createSettings found

/-! ## What is owned stays owned -/

namespace Store

variable {store : Store} {object : OverlayObject} {id : SettingsId}

/-- What it means that an object owns settings. -/
structure Owns (store : Store) (object : OverlayObject) (id : SettingsId) : Prop where
  own : store.ownSettings? object = some id
  /-- Whoever asks is handed these settings. -/
  handed : ∀ operation : Operation, operation.isPermitted store = true →
    operation.Asks store object → operation.handsOut? store = some id
  /-- Installing others changes nothing, neither these settings nor the others. -/
  undisturbed : ∀ other, object.installSettings other store = ⟨id, store, []⟩
  /-- The columns that nothing nearer by has settings for get these. -/
  inherited : ∀ column, store.Reaches object column →
    column.resolveSettings false store = ⟨some id, store, []⟩

theorem Sound.owns (sound : store.Sound) (own : store.ownSettings? object = some id) :
    store.Owns object id where
  own := own
  handed operation permitted asks := by
    -- What the operation hands out is owned afterwards, and so is what was owned before it.
    obtain ⟨given, handed, owned⟩ := asks.owned
    have kept : (operation.perform store).ownSettings? object = some id :=
      ((Operation.makes sound permitted).grows sound).ownSettings? own
    rw [handed, ← owned, kept]
  undisturbed _ := OverlayObject.installSettings_of_some own
  inherited column reaches := by
    obtain ⟨nearer, farther, split, bare⟩ := reaches
    have value : (column.resolveSettings false store).value = some id := by
      rw [ColumnOverlay.resolveSettings_value sound, split]
      exact findSome?_split own bare farther
    have unchanged : column.resolveSettings false store =
        ⟨(column.resolveSettings false store).value, store, []⟩ := rfl
    rw [unchanged, value]

theorem SoundFor.owned_lt {ledger : Ledger} (sound : store.SoundFor ledger)
    (own : store.ownSettings? object = some id) : id.number < store.fresh := by
  obtain ⟨slot, found, rfl⟩ := Option.map_eq_some_iff.mp own
  exact (sound.slots _ (List.mem_of_find?_eq_some found)).2

/-- What somebody reads as the settings of an object: it is read in those that the object owns, by
one who asks for them, or by a column that gets them. -/
inductive Reads (store : Store) (object : OverlayObject) : TransformSettings → Prop where
  | own {id : SettingsId} (own : store.ownSettings? object = some id) :
    Reads store object (store.contents id)
  | handed {operation : Operation} {id : SettingsId}
    (permitted : operation.isPermitted store = true) (asks : operation.Asks store object)
    (given : operation.handsOut? store = some id) :
    Reads store object ((operation.perform store).contents id)
  | inherited {column : ColumnOverlay} {id : SettingsId} (reaches : store.Reaches object column)
    (given : (column.resolveSettings false store).value = some id) :
    Reads store object (store.contents id)

/-- Everybody reads the contents of the settings that the object owns. -/
theorem Owns.eq_contents_of_reads (owns : store.Owns object id) (sound : store.Sound)
    {read : TransformSettings} (reads : store.Reads object read) : read = store.contents id := by
  cases reads with
  | own own =>
      cases own.symm.trans owns.own
      rfl
  | @handed operation given permitted asks handed =>
      cases handed.symm.trans (owns.handed operation permitted asks)
      have used : id.number < store.fresh := by
        obtain ⟨ledger, known⟩ := sound
        exact known.owned_lt owns.own
      have untouched : Operation.edits id [operation] = [] := by cases asks <;> rfl
      rw [(Operation.contents_perform sound permitted used).2, untouched]
      rfl
  | inherited reaches given =>
      cases given.symm.trans (congrArg Outcome.value (owns.inherited _ reaches))
      rfl

/-- Settings reach the same columns whatever their contents are. -/
theorem reaches_updateContents {column : ColumnOverlay} (edited : SettingsId)
    (contents : TransformSettings) :
    (store.updateContents edited contents).Reaches object column ↔ store.Reaches object column :=
  Iff.rfl

end Store

/-- Who installs settings where there are none makes them the entity's own, as they are. -/
theorem Operation.owns_of_install {store : Store} (sound : store.Sound) {entity : EntityOverlay}
    {id : SettingsId} (permitted : (installSettings entity id).isPermitted store = true)
    (bare : store.ownSettings? (.entity entity) = none) :
    ((installSettings entity id).perform store).Owns (.entity entity) id ∧
      ((installSettings entity id).perform store).contents id = store.contents id := by
  have performed : (installSettings entity id).perform store =
      { store with slots := store.slots ++ [(.entity entity, id)] } :=
    congrArg Outcome.store (OverlayObject.installSettings_of_none bare)
  have own : ((installSettings entity id).perform store).ownSettings? (.entity entity) =
      some id := by
    rw [performed, Store.ownSettings?_append rfl, bare, if_pos rfl]
    rfl
  refine ⟨(sound_perform sound permitted).owns own, ?_⟩
  rw [performed]
  rfl

/-- An edit shows in whatever is read afterwards as the settings of their owner, and the columns
that the settings reached before still get them. -/
theorem Operation.owns_of_edit {store : Store} (sound : store.Sound) {object : OverlayObject}
    {id : SettingsId} (own : store.ownSettings? object = some id)
    (alive : store.settingsLive id = true) (update : TransformSettings.Edit) :
    ((editSettings id update).perform store).Owns object id ∧
      ((editSettings id update).perform store).contents id = (store.contents id).apply update ∧
      (∀ read, ((editSettings id update).perform store).Reads object read →
        (store.contents id).Shows read update) ∧
      ∀ column, store.Reaches object column →
        (column.resolveSettings false ((editSettings id update).perform store)).value =
          some id := by
  have permitted : (editSettings id update).isPermitted store = true := alive
  have makes := makes sound permitted
  have owns : ((editSettings id update).perform store).Owns object id :=
    (makes.sound sound).owns ((makes.grows sound).ownSettings? own)
  have contents : ((editSettings id update).perform store).contents id =
      (store.contents id).apply update := by rw [contents_editSettings, if_pos rfl]
  refine ⟨owns, contents, fun read reads => ?_, fun column reaches => ?_⟩
  · rw [owns.eq_contents_of_reads (makes.sound sound) reads, contents]
    exact (store.contents id).shows_apply update
  · have still : ((editSettings id update).perform store).Reaches object column :=
      (Store.reaches_updateContents id _).mpr reaches
    exact congrArg Outcome.value (owns.inherited column still)

/-- An object owns settings for good once anybody asked for them, and those installed first stay,
with their contents.  Whatever is done later, everybody who asks is handed the same settings, with
what their edits made of them; an edit shows in what all of them read and in what the columns read
that inherit. -/
theorem Store.Reachable.settings_owned_once {store : Store} (reachable : store.Reachable) :
    (∀ (first : Operation) object, first.isPermitted store = true → first.Asks store object →
      ∃ id, first.handsOut? store = some id ∧ (first.perform store).Owns object id) ∧
      (∀ entity id, (Operation.installSettings entity id).isPermitted store = true →
        store.ownSettings? (.entity entity) = none →
          ((Operation.installSettings entity id).perform store).Owns (.entity entity) id ∧
            ((Operation.installSettings entity id).perform store).contents id =
              store.contents id) ∧
      ∀ object id, store.ownSettings? object = some id →
        ∀ operations later, Run store operations later →
          later.Owns object id ∧
            later.contents id =
              (Operation.edits id operations).foldl TransformSettings.apply (store.contents id) ∧
            ∀ update, later.settingsLive id = true →
              ((Operation.editSettings id update).perform later).Owns object id ∧
                ((Operation.editSettings id update).perform later).contents id =
                  (later.contents id).apply update ∧
                (∀ read, ((Operation.editSettings id update).perform later).Reads object read →
                  (later.contents id).Shows read update) ∧
                ∀ column, later.Reaches object column →
                  (column.resolveSettings false
                    ((Operation.editSettings id update).perform later)).value = some id := by
  have sound := reachable.sound
  refine ⟨?_, ?_, ?_⟩
  · intro first object permitted asks
    obtain ⟨id, handed, own⟩ := asks.owned
    exact ⟨id, handed, (Operation.sound_perform sound permitted).owns own⟩
  · intro entity id permitted bare
    exact Operation.owns_of_install sound permitted bare
  · intro object id own operations later run
    have used : id.number < store.fresh := by
      obtain ⟨ledger, known⟩ := sound
      exact known.owned_lt own
    have kept := (run.grows sound).ownSettings? own
    refine ⟨(run.sound sound).owns kept, run.contents sound used, fun update alive => ?_⟩
    exact Operation.owns_of_edit (run.sound sound) kept alive update

/-! ## Stored settings of an entity -/

namespace Gallery

def model : Model := ⟨0, "gallery"⟩

def paintings : EntityOverlay := .ofEntity 1 ⟨"gallery", ["west", "paintings"]⟩ model

def title : ColumnOverlay := ⟨2, "title", none, paintings⟩

def stored : SettingsId := ⟨3⟩

def rival : SettingsId := ⟨4⟩

/-- The stored settings leave one transformer out. -/
def sharp : TransformSettings := TransformSettings.empty.excludeTransformer "blur"

def setup : List Operation :=
  [.createModel "gallery" (.unreachable "offline"),
    .entityById model ⟨"gallery", ["west", "paintings"]⟩ true, .findColumn paintings "title" true,
    .createSettings sharp, .createSettings .empty]

def store : Store := setup.foldl (fun store operation => operation.perform store) .empty

def install : Operation := .installSettings paintings stored

/-- Others are installed, somebody asks again and the settings are edited. -/
def further : List Operation :=
  [.installSettings paintings rival, .ownSettings (.entity paintings), .release (.settings stored),
    .editSettings stored (.chooseTransformer (some "upper")),
    .editSettings stored (.setOption "frame" (.string "oak")),
    .editSettings rival (.setFilter .empty)]

def later : Store :=
  further.foldl (fun store operation => operation.perform store) (install.perform store)

/-- The settings with one more transformer included, which was excluded from the start. -/
def edited : Store := (Operation.editSettings stored (.includeTransformer "blur")).perform later

/-- The settings installed first are still the entity's, with their contents and what was edited in
them, and the title of a painting inherits them.  Whoever reads the settings of the paintings after
one more edit finds it there, the title included. -/
theorem settings_owned_once_paintings :
    store.Reachable ∧ install.isPermitted store = true ∧
      store.ownSettings? (.entity paintings) = none ∧
      (install.perform store).Owns (.entity paintings) stored ∧
      Run (install.perform store) further later ∧
      later.Owns (.entity paintings) stored ∧
      (later.contents stored).filter.chosen = some "upper" ∧
      (later.contents stored).filter.excluded.contains "blur" = true ∧
      (later.contents stored).option? "frame" = some (.string "oak") ∧
      (title.resolveSettings false later).value = some stored ∧
      edited.Owns (.entity paintings) stored ∧
      (title.resolveSettings false edited).value = some stored ∧
      ∀ read, edited.Reads (.entity paintings) read →
        read.filter.included.contains "blur" = true ∧
          read.filter.excluded.contains "blur" = false ∧
          read.filter.chosen = some "upper" ∧ read.option? "frame" = some (.string "oak") := by
  have reachable : store.Reachable := ⟨setup, Run.of_permits (by decide)⟩
  have permitted : install.isPermitted store = true := by decide
  have bare : store.ownSettings? (.entity paintings) = none := by decide
  obtain ⟨-, installed, -⟩ := Store.Reachable.settings_owned_once reachable
  obtain ⟨first, contents⟩ := installed paintings stored permitted bare
  have run : Run (install.perform store) further later := Run.of_permits (by decide)
  have after : (install.perform store).Reachable := reachable.run (.next permitted .done)
  obtain ⟨-, -, kept⟩ := Store.Reachable.settings_owned_once after
  obtain ⟨owns, history, updates⟩ := kept (.entity paintings) stored first.own further later run
  obtain ⟨still, -, shown, inherit⟩ := updates (.includeTransformer "blur") (by decide)
  have edits : Operation.edits stored further =
      [.chooseTransformer (some "upper"), .setOption "frame" (.string "oak")] := by decide
  have given : (install.perform store).contents stored = sharp := contents
  rw [edits, given] at history
  have chosen : (later.contents stored).filter.chosen = some "upper" := by rw [history]; decide
  have framed : (later.contents stored).option? "frame" = some (.string "oak") := by
    rw [history]
    rfl
  have reaches : later.Reaches (.entity paintings) title :=
    ⟨[.column title], [.model model], by decide +kernel, by decide⟩
  refine ⟨reachable, permitted, bare, first, run, owns, chosen, ?_, framed,
    congrArg Outcome.value (owns.inherited title reaches), still, inherit title reaches,
    fun read reads => ?_⟩
  · rw [history]
    decide
  · cases shown read reads with
    | includeTransformer included excluded others same options =>
        refine ⟨included, excluded, same.trans chosen, ?_⟩
        rw [TransformSettings.option?, options]
        exact framed

end Gallery

end SchemaOverlay
