import SchemaOverlay.Proofs.Growth

/-!
# Isolation of orphans

The overlay of a query is filed under one text: the query's data source, its
kind and its own text, with separators between them.  Nothing in the parts is
escaped, so two queries of different data sources may be filed under one key
when a separator also stands within a part; then the first of them to be
resolved takes the place of the other.  So may an overlay that a caller filed
under the key.  In all other cases two queries share an overlay exactly when they
agree in data source and text.
-/

namespace SchemaOverlay

open SchemaOverlay.Action

/-! ## Separators -/

/-- What stands between the data source and the text of a query in its key. -/
def separator : List Char := "::query::".toList

theorem toList_separator : "::query::".toList = separator := rfl

theorem separator_ne_nil : separator ≠ [] := by decide

/-- The separator overlaps itself in its colons only. -/
theorem separator_border :
    ∀ length < 9, separator.drop (9 - length) = separator.take length →
      length = 0 ∨ length = 1 ∨ length = 2 := by decide

/-- Where a separator may stand a second time: behind the first one, or into its colons. -/
theorem separator_split {middle text later : List Char} (proper : middle ≠ [])
    (same : separator ++ text = middle ++ (separator ++ later)) :
    (∃ rest, middle = separator ++ rest ∧ text = rest ++ (separator ++ later)) ∨
      (middle = "::query:".toList ∧ text = ":query::".toList ++ later) ∨
        middle = "::query".toList ∧ text = "query::".toList ++ later := by
  rcases List.append_eq_append_iff.mp same with ⟨rest, longer, tail⟩ | ⟨border, split, tail⟩
  · exact .inl ⟨rest, longer, tail⟩
  · have total : middle.length + border.length = 9 := by
      rw [← List.length_append, ← split]
      rfl
    have short : border.length < 9 := by
      have long := List.length_pos_iff.mpr proper
      omega
    -- The rest of the first separator is a start of the second one.
    have back : border = separator.drop (9 - border.length) := by
      rw [split, ← total, Nat.add_sub_cancel, List.drop_left]
    have front : border = separator.take border.length := by
      have cut := congrArg (List.take border.length) tail
      rw [List.take_left, List.take_append_of_le_length (Nat.le_of_lt short)] at cut
      exact cut.symm
    have other : text = separator.drop border.length ++ later := by
      have cut := congrArg (List.drop border.length) tail
      rw [List.drop_left, List.drop_append_of_le_length (Nat.le_of_lt short)] at cut
      exact cut.symm
    have start : middle = separator.take (9 - border.length) := by
      rw [split, ← total, Nat.add_sub_cancel, List.take_left]
    rcases separator_border _ short (back.symm.trans front) with none | one | two
    · rw [none] at other start
      exact .inl ⟨[], start, other⟩
    · rw [one] at other start
      exact .inr (.inl ⟨start, other⟩)
    · rw [two] at other start
      exact .inr (.inr ⟨start, other⟩)

/-! ## Keys -/

namespace DetachedContainer

variable {left right : DetachedContainer}

/-- Whether the key of one query can also be read as that of another, whose data source is
longer. -/
inductive Overlaps (left right : DetachedContainer) : Prop where
  /-- A separator stands in the longer data source and another one in the text of the other. -/
  | apart (rest : String)
    (source : right.dataSource = left.dataSource ++ "::query::" ++ rest)
    (text : left.text = rest ++ "::query::" ++ right.text)
  /-- The two separators share one colon. -/
  | oneColon (source : right.dataSource = left.dataSource ++ "::query:")
    (text : left.text = ":query::" ++ right.text)
  /-- The two separators share two colons. -/
  | twoColons (source : right.dataSource = left.dataSource ++ "::query")
    (text : left.text = "query::" ++ right.text)

theorem key_toList {container : DetachedContainer} (query : container.kind = "query") :
    container.key.toList =
      container.dataSource.toList ++ (separator ++ container.text.toList) := by
  have parts : separator = "::".toList ++ "query".toList ++ "::".toList := by decide
  simp only [key, query, parts, String.toList_append, List.append_assoc]

/-- The second query's data source is longer, by the start of what follows the first one's. -/
theorem Overlaps.split (overlaps : left.Overlaps right) :
    ∃ middle, middle ≠ [] ∧ right.dataSource.toList = left.dataSource.toList ++ middle ∧
      separator ++ left.text.toList = middle ++ (separator ++ right.text.toList) := by
  cases overlaps with
  | apart rest source text =>
      refine ⟨separator ++ rest.toList, by simp [separator_ne_nil], ?_, ?_⟩
      · rw [source, String.toList_append, String.toList_append, toList_separator,
          List.append_assoc]
      · rw [text, String.toList_append, String.toList_append, toList_separator,
          List.append_assoc, List.append_assoc]
  | oneColon source text =>
      have shared : separator ++ ":query::".toList = "::query:".toList ++ separator := by decide
      refine ⟨"::query:".toList, by decide, ?_, ?_⟩
      · rw [source, String.toList_append]
      · rw [text, String.toList_append, ← List.append_assoc, shared, List.append_assoc]
  | twoColons source text =>
      have shared : separator ++ "query::".toList = "::query".toList ++ separator := by decide
      refine ⟨"::query".toList, by decide, ?_, ?_⟩
      · rw [source, String.toList_append]
      · rw [text, String.toList_append, ← List.append_assoc, shared, List.append_assoc]

/-- Queries with overlapping keys belong to different data sources. -/
theorem Overlaps.dataSource_ne (overlaps : left.Overlaps right) :
    left.dataSource ≠ right.dataSource := by
  intro same
  obtain ⟨middle, proper, source, -⟩ := overlaps.split
  rw [same] at source
  exact proper (List.append_right_eq_self.mp source.symm)

theorem Overlaps.key_eq (overlaps : left.Overlaps right) (first : left.kind = "query")
    (second : right.kind = "query") : left.key = right.key := by
  obtain ⟨middle, -, source, text⟩ := overlaps.split
  refine String.toList_injective ?_
  rw [key_toList first, key_toList second, source, text, List.append_assoc]

/-- What it takes for one key to be read in two ways. -/
theorem overlaps_of_append {middle : List Char} (proper : middle ≠ [])
    (source : right.dataSource.toList = left.dataSource.toList ++ middle)
    (same : separator ++ left.text.toList = middle ++ (separator ++ right.text.toList)) :
    left.Overlaps right := by
  rcases separator_split proper same with ⟨rest, rfl, text⟩ | ⟨rfl, text⟩ | ⟨rfl, text⟩
  · refine .apart (String.ofList rest) (String.toList_injective ?_) (String.toList_injective ?_)
    · rw [source, String.toList_append, String.toList_append, toList_separator,
        String.toList_ofList, List.append_assoc]
    · rw [text, String.toList_append, String.toList_append, toList_separator,
        String.toList_ofList, List.append_assoc]
  · refine .oneColon (String.toList_injective ?_) (String.toList_injective ?_)
    · rw [source, String.toList_append]
    · rw [text, String.toList_append]
  · refine .twoColons (String.toList_injective ?_) (String.toList_injective ?_)
    · rw [source, String.toList_append]
    · rw [text, String.toList_append]

/-- Two queries have one key exactly when they agree in data source and text or overlap. -/
theorem key_eq_iff (first : left.kind = "query") (second : right.kind = "query") :
    left.key = right.key ↔
      (left.dataSource = right.dataSource ∧ left.text = right.text) ∨
        left.Overlaps right ∨ right.Overlaps left := by
  constructor
  · intro same
    have lists := congrArg String.toList same
    rw [key_toList first, key_toList second] at lists
    rcases List.append_eq_append_iff.mp lists with ⟨middle, source, rest⟩ | ⟨middle, source, rest⟩
    · by_cases proper : middle = []
      · subst proper
        rw [List.append_nil] at source
        exact .inl ⟨String.toList_injective source.symm,
          String.toList_injective (List.append_cancel_left rest)⟩
      · exact .inr (.inl (overlaps_of_append proper source rest))
    · by_cases proper : middle = []
      · subst proper
        rw [List.append_nil] at source
        exact .inl ⟨String.toList_injective source,
          String.toList_injective (List.append_cancel_left rest).symm⟩
      · exact .inr (.inr (overlaps_of_append proper source rest))
  · rintro (⟨source, text⟩ | overlaps | overlaps)
    · simp only [key, source, text, first, second]
    · exact overlaps.key_eq first second
    · exact (overlaps.key_eq second first).symm

end DetachedContainer

/-! ## Where entries come from -/

/-- The detached container that a binding leads to. -/
def Binding.detached? (binding : Binding) : Option DetachedContainer :=
  match binding.entity, binding.container with
  | none, .detached container => some container
  | _, _ => none

/-- The detached container that an operation asks a resolver for. -/
def Operation.detached? : Operation → Option DetachedContainer
  | resolveContainer _ (.detached container) _ => some container
  | resolveBinding _ binding _ | bindingSettings _ binding _ => binding.detached?
  | _ => none

/-- Whether an operation may file an overlay of a data source under a key: it asks a resolver for a
container of that key and data source, or files the overlay itself. -/
inductive Operation.FilesOrphan : Operation → (key dataSource : String) → Prop where
  | asked {operation : Operation} {container : DetachedContainer}
      (leads : operation.detached? = some container) :
      FilesOrphan operation container.key container.dataSource
  | filed (model : Model) (key name : String) :
      FilesOrphan (.fileOrphan model key name) key model.dataSource

namespace Resolver

variable {store : Store} {resolver : Resolver} {key : String} {overlay : EntityOverlay}

/-- An entry is an old one, or it belongs to the data source of the container resolved. -/
theorem orphan_resolveDetached (sound : store.Sound) {container : DetachedContainer}
    (filed : (resolver.resolveDetached container true store).store.orphans.get? key =
      some overlay) :
    store.orphans.get? key = some overlay ∨
      container.key = key ∧ overlay.dataSource = container.dataSource := by
  cases registered : resolver.model? container.dataSource store with
  | none =>
      rw [resolveDetached_of_no_model registered] at filed
      exact .inl filed
  | some model =>
      cases former : store.orphans.get? container.key with
      | some other =>
          rw [resolveDetached_of_some registered former] at filed
          exact .inl filed
      | none =>
          rw [resolveDetached_of_none registered former, Change.apply_addOrphan,
            SortedMap.get?_insert] at filed
          split at filed
          · rename_i same
            cases filed
            obtain ⟨ledger, sound⟩ := sound
            exact .inr ⟨same.symm, (sound.registered _ _ _ registered).1⟩
          · exact .inl filed

theorem orphan_resolveContainer (sound : store.Sound) {container : ContainerRef}
    (filed : (resolver.resolveContainer container true store).store.orphans.get? key =
      some overlay) :
    store.orphans.get? key = some overlay ∨
      ∃ source, container = .detached source ∧ source.key = key ∧
        overlay.dataSource = source.dataSource := by
  cases container with
  | entity entity =>
      have makes : (resolver.resolveEntity entity true).Makes store _ :=
        resolveEntity_makes entity true
      rw [show (resolver.resolveContainer (.entity entity) true store).store.orphans = _ from
        makes.orphans (by decide)] at filed
      exact .inl filed
  | detached source =>
      rcases orphan_resolveDetached sound filed with former | new
      · exact .inl former
      · exact .inr ⟨source, rfl, new⟩

theorem orphan_resolveBinding (sound : store.Sound) {binding : Binding}
    (filed : (resolver.resolveBinding binding true store).store.orphans.get? key =
      some overlay) :
    store.orphans.get? key = some overlay ∨
      ∃ source, binding.detached? = some source ∧ source.key = key ∧
        overlay.dataSource = source.dataSource := by
  obtain ⟨column, owner, container⟩ := binding
  cases owner with
  | some entity =>
      have makes : (resolver.resolveEntity entity true).Makes store _ :=
        resolveEntity_makes entity true
      rw [show (resolver.resolveBinding ⟨column, some entity, container⟩ true
        store).store.orphans = _ from makes.orphans (by decide)] at filed
      exact .inl filed
  | none =>
      rcases orphan_resolveContainer sound filed with former | ⟨source, rfl, new⟩
      · exact .inl former
      · exact .inr ⟨source, rfl, new⟩

/-- Only the resolution of a binding files orphans. -/
theorem orphans_bindingSettings (sound : store.Sound) {binding : Binding}
    (lives : binding.lives store = true) :
    (resolver.bindingSettings binding true store).store.orphans =
      (resolver.resolveBinding binding true store).store.orphans := by
  rcases bindingSettings_cases sound lives with same | ⟨entity, column, alive, -, living, same⟩
  · rw [same]
  · have finds := EntityOverlay.findColumn_makes alive binding.column.name true
    have last := OverlayObject.createSettings_makes (.column column) living
    rw [same, last.orphans (by decide), finds.orphans (by decide)]

end Resolver

/-- An entry is an old one, or the caller files it. -/
theorem Model.orphan_fileOrphan {store : Store} {model : Model} {filing name key : String}
    {overlay : EntityOverlay}
    (filed : (model.fileOrphan filing name store).store.orphans.get? key = some overlay) :
    store.orphans.get? key = some overlay ∨
      filing = key ∧ overlay.dataSource = model.dataSource := by
  cases former : store.orphans.get? filing with
  | some other =>
      rw [fileOrphan_of_some former] at filed
      exact .inl filed
  | none =>
      rw [fileOrphan_of_none former, Change.apply_addOrphan, SortedMap.get?_insert] at filed
      split at filed
      · rename_i same
        cases filed
        exact .inr ⟨same.symm, rfl⟩
      · exact .inl filed

/-- An entry is an old one, or the operation files one of its key and data source. -/
theorem Operation.orphan_perform {store : Store} {operation : Operation} (sound : store.Sound)
    (permitted : operation.isPermitted store = true) {key : String} {overlay : EntityOverlay}
    (filed : (operation.perform store).orphans.get? key = some overlay) :
    store.orphans.get? key = some overlay ∨ operation.FilesOrphan key overlay.dataSource := by
  have asked : (∃ container, operation.detached? = some container ∧ container.key = key ∧
      overlay.dataSource = container.dataSource) →
        operation.FilesOrphan key overlay.dataSource := by
    rintro ⟨container, leads, rfl, source⟩
    rw [source]
    exact .asked leads
  by_cases orphan : .orphan ∈ operation.kinds
  · cases operation with
    | fileOrphan model filing name =>
        rcases Model.orphan_fileOrphan filed with former | ⟨rfl, source⟩
        · exact .inl former
        · rw [source]
          exact .inr (.filed model filing name)
    | resolveContainer resolver container create =>
        cases create with
        | false => simp [kinds] at orphan
        | true =>
            rcases Resolver.orphan_resolveContainer sound filed with former | ⟨source, rfl, new⟩
            · exact .inl former
            · exact .inr (asked ⟨source, rfl, new⟩)
    | resolveBinding resolver binding create =>
        cases create with
        | false => simp [kinds] at orphan
        | true => exact (Resolver.orphan_resolveBinding sound filed).imp_right asked
    | bindingSettings resolver binding create =>
        cases create with
        | false => simp [kinds] at orphan
        | true =>
            have same : ((bindingSettings resolver binding true).perform store).orphans = _ :=
              Resolver.orphans_bindingSettings sound permitted
            rw [same] at filed
            exact (Resolver.orphan_resolveBinding sound filed).imp_right asked
    | _ => simp [kinds] at orphan
  · rw [show (operation.perform store).orphans = _ from
      (makes sound permitted).orphans orphan] at filed
    exact .inl filed

/-- Every entry that a run leaves behind is an old one, or some operation of the run files one of
its key and data source. -/
theorem Run.orphan_cases {before after : Store} {operations : List Operation}
    (run : Run before operations after) (sound : before.Sound) {key : String}
    {overlay : EntityOverlay} (filed : after.orphans.get? key = some overlay) :
    before.orphans.get? key = some overlay ∨
      ∃ operation ∈ operations, operation.FilesOrphan key overlay.dataSource := by
  induction run with
  | done => exact .inl filed
  | next permitted _ ih =>
      rcases ih (Operation.sound_perform sound permitted) filed with here | later
      · rcases Operation.orphan_perform sound permitted here with former | new
        · exact .inl former
        · exact .inr ⟨_, List.mem_cons_self, new⟩
      · obtain ⟨operation, mem, found⟩ := later
        exact .inr ⟨operation, List.mem_cons_of_mem _ mem, found⟩

/-! ## Entries of other data sources -/

/-- Whether the overlay under a container's key belongs to another data source. -/
def Store.HasForeign (store : Store) (container : DetachedContainer) : Prop :=
  ∃ overlay, store.orphans.get? container.key = some overlay ∧
    overlay.dataSource ≠ container.dataSource

/-- Such an overlay is there only after a run that filed an overlay of another data source under the
same key. -/
theorem Run.exists_of_hasForeign {store : Store} {operations : List Operation}
    (run : Run .empty operations store) {container : DetachedContainer}
    (foreign : store.HasForeign container) :
    ∃ operation ∈ operations, ∃ dataSource, operation.FilesOrphan container.key dataSource ∧
      dataSource ≠ container.dataSource := by
  obtain ⟨overlay, filed, apart⟩ := foreign
  rcases run.orphan_cases .empty filed with former | ⟨operation, mem, files⟩
  · cases former
  · exact ⟨operation, mem, overlay.dataSource, files, apart⟩

/-- What resolving a container with `create` set yields, and which entries it leaves alone. -/
theorem Resolver.resolveDetached_true {store : Store} (sound : store.Sound) {resolver : Resolver}
    {container : DetachedContainer} {model : Model}
    (registered : resolver.model? container.dataSource store = some model) :
    ∃ overlay,
      (resolver.resolveDetached container true store).value = some overlay ∧
        (resolver.resolveDetached container true store).store.orphans.get? container.key =
          some overlay ∧
        (overlay.dataSource = container.dataSource ↔ ¬ store.HasForeign container) ∧
        ∀ key, key ≠ container.key →
          (resolver.resolveDetached container true store).store.orphans.get? key =
            store.orphans.get? key := by
  cases filed : store.orphans.get? container.key with
  | some overlay =>
      rw [resolveDetached_of_some registered filed]
      refine ⟨overlay, rfl, filed, ?_, fun _ _ => rfl⟩
      constructor
      · rintro same ⟨other, found, apart⟩
        cases filed.symm.trans found
        exact apart same
      · intro own
        exact Decidable.byContradiction fun apart => own ⟨overlay, filed, apart⟩
  | none =>
      rw [resolveDetached_of_none registered filed]
      refine ⟨_, rfl, Change.orphan_addOrphan model container.key container.name, ?_, ?_⟩
      · obtain ⟨ledger, sound⟩ := sound
        refine iff_of_true (sound.registered _ _ _ registered).1 ?_
        rintro ⟨other, found, -⟩
        cases filed.symm.trans found
      · intro key other
        rw [Change.apply_addOrphan, SortedMap.get?_insert, if_neg other]

/-! ## Isolation -/

/-- Whether two queries and the overlays that they were resolved to belong together. -/
structure Isolated (left right : DetachedContainer) (one two : EntityOverlay) : Prop where
  shared : one = two ↔ left.dataSource = right.dataSource ∧ left.text = right.text
  first : one.dataSource = left.dataSource
  second : two.dataSource = right.dataSource

namespace Isolated

variable {store : Store} {left right : DetachedContainer} {one two : EntityOverlay}

/-- Queries of one key are isolated when they are the same and the overlay is their own. -/
theorem iff_of_key_eq (same : left.key = right.key) (first : left.kind = "query")
    (second : right.kind = "query")
    (own : one.dataSource = left.dataSource ↔ ¬ store.HasForeign left) :
    Isolated left right one one ↔
      (¬ left.Overlaps right ∧ ¬ right.Overlaps left) ∧
        ¬ store.HasForeign left ∧ ¬ store.HasForeign right := by
  constructor
  · intro isolated
    have source := (isolated.shared.mp rfl).1
    have kept := own.mp isolated.first
    refine ⟨⟨fun overlaps => overlaps.dataSource_ne source,
      fun overlaps => overlaps.dataSource_ne source.symm⟩, kept, ?_⟩
    rwa [Store.HasForeign, ← same, ← source]
  · rintro ⟨⟨front, back⟩, kept, -⟩
    rcases (DetachedContainer.key_eq_iff first second).mp same with agree | overlaps | overlaps
    · exact ⟨iff_of_true rfl agree, own.mpr kept, agree.1 ▸ own.mpr kept⟩
    · exact absurd overlaps front
    · exact absurd overlaps back

/-- Queries of two keys are isolated when each has an overlay of its own data source. -/
theorem iff_of_key_ne (apart : left.key ≠ right.key) (first : left.kind = "query")
    (second : right.kind = "query") (distinct : one ≠ two)
    (own : one.dataSource = left.dataSource ↔ ¬ store.HasForeign left)
    (also : two.dataSource = right.dataSource ↔ ¬ store.HasForeign right) :
    Isolated left right one two ↔
      (¬ left.Overlaps right ∧ ¬ right.Overlaps left) ∧
        ¬ store.HasForeign left ∧ ¬ store.HasForeign right := by
  have keys := DetachedContainer.key_eq_iff first second
  constructor
  · intro isolated
    refine ⟨⟨fun overlaps => ?_, fun overlaps => ?_⟩, own.mp isolated.first,
      also.mp isolated.second⟩
    · exact apart (keys.mpr (.inr (.inl overlaps)))
    · exact apart (keys.mpr (.inr (.inr overlaps)))
  · rintro ⟨-, front, back⟩
    refine ⟨iff_of_false distinct fun agree => ?_, own.mpr front, also.mpr back⟩
    exact apart (keys.mpr (.inl agree))

end Isolated

/-- Queries of registered data sources are resolved, one after the other, to overlays of their own
data sources which they share exactly when they agree in data source and text, if and only if
their keys do not overlap and neither finds an overlay of another data source under its key, which
only an earlier operation that files an overlay of another data source under that key can have
left there. -/
theorem Resolver.isolated_iff {store : Store} {operations : List Operation}
    (run : Run .empty operations store) {front back : Resolver} {left right : DetachedContainer}
    (first : left.kind = "query") (second : right.kind = "query") {owner other : Model}
    (registered : front.model? left.dataSource store = some owner)
    (also : back.model? right.dataSource store = some other) :
    (∃ one two,
      (front.resolveContainer (.detached left) true store).value = some one ∧
        (back.resolveContainer (.detached right) true
          (front.resolveContainer (.detached left) true store).store).value = some two ∧
        (Isolated left right one two ↔
          (¬ left.Overlaps right ∧ ¬ right.Overlaps left) ∧
            ¬ store.HasForeign left ∧ ¬ store.HasForeign right)) ∧
      ∀ container, store.HasForeign container →
        ∃ operation ∈ operations, ∃ dataSource, operation.FilesOrphan container.key dataSource ∧
          dataSource ≠ container.dataSource := by
  have sound := run.sound .empty
  refine ⟨?_, fun _ foreign => run.exists_of_hasForeign foreign⟩
  have early : (front.resolveDetached left true).Makes store _ :=
    resolveDetached_makes left true
  have between := early.sound sound
  have late : (back.resolveDetached right true).Makes
      (front.resolveDetached left true store).store _ := resolveDetached_makes right true
  have still := (early.model? (by decide) back right.dataSource).trans also
  obtain ⟨one, yields, filed, own, kept⟩ := resolveDetached_true sound registered
  obtain ⟨two, finds, listed, its, stays⟩ := resolveDetached_true between still
  refine ⟨one, two, yields, finds, ?_⟩
  by_cases same : left.key = right.key
  · have unique := (late.grows between).orphans _ _ filed
    rw [same, listed] at unique
    cases unique
    exact Isolated.iff_of_key_eq same first second own
  · have foreign : (front.resolveDetached left true store).store.HasForeign right ↔
        store.HasForeign right := by
      rw [Store.HasForeign, kept _ (Ne.symm same), Store.HasForeign]
    rw [foreign] at its
    refine Isolated.iff_of_key_ne same first second ?_ own its
    rintro rfl
    rw [← stays _ same] at filed
    obtain ⟨ledger, after⟩ := late.sound between
    exact same (after.apart _ _ _ filed listed)

/-! ## A shared key -/

namespace Archive

def resolver : Resolver := ⟨0, {}, []⟩

def main : Model := ⟨0, "main"⟩

def branch : Model := ⟨1, "main::query::old"⟩

def setup : List Operation :=
  [.createModel main.dataSource ⟨fun _ => .ok none⟩, .register resolver main,
    .createModel branch.dataSource ⟨fun _ => .ok none⟩, .register resolver branch]

def store : Store := setup.foldl (fun store operation => operation.perform store) .empty

def outer : DetachedContainer := .query "main" "first" "old::query::select 1"

def inner : DetachedContainer := .query "main::query::old" "second" "select 1"

theorem run : Run .empty setup store := Run.of_permits (by decide)

/-- A query of one data source is resolved to the overlay of another one's query. -/
theorem shares_overlay :
    Run .empty setup store ∧ resolver.model? outer.dataSource store = some main ∧
      resolver.model? inner.dataSource store = some branch ∧
      ∃ overlay,
        (resolver.resolveContainer (.detached outer) true store).value = some overlay ∧
        (resolver.resolveContainer (.detached inner) true
          (resolver.resolveContainer (.detached outer) true store).store).value = some overlay ∧
        outer.dataSource ≠ inner.dataSource ∧ overlay.dataSource ≠ inner.dataSource :=
  ⟨run, by decide, by decide, .ofDetached 2 "first" main, by decide, by decide, by decide,
    by decide⟩

/-- The two queries are not isolated, because their keys overlap. -/
theorem not_isolated :
    outer.kind = "query" ∧ inner.kind = "query" ∧
      resolver.model? outer.dataSource store = some main ∧
      resolver.model? inner.dataSource store = some branch ∧
      ∃ one two,
        (resolver.resolveContainer (.detached outer) true store).value = some one ∧
        (resolver.resolveContainer (.detached inner) true
          (resolver.resolveContainer (.detached outer) true store).store).value = some two ∧
        ¬ Isolated outer inner one two := by
  have first : outer.kind = "query" := rfl
  have second : inner.kind = "query" := rfl
  have registered : resolver.model? outer.dataSource store = some main := by decide
  have also : resolver.model? inner.dataSource store = some branch := by decide
  have overlaps : outer.Overlaps inner := .apart "old" (by decide) (by decide)
  refine ⟨first, second, registered, also, ?_⟩
  obtain ⟨⟨one, two, yields, finds, condition⟩, -⟩ :=
    Resolver.isolated_iff run first second registered also
  exact ⟨one, two, yields, finds, fun isolated => (condition.mp isolated).1.1 overlaps⟩

end Archive

end SchemaOverlay
