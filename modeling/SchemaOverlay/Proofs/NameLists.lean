import SchemaOverlay.Proofs.DescriptionNames
import SchemaOverlay.Proofs.History

/-!
# Texts that list names

Which texts list which names, as a grammar: parts with commas between them, each
of them blank or a plain name between blanks.  A text that was declared to
describe an entity is read by this grammar.  So every text lists some names, and
writing them down in another way that the grammar allows changes none of them.
-/

namespace SchemaOverlay

/-! ## The grammar -/

/-- What may stand between two commas, and the name that it gives, if any. -/
inductive StandsFor : List Char → Option String → Prop where
  | nothing {part : List Char} (blank : ∀ c ∈ part, Text.isBlank c = true) : StandsFor part none
  | name {front back : List Char} {name : String} (plain : IsPlainName name)
      (blank : ∀ c ∈ front, Text.isBlank c = true) (blanks : ∀ c ∈ back, Text.isBlank c = true) :
      StandsFor (front ++ name.toList ++ back) (some name)

/-- The names that a text lists, in their order and as often as they stand in it. -/
inductive ListsNames : List Char → List String → Prop where
  | last {part : List Char} {name? : Option String} (stands : StandsFor part name?) :
      ListsNames part name?.toList
  | next {part text : List Char} {name? : Option String} {names : List String}
      (stands : StandsFor part name?) (lists : ListsNames text names) :
      ListsNames (part ++ ',' :: text) (name?.toList ++ names)

/-! ## Parts -/

/-- The name that is read from what stands between two commas. -/
def nameIn? (part : List Char) : Option String :=
  if Text.trim part = [] then none else some (String.ofList (Text.trim part))

namespace StandsFor

variable {part : List Char} {name? : Option String}

theorem not_mem (stands : StandsFor part name?) : ',' ∉ part := by
  have apart {blanks : List Char} (blank : ∀ c ∈ blanks, Text.isBlank c = true) : ',' ∉ blanks :=
    fun mem => Bool.false_ne_true (blank ',' mem)
  cases stands with
  | nothing blank => exact apart blank
  | name plain blank blanks =>
      rw [List.mem_append, List.mem_append]
      rintro ((front | within) | back)
      · exact apart blank front
      · exact plain.unseparated within
      · exact apart blanks back

theorem nameIn?_eq (stands : StandsFor part name?) : nameIn? part = name? := by
  cases stands with
  | nothing blank => rw [nameIn?, if_pos (Text.trim_eq_nil_iff.mpr blank)]
  | name plain blank blanks =>
      rw [nameIn?, Text.trim_append_of_blank _ blank blanks, Text.trim_of_isTight plain.tight,
        if_neg plain.nonempty, String.ofList_toList]

theorem of_not_mem (unseparated : ',' ∉ part) : StandsFor part (nameIn? part) := by
  rw [nameIn?]
  split
  · rename_i nothing
    exact .nothing (Text.trim_eq_nil_iff.mp nothing)
  · rename_i solid
    obtain ⟨front, back, split, blank, blanks⟩ := Text.exists_trim part
    have stands := name (isPlainName_trim unseparated solid) blank blanks
    rwa [String.toList_ofList, ← split] at stands

/-- A plain name stands for itself. -/
theorem self {name : String} (plain : IsPlainName name) : StandsFor name.toList (some name) := by
  have stands := StandsFor.name plain (List.forall_mem_nil _) (List.forall_mem_nil _)
  rwa [List.nil_append, List.append_nil] at stands

end StandsFor

/-! ## Reading and writing lists -/

theorem filterMap_nameIn?_cons (part : List Char) (parts : List (List Char)) :
    (part :: parts).filterMap nameIn? = (nameIn? part).toList ++ parts.filterMap nameIn? := by
  rw [List.filterMap_cons]
  cases nameIn? part <;> rfl

/-- The names in a text are read part by part. -/
theorem descriptionNames_eq_filterMap (text : String) :
    descriptionNames text = (Text.fields ',' text.toList).filterMap nameIn? := by
  rw [descriptionNames]
  induction Text.fields ',' text.toList with
  | nil => rfl
  | cons part parts ih =>
      rw [filterMap_nameIn?_cons, nameIn?, ← ih, List.map_cons]
      by_cases nothing : Text.trim part = []
      · rw [if_pos nothing, List.filter_cons_of_neg (by simp [nothing])]
        rfl
      · rw [if_neg nothing, List.filter_cons_of_pos (by simpa using nothing)]
        rfl

/-- Whatever characters a text has, it lists the names that are read from it. -/
theorem listsNames_fields (cs : List Char) :
    ListsNames cs ((Text.fields ',' cs).filterMap nameIn?) := by
  by_cases separated : ',' ∈ cs
  · obtain ⟨part, text, rfl, unseparated⟩ := List.eq_append_cons_of_mem separated
    rw [Text.fields_append_separator part text unseparated, filterMap_nameIn?_cons]
    exact .next (.of_not_mem unseparated) (listsNames_fields text)
  · rw [Text.fields_of_not_mem separated, filterMap_nameIn?_cons, List.filterMap_nil,
      List.append_nil]
    exact .last (.of_not_mem separated)
termination_by cs.length

/-- Whatever names a text lists, those are read from it. -/
theorem ListsNames.filterMap_eq {cs : List Char} {names : List String}
    (lists : ListsNames cs names) : (Text.fields ',' cs).filterMap nameIn? = names := by
  induction lists with
  | last stands =>
      rw [Text.fields_of_not_mem stands.not_mem, filterMap_nameIn?_cons, stands.nameIn?_eq,
        List.filterMap_nil, List.append_nil]
  | next stands _ ih =>
      rw [Text.fields_append_separator _ _ stands.not_mem, filterMap_nameIn?_cons,
        stands.nameIn?_eq, ih]

/-- A text lists the names that are read from it and no others. -/
theorem listsNames_iff {text : String} {names : List String} :
    ListsNames text.toList names ↔ descriptionNames text = names := by
  rw [descriptionNames_eq_filterMap]
  constructor
  · exact ListsNames.filterMap_eq
  · rintro rfl
    exact listsNames_fields text.toList

/-- Plain names are listed by themselves with single commas between them. -/
theorem listsNames_intercalate {names : List String} (plain : ∀ name ∈ names, IsPlainName name) :
    ListsNames (",".intercalate names).toList names := by
  induction names with
  | nil => exact .last (.nothing (List.forall_mem_nil _))
  | cons name names ih =>
      have first := StandsFor.self (plain name List.mem_cons_self)
      cases names with
      | nil =>
          rw [String.intercalate_singleton]
          exact .last first
      | cons second later =>
          rw [String.intercalate_cons_cons, String.toList_append, String.toList_append,
            List.append_assoc]
          exact .next first (ih fun other mem => plain other (List.mem_cons_of_mem name mem))

/-! ## Declared lists -/

namespace EntityOverlay

/-- The names that describe an entity once a text was declared for that. -/
def namesOnceDescribed (entity : EntityOverlay) (text : String) (store : Store) : List String :=
  (((Operation.describe entity (some text)).perform store).declared entity).descriptionNames

theorem namesOnceDescribed_eq (entity : EntityOverlay) (text : String) (store : Store) :
    entity.namesOnceDescribed text store = descriptionNames text := by
  change ((store.updateDeclared entity _).declared entity).descriptionNames = _
  rw [Store.declared_updateDeclared, if_pos rfl]
  rfl

/-- Whatever text is declared to describe an entity, the names that are read back are plain, and
they are what the text lists: in their order, each as often as it stands there, and nothing else.
Any other text that lists the same names, with blanks around the commas or with parts that are
blank or empty, makes no difference when it is declared in its stead; and any plain names are read
back from the text that puts single commas between them. -/
theorem describing_normalizes (entity : EntityOverlay) (text : String) (store : Store) :
    (∀ name ∈ entity.namesOnceDescribed text store, IsPlainName name) ∧
      (∀ names, ListsNames text.toList names ↔ entity.namesOnceDescribed text store = names) ∧
      (∀ again later, ListsNames again.toList (entity.namesOnceDescribed text store) →
        entity.namesOnceDescribed again later = entity.namesOnceDescribed text store) ∧
      ∀ names, (∀ name ∈ names, IsPlainName name) →
        entity.namesOnceDescribed (",".intercalate names) store = names := by
  simp only [namesOnceDescribed_eq]
  refine ⟨fun name mem => isPlainName_of_mem mem, fun names => listsNames_iff, ?_, ?_⟩
  · exact fun again _ lists => listsNames_iff.mp lists
  · exact fun names plain => listsNames_iff.mp (listsNames_intercalate plain)

end EntityOverlay

/-! ## How singers are named -/

namespace Choir

def resolver : Resolver := ⟨0, {}, []⟩

def model : Model := ⟨0, "choir"⟩

def singers : SchemaEntity := ⟨⟨"choir", ["public", "singers"]⟩, .ok [], .ok [], .ok [], .ok []⟩

def setup : List Operation :=
  [.createModel model.dataSource (.unreachable "offline"), .register resolver model,
    .resolveEntity resolver (.real singers) true]

def store : Store := setup.foldl (fun store operation => operation.perform store) .empty

def overlay : EntityOverlay := .ofEntity 1 singers.id model

/-- One name is declared twice, with a part left out; another text lists the same. -/
theorem describing_normalizes_singers :
    store.entityLives overlay = true ∧
      overlay.namesOnceDescribed " given ,, family,given" store = ["given", "family", "given"] ∧
      IsPlainName "family" ∧
      ListsNames " given ,, family,given".toList ["given", "family", "given"] ∧
      ListsNames "given,family \t,,\n, given,".toList ["given", "family", "given"] ∧
      overlay.namesOnceDescribed "given,family \t,,\n, given,"
        ((Operation.describe overlay (some " given ,, family,given")).perform store) =
          ["given", "family", "given"] ∧
      (∀ name ∈ ["stage name", "e-mail"], IsPlainName name) ∧
      overlay.namesOnceDescribed (",".intercalate ["stage name", "e-mail"]) store =
        ["stage name", "e-mail"] := by
  obtain ⟨plain, lists, normal, back⟩ :=
    overlay.describing_normalizes " given ,, family,given" store
  have named : overlay.namesOnceDescribed " given ,, family,given" store =
      ["given", "family", "given"] := by rfl
  have again : ListsNames "given,family \t,,\n, given,".toList ["given", "family", "given"] :=
    listsNames_iff.mpr (by rfl)
  have each : ∀ name ∈ ["stage name", "e-mail"], IsPlainName name := by
    intro name mem
    simp only [List.mem_cons, List.not_mem_nil, or_false] at mem
    obtain rfl | rfl := mem
    · exact ⟨by decide, by decide, by decide⟩
    · exact ⟨by decide, by decide, by decide⟩
  rw [named] at plain normal
  exact ⟨by rfl, named, plain "family" (by decide), (lists _).mpr named, again, normal _ _ again,
    each, back _ each⟩

end Choir

end SchemaOverlay
