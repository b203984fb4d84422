import SchemaOverlay.Proofs.DescriptionChoice

/-!
# The names in a description

A description is read as column names with commas between them.  Every text can
be read so, but nothing in it is ever quoted: only a name that is plain is read
back as itself.  The answer to whoever asks for a description is either declared,
a text that nobody has looked into, or the name of one column.
-/

namespace SchemaOverlay

/-! ## Reading names -/

/-- Whether a text holds anything besides commas and blanks. -/
def HoldsNames (text : String) : Prop :=
  ∃ c ∈ text.toList, c ≠ ',' ∧ Text.isBlank c = false

/-- Whether a name stands for itself among names with commas between them. -/
structure IsPlainName (name : String) : Prop where
  nonempty : name.toList ≠ []
  unseparated : ',' ∉ name.toList
  tight : Text.isTight name.toList = true

theorem mem_descriptionNames_iff {text name : String} :
    name ∈ descriptionNames text ↔
      ∃ field ∈ Text.fields ',' text.toList, Text.trim field ≠ [] ∧
        name = String.ofList (Text.trim field) := by
  simp only [descriptionNames, List.mem_map, List.mem_filter]
  constructor
  · rintro ⟨_, ⟨⟨field, mem, rfl⟩, solid⟩, rfl⟩
    exact ⟨field, mem, by simpa using solid, rfl⟩
  · rintro ⟨field, mem, solid, rfl⟩
    exact ⟨_, ⟨⟨field, mem, rfl⟩, by simpa using solid⟩, rfl⟩

/-- What trimming leaves of a part between commas is plain, if it leaves anything. -/
theorem isPlainName_trim {part : List Char} (unseparated : ',' ∉ part)
    (solid : Text.trim part ≠ []) : IsPlainName (String.ofList (Text.trim part)) := by
  refine ⟨?_, ?_, ?_⟩ <;> rw [String.toList_ofList]
  · exact solid
  · exact mt Text.mem_of_mem_trim unseparated
  · exact Text.isTight_trim part

/-- Whatever is read from a description is plain. -/
theorem isPlainName_of_mem {text name : String} (mem : name ∈ descriptionNames text) :
    IsPlainName name := by
  obtain ⟨field, among, solid, rfl⟩ := mem_descriptionNames_iff.mp mem
  exact isPlainName_trim (Text.not_mem_of_mem_fields among) solid

/-- The plain names are those that are read back as themselves. -/
theorem descriptionNames_eq_singleton_iff {name : String} :
    descriptionNames name = [name] ↔ IsPlainName name := by
  constructor
  · intro back
    exact isPlainName_of_mem (back ▸ List.mem_singleton_self name)
  · intro plain
    rw [descriptionNames, Text.fields_of_not_mem plain.unseparated, List.map_singleton,
      Text.trim_of_isTight plain.tight, List.filter_cons_of_pos (by simpa using plain.nonempty),
      List.filter_nil, List.map_singleton, String.ofList_toList]

/-- Some name is read from a text exactly when it holds more than commas and blanks. -/
theorem descriptionNames_ne_nil_iff {text : String} :
    descriptionNames text ≠ [] ↔ HoldsNames text := by
  have among (c : Char) : (c ∈ text.toList ∧ c ≠ ',') ↔
      ∃ field ∈ Text.fields ',' text.toList, c ∈ field := by
    rw [← List.mem_flatten, Text.flatten_fields, List.mem_filter, bne_iff_ne]
  constructor
  · intro named
    obtain ⟨name, mem⟩ := List.exists_mem_of_ne_nil _ named
    obtain ⟨field, within, solid, -⟩ := mem_descriptionNames_iff.mp mem
    obtain ⟨c, inside, visible⟩ : ∃ c ∈ field, Text.isBlank c = false := by
      simpa [Text.trim_eq_nil_iff] using solid
    obtain ⟨present, other⟩ := (among c).mpr ⟨field, within, inside⟩
    exact ⟨c, present, other, visible⟩
  · rintro ⟨c, present, other, visible⟩
    obtain ⟨field, within, inside⟩ := (among c).mp ⟨present, other⟩
    have solid : Text.trim field ≠ [] := by
      intro nothing
      rw [Text.trim_eq_nil_iff.mp nothing c inside] at visible
      cases visible
    exact List.ne_nil_of_mem (mem_descriptionNames_iff.mpr ⟨field, within, solid, rfl⟩)

/-! ## Names that differ in case -/

namespace Text

theorem lowerAscii_eq_comma_iff (c : Char) : lowerAscii c = ',' ↔ c = ',' := by
  rcases lowerAscii_cases c with same | ⟨capital, small⟩
  · rw [same]
  · have comma : (',' : Char).toNat = 44 := rfl
    refine ⟨fun same => ?_, fun same => ?_⟩
    · rw [same, comma] at small
      omega
    · rw [same, comma] at capital
      omega

theorem comma_mem_map_lowerAscii {cs : List Char} : ',' ∈ cs.map lowerAscii ↔ ',' ∈ cs := by
  simp [List.mem_map, lowerAscii_eq_comma_iff]

theorem isTight_map_lowerAscii (cs : List Char) : isTight (cs.map lowerAscii) = isTight cs := by
  simp [isTight, Option.any_map, isBlank_lowerAscii]

theorem isAllBlank_map_lowerAscii (cs : List Char) :
    isAllBlank (cs.map lowerAscii) = isAllBlank cs := by
  simp [isAllBlank, Function.comp_def, isBlank_lowerAscii]

end Text

section SameName

variable {left right : String} (same : Text.sameIgnoringCase left right = true)

include same

theorem comma_mem_congr : ',' ∈ left.toList ↔ ',' ∈ right.toList := by
  rw [← Text.comma_mem_map_lowerAscii, (Text.sameIgnoringCase_iff left right).mp same,
    Text.comma_mem_map_lowerAscii]

theorem isBlankName_congr : isBlankName left = isBlankName right := by
  rw [isBlankName, ← Text.isAllBlank_map_lowerAscii, (Text.sameIgnoringCase_iff left right).mp same,
    Text.isAllBlank_map_lowerAscii, ← isBlankName]

/-- Whether a name is plain does not depend on its case. -/
theorem isPlainName_congr : IsPlainName left ↔ IsPlainName right := by
  have letters := (Text.sameIgnoringCase_iff left right).mp same
  have empty : left.toList = [] ↔ right.toList = [] := by
    rw [← List.map_eq_nil_iff, letters, List.map_eq_nil_iff]
  have tight : Text.isTight left.toList = Text.isTight right.toList := by
    rw [← Text.isTight_map_lowerAscii, letters, Text.isTight_map_lowerAscii]
  constructor
  · rintro ⟨nonempty, unseparated, ends⟩
    exact ⟨mt empty.mpr nonempty, mt (comma_mem_congr same).mpr unseparated, tight ▸ ends⟩
  · rintro ⟨nonempty, unseparated, ends⟩
    exact ⟨mt empty.mp nonempty, mt (comma_mem_congr same).mp unseparated, tight.trans ends⟩

end SameName

/-- A name that is not blank and has no comma is read as some name. -/
theorem holdsNames_of_not_mem {name : String} (solid : isBlankName name = false)
    (unseparated : ',' ∉ name.toList) : HoldsNames name := by
  obtain ⟨c, mem, visible⟩ : ∃ c ∈ name.toList, Text.isBlank c = false := by
    simpa [isBlankName, Text.isAllBlank] using solid
  exact ⟨c, mem, fun comma => unseparated (comma ▸ mem), visible⟩

/-! ## What an answer names -/

namespace Resolver

variable {resolver : Resolver} {store : Store} {entity : EntityRef} {key : Column} {text : String}

/-- A column that matches a preferred name of a valid configuration is as plain as that name, and
never blank. -/
theorem names_of_matches (valid : resolver.config.validate = .ok resolver.config) {column : Column}
    {name : String} (preferred : name ∈ resolver.config.description.preferredColumns)
    (same : column.Matches name) :
    (IsPlainName name → descriptionNames column.name = [column.name]) ∧
      (',' ∉ name.toList → descriptionNames column.name ≠ []) := by
  have solid : isBlankName column.name = false := by
    rw [isBlankName_congr same]
    exact (OverlayConfig.validate_eq_ok_iff resolver.config).mp valid name preferred
  refine ⟨fun plain => ?_, fun unseparated => ?_⟩
  · exact descriptionNames_eq_singleton_iff.mpr ((isPlainName_congr same).mpr plain)
  · exact descriptionNames_ne_nil_iff.mpr
      (holdsNames_of_not_mem solid (mt (comma_mem_congr same).mp unseparated))

end Resolver

/-- In every reachable store and under every valid configuration, an answer that was declared is the
declared text, which names a column exactly when it holds more than commas and blanks.  An answer
that was not declared comes from the column that is chosen: where the name of that column is plain,
the answer names that column and no other.  The preferred names carry this over to the columns that
match them. -/
theorem Store.Reachable.description_names {store : Store} (reachable : store.Reachable)
    {resolver : Resolver} (valid : resolver.config.validate = .ok resolver.config)
    (entity : EntityRef) (key : Column) {text : String}
    (answered : (resolver.descriptionColumns entity key store).value = .ok (some text)) :
    (∀ declared, entity.description? resolver store = some declared →
      text = declared ∧ (descriptionNames text ≠ [] ↔ HoldsNames declared)) ∧
    (entity.description? resolver store = none →
      ∃ schemaEntity columns column, entity.LeadsTo store (.ok (some schemaEntity)) ∧
        schemaEntity.attributes = .ok columns ∧
        resolver.config.description.Chooses columns key.name column ∧
        (HoldsNames column.name → descriptionNames text ≠ []) ∧
        (IsPlainName column.name → descriptionNames text = [column.name]) ∧
        ∀ name ∈ resolver.config.description.preferredColumns, column.Matches name →
          (IsPlainName name → descriptionNames text = [column.name]) ∧
            (',' ∉ name.toList → descriptionNames text ≠ [])) := by
  have describes := Resolver.describes_value reachable.sound resolver entity key
  rw [answered] at describes
  cases describes with
  | declared declares =>
      refine ⟨fun declared same => ?_, fun undeclared => ?_⟩
      · obtain rfl : text = declared := Option.some.inj (declares.symm.trans same)
        exact ⟨rfl, descriptionNames_ne_nil_iff⟩
      · cases undeclared.symm.trans declares
  | @chosen schemaEntity columns column undeclared leads listing chooses =>
      refine ⟨fun declared same => ?_, fun _ => ?_⟩
      · cases undeclared.symm.trans same
      refine ⟨schemaEntity, columns, column, leads, listing, chooses, ?_, ?_, ?_⟩
      · exact descriptionNames_ne_nil_iff.mpr
      · exact descriptionNames_eq_singleton_iff.mpr
      · exact fun name preferred same => Resolver.names_of_matches valid preferred same

/-! ## People with odd columns -/

namespace Census

def resolver : Resolver := ⟨0, {}, []⟩

def model : Model := ⟨0, "census"⟩

def key : Column := .ofType "id" "int4"

/-- A table with the key and one column of text. -/
def table (name column : String) : SchemaEntity :=
  ⟨⟨"census", ["public", name]⟩, .ok [key, .ofType column "text"], .ok [], .ok [], .ok []⟩

def people : SchemaEntity := table "people" "last,first"

def streets : SchemaEntity := table "streets" "NAME"

def setup : List Operation :=
  [.createModel model.dataSource (.unreachable "offline"), .register resolver model,
    .resolveEntity resolver (.real people) true]

def store : Store := setup.foldl (fun store operation => operation.perform store) .empty

theorem reachable : store.Reachable := ⟨setup, Run.of_permits (by decide)⟩

def overlay : EntityOverlay := .ofEntity 1 people.id model

def described (text : String) : Store :=
  (Operation.describe overlay (some text)).perform store

theorem reachable_described (text : String) : (described text).Reachable :=
  reachable.run (.next (by rfl) .done)

theorem valid : resolver.config.validate = .ok resolver.config := by rfl

/-- A declared text may name nothing, and the name of a column may be read as two names. -/
theorem names_no_column :
    (described " , ").Reachable ∧ store.Reachable ∧
      resolver.config.validate = .ok resolver.config ∧
      (resolver.descriptionColumns (.real people) key (described " , ")).value =
        .ok (some " , ") ∧
      descriptionNames " , " = [] ∧
      (EntityRef.real people).description? resolver store = none ∧
      (resolver.descriptionColumns (.real people) key store).value = .ok (some "last,first") ∧
      descriptionNames "last,first" = ["last", "first"] :=
  ⟨reachable_described _, reachable, valid, by rfl, by rfl, by rfl, by rfl, by rfl⟩

/-- Two names are declared for the people.  The name of a street is a preferred one, so it is read
back as itself. -/
theorem description_names_streets :
    (described "given, family").Reachable ∧ store.Reachable ∧
      resolver.config.validate = .ok resolver.config ∧
      (resolver.descriptionColumns (.overlay overlay) key (described "given, family")).value =
        .ok (some "given, family") ∧
      descriptionNames "given, family" ≠ [] ∧
      (resolver.descriptionColumns (.real streets) key store).value = .ok (some "NAME") ∧
      descriptionNames "NAME" = ["NAME"] := by
  have declares : (resolver.descriptionColumns (.overlay overlay) key
      (described "given, family")).value = .ok (some "given, family") := by rfl
  have answered : (resolver.descriptionColumns (.real streets) key store).value =
      .ok (some "NAME") := by rfl
  obtain ⟨declared, -⟩ :=
    (reachable_described "given, family").description_names valid (.overlay overlay) key declares
  obtain ⟨-, undeclared⟩ := reachable.description_names valid (.real streets) key answered
  obtain ⟨-, -, column, ⟨⟩, ⟨⟩, chooses, -, -, named⟩ := undeclared (by rfl)
  obtain rfl : .ofType "NAME" "text" = column :=
    Option.some.inj (DescriptionConfig.choose?_eq_some_iff.mpr chooses)
  refine ⟨reachable_described _, reachable, valid, declares, ?_, answered, ?_⟩
  · exact (declared "given, family" (by rfl)).2.mpr ⟨'g', by decide, by decide, by decide⟩
  · exact (named "name" (by decide) (by rfl)).1 ⟨by decide, by decide, by decide⟩

end Census

end SchemaOverlay
