import SchemaOverlay.Proofs.Layout

/-!
# Spellings of records

A record is spelled by an object that holds each of its fields once, under one
of the names of the field, or leaves the field out when it holds its default.
The order is free, and further keys may stand in between.  Such an object has
one filled slot for each field, from which the fields are read.
-/

namespace SchemaOverlay.Json

open Json.Tree (FieldNames slot? keyed?)

/-- A field of a record, and what it holds. -/
structure Field where
  names : FieldNames
  /-- Whether a tree spells what the field holds. -/
  spelled : Tree → Prop
  /-- Whether the field holds its default. -/
  isDefault : Prop

namespace Field

/-- A field that has to be there. -/
def required {α : Type} (names : FieldNames) (spelled : α → Tree → Prop) (value : α) : Field :=
  ⟨names, spelled value, False⟩

/-- A field that may be left out when it holds its default. -/
def optional {α : Type} (names : FieldNames) (default : α) (spelled : α → Tree → Prop)
    (value : α) : Field :=
  ⟨names, spelled value, value = default⟩

/-- Whether what a record holds for the field is right. -/
def Fills (field : Field) : Slot → Prop
  | none => field.isDefault
  | some tree => field.spelled tree

end Field

/-- The fields of a record, each under one of its names, or left out when it holds its default. -/
inductive Chosen : List Field → List (String × Tree) → Prop where
  | nil : Chosen [] []
  | present {field : Field} {name : String} {tree : Tree} {record : List Field}
      {chosen : List (String × Tree)} : name ∈ field.names → field.spelled tree →
      Chosen record chosen → Chosen (field :: record) ((name, tree) :: chosen)
  | missing {field : Field} {record : List Field} {chosen : List (String × Tree)} :
      field.isDefault → Chosen record chosen → Chosen (field :: record) chosen

/-- An object that spells a record: the chosen fields and unknown ones, in any order. -/
inductive SpellsRecord (record : List Field) : Tree → Prop where
  | object {fields : List (List Char × Tree)} {keyed chosen unknown : List (String × Tree)} :
      fields.mapM keyed? = some keyed → Chosen record chosen → keyed.Perm (chosen ++ unknown) →
      (∀ other ∈ unknown, ∀ field ∈ record, other.1 ∉ field.names) →
      SpellsRecord record (.object fields)

/-- An array of trees that spell the items. -/
inductive SpellsList {α : Type} (spelled : α → Tree → Prop) (items : List α) : Tree → Prop where
  | array {trees : List Tree} : List.Forall₂ spelled items trees →
      SpellsList spelled items (.array trees)

/-- The tree that is written for a value, and no other. -/
def Written {α : Type} (write : α → Tree) (value : α) (tree : Tree) : Prop :=
  tree = write value

theorem Written.self {α : Type} (write : α → Tree) (value : α) :
    Written write value (write value) :=
  rfl

/-- Whether every tree that spells a value is read as that value. -/
def ReadsBack {α : Type} (read : Tree → Option α) (spelled : α → Tree → Prop) : Prop :=
  ∀ value tree, spelled value tree → read tree = some value

/-- No name is known for two fields. -/
def HasDistinctNames (names : List FieldNames) : Prop :=
  names.Pairwise fun field other => ∀ name ∈ field, name ∉ other

section Slots

variable {fields others : List (String × Tree)} {names : FieldNames} {slot : Slot}

/-- A slot does not depend on the order of the fields. -/
theorem slot?_perm (perm : fields.Perm others) (found : slot? others names = some slot) :
    slot? fields names = some slot := by
  have filtered := perm.filter fun field => names.contains field.1
  unfold slot? at found ⊢
  split at found
  next nothing =>
    rw [nothing, List.perm_nil] at filtered
    rw [filtered]
    exact found
  next field single =>
    rw [single, List.perm_singleton] at filtered
    rw [filtered]
    exact found
  next => cases found

theorem filter_of_unknown (unknown : ∀ other ∈ others, other.1 ∉ names) :
    (others.filter fun field => names.contains field.1) = [] := by
  simpa using fun name tree member => unknown (name, tree) member

/-- A slot does not depend on fields of other names. -/
theorem slot?_append (unknown : ∀ other ∈ others, other.1 ∉ names) :
    slot? (fields ++ others) names = slot? fields names := by
  simp only [slot?, List.filter_append, filter_of_unknown unknown, List.append_nil]

theorem slot?_cons_of_not_mem {other : String × Tree} (unknown : other.1 ∉ names) :
    slot? (other :: fields) names = slot? fields names := by
  simp [slot?, unknown]

theorem slot?_of_unknown (unknown : ∀ other ∈ others, other.1 ∉ names) :
    slot? others names = some none := by
  rw [slot?, filter_of_unknown unknown]

theorem slot?_cons_of_mem {name : String} {tree : Tree} (known : name ∈ names)
    (unknown : ∀ other ∈ others, other.1 ∉ names) :
    slot? ((name, tree) :: others) names = some (some tree) := by
  have single : (((name, tree) :: others).filter fun field => names.contains field.1) =
      [(name, tree)] := by
    rw [List.filter_cons, filter_of_unknown unknown, if_pos (by simpa using known)]
  rw [slot?, single]

end Slots

namespace Chosen

variable {field : Field} {record : List Field} {chosen : List (String × Tree)}

/-- Every chosen field stands under a name of the record. -/
theorem exists_name (chose : Chosen record chosen) :
    ∀ entry ∈ chosen, ∃ field ∈ record, entry.1 ∈ field.names := by
  induction chose with
  | nil => simp
  | @present field name tree record chosen known spelled chose ih =>
    intro entry member
    obtain rfl | later := List.mem_cons.mp member
    · exact ⟨field, List.mem_cons_self, known⟩
    · obtain ⟨other, inRecord, named⟩ := ih entry later
      exact ⟨other, List.mem_cons_of_mem field inRecord, named⟩
  | @missing field record chosen isDefault chose ih =>
    intro entry member
    obtain ⟨other, inRecord, named⟩ := ih entry member
    exact ⟨other, List.mem_cons_of_mem field inRecord, named⟩

/-- A name of a field stands for none of the fields chosen behind it. -/
theorem not_mem_names (chose : Chosen record chosen)
    (distinct : HasDistinctNames ((field :: record).map Field.names)) :
    ∀ entry ∈ chosen, entry.1 ∉ field.names := by
  intro entry member named
  obtain ⟨other, inRecord, known⟩ := chose.exists_name entry member
  have apart := (List.pairwise_cons.mp distinct).1 other.names (List.mem_map_of_mem inRecord)
  exact apart entry.1 named known

/-- Each field of the record has its slot among the chosen fields, and it is filled. -/
theorem exists_slot (chose : Chosen record chosen)
    (distinct : HasDistinctNames (record.map Field.names)) :
    ∀ field ∈ record, ∃ slot, slot? chosen field.names = some slot ∧ field.Fills slot := by
  induction chose with
  | nil => simp
  | @present first name tree record chosen known spelled chose ih =>
    intro field member
    obtain rfl | later := List.mem_cons.mp member
    · exact ⟨some tree, slot?_cons_of_mem known (chose.not_mem_names distinct), spelled⟩
    · have apart := (List.pairwise_cons.mp distinct).1 field.names (List.mem_map_of_mem later)
      rw [slot?_cons_of_not_mem (apart name known)]
      exact ih (List.pairwise_cons.mp distinct).2 field later
  | @missing first record chosen isDefault chose ih =>
    intro field member
    obtain rfl | later := List.mem_cons.mp member
    · exact ⟨none, slot?_of_unknown (chose.not_mem_names distinct), isDefault⟩
    · exact ih (List.pairwise_cons.mp distinct).2 field later

end Chosen

theorem mapM_slots {record : List Field} {keyed : List (String × Tree)}
    (found : ∀ field ∈ record, ∃ slot, slot? keyed field.names = some slot ∧ field.Fills slot) :
    ∃ slots, (record.map Field.names).mapM (slot? keyed) = some slots ∧
      List.Forall₂ Field.Fills record slots := by
  induction record with
  | nil => exact ⟨[], rfl, .nil⟩
  | cons field record ih =>
    obtain ⟨slot, here, fills⟩ := found field List.mem_cons_self
    obtain ⟨slots, later, others⟩ :=
      ih fun other member => found other (List.mem_cons_of_mem field member)
    exact ⟨slot :: slots, by simp [here, later], .cons fills others⟩

theorem mapM_keyed? (fields : List (String × Tree)) :
    (fields.map fun field => (Quoted.encode field.1.toList, field.2)).mapM keyed? =
      some fields := by
  induction fields with
  | nil => rfl
  | cons field fields ih => simp [keyed?, ih]

namespace SpellsRecord

variable {record : List Field} {tree : Tree}

/-- An object that spells a record has one filled slot for each of its fields. -/
theorem slots (spelled : SpellsRecord record tree) {names : List FieldNames}
    (distinct : HasDistinctNames names) (named : record.map Field.names = names) :
    ∃ slots, tree.slots? names = some slots ∧ List.Forall₂ Field.Fills record slots := by
  subst named
  cases spelled with
  | @object fields keyed chosen unknown keys chose perm stray =>
    have found : ∀ field ∈ record,
        ∃ slot, slot? keyed field.names = some slot ∧ field.Fills slot := by
      intro field member
      obtain ⟨slot, found, fills⟩ := chose.exists_slot distinct field member
      rw [← slot?_append fun other among => stray other among field member] at found
      exact ⟨slot, slot?_perm perm found, fills⟩
    obtain ⟨slots, read, fills⟩ := mapM_slots found
    exact ⟨slots, by rw [Tree.slots?, keys]; exact read, fills⟩

/-- The fields of a record spell it, written in any order and with unknown ones. -/
theorem ofRecord {keyed chosen unknown : List (String × Tree)} (chose : Chosen record chosen)
    (perm : keyed.Perm (chosen ++ unknown))
    (stray : ∀ other ∈ unknown, ∀ field ∈ record, other.1 ∉ field.names) :
    SpellsRecord record (.ofRecord keyed) :=
  .object (mapM_keyed? keyed) chose perm stray

/-- Exactly the fields of a record, in their order, spell it. -/
theorem ofRecord_self {chosen : List (String × Tree)} (chose : Chosen record chosen) :
    SpellsRecord record (.ofRecord chosen) :=
  ofRecord chose (.of_eq (List.append_nil chosen).symm) (by simp)

end SpellsRecord

section Reading

variable {α : Type} {names : FieldNames} {spelled : α → Tree → Prop} {read : Tree → Option α}
  {write : α → Tree} {default value : α} {slot : Slot}

theorem ReadsBack.required (reads : ReadsBack read spelled)
    (fills : (Field.required names spelled value).Fills slot) :
    slot.required read = some value := by
  cases slot with
  | none => exact fills.elim
  | some tree => exact reads value tree fills

theorem ReadsBack.optional (reads : ReadsBack read spelled)
    (fills : (Field.optional names default spelled value).Fills slot) :
    slot.optional default read = some value := by
  cases slot with
  | none => exact congrArg some (Eq.symm fills)
  | some tree => exact reads value tree fills

theorem ReadsBack.written (reads : ∀ value, read (write value) = some value) :
    ReadsBack read (Written write) := by
  rintro value tree rfl
  exact reads value

/-- A list is read back when each of its items is. -/
theorem ReadsBack.list (reads : ReadsBack read spelled) :
    ReadsBack (Tree.list? read) (SpellsList spelled) := by
  rintro items tree ⟨trees⟩
  induction trees with
  | nil => rfl
  | @cons item tree items trees first others ih =>
    simp only [Tree.list?] at ih
    simp [Tree.list?, reads item tree first, ih]

/-- Items that are written one by one spell their list. -/
theorem SpellsList.ofList (writes : ∀ item, spelled item (write item)) (items : List α) :
    SpellsList spelled items (.ofList write items) := by
  refine .array ?_
  rw [List.forall₂_map_right_iff, List.forall₂_same]
  exact fun item _ => writes item

end Reading

end SchemaOverlay.Json
