import SchemaOverlay.Proofs.Catalog

/-!
# Which snapshots make a catalog

A snapshot makes a catalog exactly when no two of its tables have the same
identity and every foreign key leads to one of them.  Otherwise the first fault
is reported, and repeated identities come before keys that lead nowhere.  A
catalog serves every table under its identity, and nothing under any other.
-/

namespace SchemaOverlay

namespace Snapshot

/-- The associations that the keys of all tables declare, table by table. -/
def associations (snapshot : Snapshot) : List Association :=
  snapshot.tables.flatMap (·.associations snapshot.dataSource)

/-- Whether the tables have identities of their own and every key leads to one of them. -/
structure IsSound (snapshot : Snapshot) : Prop where
  distinct : snapshot.ids.Nodup
  resolved : ∀ table ∈ snapshot.tables, ∀ key ∈ table.foreignKeys,
    key.target snapshot.dataSource table ∈ snapshot.ids

/-- Whether the first table that repeats the identity of an earlier one has the given identity. -/
def FirstRepeats (snapshot : Snapshot) (id : ObjectId) : Prop :=
  ∃ front rest, snapshot.ids = front ++ id :: rest ∧ front.Nodup ∧ id ∈ front

/-- Whether the association is the first one that leads to no table. -/
def FirstDangles (snapshot : Snapshot) (association : Association) : Prop :=
  ∃ front rest, snapshot.associations = front ++ association :: rest ∧
    (∀ earlier ∈ front, earlier.referenced ∈ snapshot.ids) ∧
    association.referenced ∉ snapshot.ids

theorem FirstRepeats.not_nodup {snapshot : Snapshot} {id : ObjectId}
    (repeats : snapshot.FirstRepeats id) : ¬ snapshot.ids.Nodup := by
  obtain ⟨front, rest, split, -, among⟩ := repeats
  rw [split, List.nodup_append]
  rintro ⟨-, -, apart⟩
  exact apart id among id List.mem_cons_self rfl

theorem forall_associations_iff {snapshot : Snapshot} {property : ObjectId → Prop} :
    (∀ association ∈ snapshot.associations, property association.referenced) ↔
      ∀ table ∈ snapshot.tables, ∀ key ∈ table.foreignKeys,
        property (key.target snapshot.dataSource table) := by
  simp only [associations, Table.associations, List.mem_flatMap, List.mem_map]
  constructor
  · intro holds table among key listed
    exact holds (key.association snapshot.dataSource table) ⟨table, among, key, listed, rfl⟩
  · rintro holds association ⟨table, among, key, listed, rfl⟩
    exact holds table among key listed

end Snapshot

namespace SnapshotCatalog

variable {dataSource : String} {index : SortedMap ObjectId Nat} {tables : List Table}
  {error : CatalogError}

/-! ## Repeated identities -/

/-- Filing fails at the first table whose identity is filed already. -/
theorem indexTables_error_iff {position : Nat} :
    indexTables dataSource position index tables = .error error ↔
      ∃ front id rest, tables.map (·.id dataSource) = front ++ id :: rest ∧ front.Nodup ∧
        (∀ earlier ∈ front, index.contains earlier = false) ∧
        (id ∈ front ∨ index.contains id = true) ∧ error = .duplicateTable id := by
  -- The tables in front are in the index, so a repeat shows either there or in what follows.
  induction tables generalizing position index with
  | nil => simp [indexTables]
  | cons table later ih =>
      rw [indexTables, List.map_cons]
      split
      · rename_i filed
        constructor
        · rintro ⟨⟩
          exact ⟨[], table.id dataSource, _, rfl, .nil, by simp, .inr filed, rfl⟩
        · rintro ⟨front, id, rest, split, -, absent, -, rfl⟩
          cases front with
          | nil =>
              obtain ⟨rfl, -⟩ := List.cons.inj split
              rfl
          | cons first front =>
              obtain ⟨rfl, -⟩ := List.cons.inj split
              rw [absent _ List.mem_cons_self] at filed
              cases filed
      · rename_i unfiled
        have absent : index.contains (table.id dataSource) = false := by simpa using unfiled
        rw [ih]
        simp only [SortedMap.contains_insert, Bool.or_eq_false_iff, Bool.or_eq_true, beq_iff_eq,
          beq_eq_false_iff_ne]
        constructor
        · rintro ⟨front, id, rest, split, distinct, fresh, repeats, rfl⟩
          refine ⟨table.id dataSource :: front, id, rest, by rw [split]; rfl, ?_, ?_, ?_, rfl⟩
          · exact List.nodup_cons.mpr ⟨fun mem => (fresh _ mem).1 rfl, distinct⟩
          · exact List.forall_mem_cons.mpr ⟨absent, fun earlier mem => (fresh earlier mem).2⟩
          · rcases repeats with among | same | filed
            · exact .inl (List.mem_cons_of_mem _ among)
            · exact .inl (same ▸ List.mem_cons_self)
            · exact .inr filed
        · rintro ⟨front, id, rest, split, distinct, fresh, repeats, rfl⟩
          cases front with
          | nil =>
              obtain ⟨rfl, -⟩ := List.cons.inj split
              simp [absent] at repeats
          | cons first front =>
              obtain ⟨rfl, split⟩ := List.cons.inj split
              obtain ⟨apart, distinct⟩ := List.nodup_cons.mp distinct
              refine ⟨front, id, rest, by simpa using split, distinct,
                fun earlier mem => ⟨?_, ?_⟩, ?_, rfl⟩
              · exact fun same => apart (same ▸ mem)
              · exact fresh earlier (List.mem_cons_of_mem _ mem)
              · rcases repeats with among | filed
                · rcases List.mem_cons.mp among with same | among
                  · exact .inr (.inl same)
                  · exact .inl among
                · exact .inr (.inr filed)

/-! ## Keys that lead nowhere -/

/-- The error for an association that leads nowhere. -/
def danglingError (association : Association) : CatalogError :=
  .unknownTarget association.name association.owner association.referenced

/-- Whether an association leads to nothing that is filed. -/
def leadsNowhere (index : SortedMap ObjectId Nat) (association : Association) : Bool :=
  !index.contains association.referenced

/-- Following the keys of a table fails at the first one that leads nowhere. -/
theorem followKeys_error_iff {owner : Table} {position : Nat} {links : Links}
    {keys : List ForeignKey} :
    followKeys dataSource index owner position links keys = .error error ↔
      ∃ association, (keys.map (·.association dataSource owner)).find? (leadsNowhere index) =
        some association ∧ error = danglingError association := by
  induction keys generalizing links with
  | nil => simp [followKeys]
  | cons key later ih =>
      rw [followKeys, List.map_cons, List.find?_cons]
      cases found : index.get? (key.association dataSource owner).referenced with
      | none =>
          have nowhere : leadsNowhere index (key.association dataSource owner) = true := by
            simp [leadsNowhere, SortedMap.contains, found]
          simp only [nowhere]
          constructor
          · rintro ⟨⟩
            exact ⟨_, rfl, rfl⟩
          · rintro ⟨_, ⟨⟩, rfl⟩
            rfl
      | some target =>
          have somewhere : leadsNowhere index (key.association dataSource owner) = false := by
            simp [leadsNowhere, SortedMap.contains, found]
          simp only [somewhere]
          exact ih

/-- Following the keys of all tables fails at the first one that leads nowhere. -/
theorem followTables_error_iff {position : Nat} {links : Links} :
    followTables dataSource index position links tables = .error error ↔
      ∃ association, (tables.flatMap (·.associations dataSource)).find? (leadsNowhere index) =
        some association ∧ error = danglingError association := by
  induction tables generalizing position links with
  | nil => simp [followTables]
  | cons table later ih =>
      rw [followTables, List.flatMap_cons, List.find?_append]
      cases followed : followKeys dataSource index table position links table.foreignKeys with
      | error fault =>
          obtain ⟨association, first, rfl⟩ := followKeys_error_iff.mp followed
          rw [← Table.associations] at first
          rw [first, Option.some_or]
          constructor
          · rintro ⟨⟩
            exact ⟨association, rfl, rfl⟩
          · rintro ⟨_, ⟨⟩, rfl⟩
            rfl
      | ok middle =>
          have resolved : (table.associations dataSource).find? (leadsNowhere index) = none := by
            rw [Option.eq_none_iff_forall_ne_some]
            intro association first
            have failed : followKeys dataSource index table position links table.foreignKeys =
                .error (danglingError association) :=
              followKeys_error_iff.mpr ⟨association, first, rfl⟩
            rw [followed] at failed
            cases failed
          rw [resolved, Option.none_or]
          exact ih

/-! ## The first fault -/

section Built

variable {snapshot : Snapshot}

/-- Building fails while tables are filed, or else while keys are followed. -/
theorem build_error_iff :
    build snapshot = .error error ↔
      indexTables snapshot.dataSource 0 .empty snapshot.tables = .error error ∨
        ∃ index, indexTables snapshot.dataSource 0 .empty snapshot.tables = .ok index ∧
          followTables snapshot.dataSource index 0 (.unfollowed snapshot.tables.length)
            snapshot.tables = .error error := by
  unfold build
  cases filed : indexTables snapshot.dataSource 0 .empty snapshot.tables with
  | error fault => simp [bind, Except.bind]
  | ok index =>
      cases followed : followTables snapshot.dataSource index 0
          (.unfollowed snapshot.tables.length) snapshot.tables with
      | error fault => simp [bind, Except.bind, followed]
      | ok links => simp [bind, Except.bind, followed]

theorem indexTables_error_iff_firstRepeats :
    indexTables snapshot.dataSource 0 .empty snapshot.tables = .error error ↔
      ∃ id, snapshot.FirstRepeats id ∧ error = .duplicateTable id := by
  rw [indexTables_error_iff]
  constructor
  · rintro ⟨front, id, rest, split, distinct, -, repeats, rfl⟩
    have among : id ∈ front := by simpa [SortedMap.contains] using repeats
    exact ⟨id, ⟨front, rest, split, distinct, among⟩, rfl⟩
  · rintro ⟨id, ⟨front, rest, split, distinct, among⟩, rfl⟩
    exact ⟨front, id, rest, split, distinct, fun _ _ => rfl, .inl among, rfl⟩

section Indexed

variable {index : SortedMap ObjectId Nat}
  (indexed : indexTables snapshot.dataSource 0 .empty snapshot.tables = .ok index)

include indexed

theorem contains_indexed_iff {id : ObjectId} : index.contains id = true ↔ id ∈ snapshot.ids := by
  rw [SortedMap.contains, Option.isSome_iff_exists, List.mem_iff_getElem?]
  exact exists_congr fun position => get?_indexed_iff indexed

theorem find?_leadsNowhere_iff {association : Association} :
    snapshot.associations.find? (leadsNowhere index) = some association ↔
      snapshot.FirstDangles association := by
  have leads (other : Association) :
      leadsNowhere index other = true ↔ other.referenced ∉ snapshot.ids := by
    rw [leadsNowhere, Bool.not_eq_true', ← Bool.not_eq_true, contains_indexed_iff indexed]
  simp only [List.find?_eq_some_iff_append, Snapshot.FirstDangles, leads, Bool.not_eq_true',
    ← Bool.not_eq_true, Decidable.not_not]
  constructor
  · rintro ⟨dangles, front, rest, split, sound⟩
    exact ⟨front, rest, split, sound, dangles⟩
  · rintro ⟨front, rest, split, sound, dangles⟩
    exact ⟨dangles, front, rest, split, sound⟩

end Indexed

/-- A table that repeats an earlier one is reported, whatever the keys. -/
theorem build_eq_duplicateTable_iff {id : ObjectId} :
    build snapshot = .error (.duplicateTable id) ↔ snapshot.FirstRepeats id := by
  rw [build_error_iff, indexTables_error_iff_firstRepeats]
  constructor
  · rintro (⟨_, repeats, ⟨⟩⟩ | ⟨index, -, failed⟩)
    · exact repeats
    · obtain ⟨_, -, ⟨⟩⟩ := followTables_error_iff.mp failed
  · exact fun repeats => .inl ⟨id, repeats, rfl⟩

/-- Where all tables are filed, the first key that leads nowhere is reported. -/
theorem build_eq_unknownTarget_iff {key : String} {owner target : ObjectId} :
    build snapshot = .error (.unknownTarget key owner target) ↔
      snapshot.ids.Nodup ∧ ∃ association, snapshot.FirstDangles association ∧
        association.name = key ∧ association.owner = owner ∧ association.referenced = target := by
  rw [build_error_iff, indexTables_error_iff_firstRepeats]
  constructor
  · rintro (⟨_, -, ⟨⟩⟩ | ⟨index, indexed, failed⟩)
    obtain ⟨association, found, ⟨⟩⟩ := followTables_error_iff.mp failed
    exact ⟨nodup_ids_of_indexed indexed, association,
      (find?_leadsNowhere_iff indexed).mp found, rfl, rfl, rfl⟩
  · rintro ⟨distinct, association, dangles, rfl, rfl, rfl⟩
    cases indexed : indexTables snapshot.dataSource 0 .empty snapshot.tables with
    | error fault =>
        obtain ⟨id, repeats, -⟩ := indexTables_error_iff_firstRepeats.mp indexed
        exact absurd distinct repeats.not_nodup
    | ok index =>
        exact .inr ⟨index, rfl, followTables_error_iff.mpr
          ⟨association, (find?_leadsNowhere_iff indexed).mpr dangles, rfl⟩⟩

/-- A snapshot makes a catalog exactly when it is sound. -/
theorem exists_build_iff : (∃ catalog, build snapshot = .ok catalog) ↔ snapshot.IsSound := by
  constructor
  · rintro ⟨catalog, built⟩
    refine ⟨nodup_ids built, fun table among key listed => ?_⟩
    obtain ⟨target, there, same⟩ := exists_target built among
      (List.mem_map_of_mem (f := fun key => key.association snapshot.dataSource table) listed)
    exact List.mem_map.mpr ⟨target, there, same⟩
  · rintro ⟨distinct, resolved⟩
    cases built : build snapshot with
    | ok catalog => exact ⟨catalog, rfl⟩
    | error fault =>
        rcases fault with id | ⟨key, owner, target⟩
        · exact absurd distinct (build_eq_duplicateTable_iff.mp built).not_nodup
        · obtain ⟨-, association, ⟨front, rest, split, -, dangles⟩, -⟩ :=
            build_eq_unknownTarget_iff.mp built
          have among : association ∈ snapshot.associations := by simp [split]
          exact absurd (Snapshot.forall_associations_iff.mpr resolved association among) dangles

/-! ## What is served -/

/-- Whether a catalog serves the tables of a snapshot: each at its place with its columns and
constraints, found under its identity alone, and with an index that leads into the list. -/
structure Serves (catalog : SnapshotCatalog) (snapshot : Snapshot) : Prop where
  entities : (catalog.entities.map fun entity =>
      (entity.id, entity.attributes, entity.constraints)) =
    snapshot.tables.map fun table =>
      (table.id snapshot.dataSource, .ok table.columns, .ok table.constraints)
  finds : ∀ (position : Nat) (table : Table), snapshot.tables[position]? = some table →
    ∃ entity, catalog.entities[position]? = some entity ∧
      ∀ id, catalog.toSchemaCatalog.find id = .ok (some entity) ↔
        id = table.id snapshot.dataSource
  misses : ∀ id ∉ snapshot.ids, catalog.toSchemaCatalog.find id = .ok none
  inRange : ∀ (id : ObjectId) (position : Nat), catalog.index.get? id = some position →
    position < catalog.entities.length

theorem serves {catalog : SnapshotCatalog} (built : build snapshot = .ok catalog) :
    catalog.Serves snapshot where
  entities := by
    rw [entities_eq built, List.map_map]
    rfl
  finds position table here := by
    have found := find?_id built (List.mem_of_getElem? here)
    refine ⟨snapshot.entityOf table, ?_, fun id => ?_⟩
    · rw [entities_eq built, List.getElem?_map, here, Option.map_some]
    · constructor
      · intro answer
        exact ((find?_eq_some_iff built).mp (Except.ok.inj answer)).2.symm
      · rintro rfl
        exact congrArg Except.ok found
  misses id absent := by
    refine congrArg Except.ok (Option.eq_none_iff_forall_ne_some.mpr fun entity found => absent ?_)
    obtain ⟨mem, rfl⟩ := (find?_eq_some_iff built).mp found
    rw [entities_eq built] at mem
    obtain ⟨table, among, rfl⟩ := List.mem_map.mp mem
    exact List.mem_map_of_mem among
  inRange id position filed := by
    have bound := (List.getElem?_eq_some_iff.mp ((get?_index_iff built).mp filed)).1
    rwa [entities_eq built, List.length_map, ← List.length_map (f := (·.id snapshot.dataSource)),
      ← Snapshot.ids]

/-- A snapshot makes a catalog exactly when its tables have identities of their own and every key
leads to one of them.  A repeated identity is reported first, whatever the keys, then the first
key that leads nowhere; a catalog serves every table under its identity and nothing else. -/
theorem build_accepts_exactly_sound (snapshot : Snapshot) :
    ((∃ catalog, build snapshot = .ok catalog) ↔ snapshot.IsSound) ∧
      (∀ id, build snapshot = .error (.duplicateTable id) ↔ snapshot.FirstRepeats id) ∧
      (∀ key owner target, build snapshot = .error (.unknownTarget key owner target) ↔
        snapshot.ids.Nodup ∧ ∃ association, snapshot.FirstDangles association ∧
          association.name = key ∧ association.owner = owner ∧
            association.referenced = target) ∧
      ∀ catalog, build snapshot = .ok catalog → catalog.Serves snapshot := by
  exact ⟨exists_build_iff, fun id => build_eq_duplicateTable_iff,
    fun key owner target => build_eq_unknownTarget_iff, fun catalog => serves⟩

end Built

end SnapshotCatalog

namespace Staff

theorem isSound_snapshot : snapshot.IsSound where
  distinct := by decide
  resolved := by
    intro table among key listed
    simp only [snapshot, List.mem_cons, List.not_mem_nil, or_false] at among
    rcases among with rfl | rfl
    · revert key
      decide
    · revert key
      decide

/-- The two tables make a catalog; the badges alone do not, and twice they fail for another
reason, although their key leads nowhere as before. -/
theorem build_verdicts :
    (∃ catalog, SnapshotCatalog.build snapshot = .ok catalog ∧ catalog.Serves snapshot) ∧
      SnapshotCatalog.build ⟨"main", [badges]⟩ = .error
        (.unknownTarget "holder" ⟨"main", ["gate", "badges"]⟩ ⟨"main", ["hr", "people"]⟩) ∧
      SnapshotCatalog.build ⟨"main", [badges, badges]⟩ =
        .error (.duplicateTable ⟨"main", ["gate", "badges"]⟩) := by
  obtain ⟨accepts, -, -, served⟩ := SnapshotCatalog.build_accepts_exactly_sound snapshot
  obtain ⟨catalog, built⟩ := accepts.mpr isSound_snapshot
  refine ⟨⟨catalog, built, served catalog built⟩, ?_, ?_⟩
  · refine ((SnapshotCatalog.build_accepts_exactly_sound _).2.2.1 _ _ _).mpr
      ⟨by decide, ⟨"holder", ⟨"main", ["gate", "badges"]⟩, ⟨"main", ["hr", "people"]⟩, []⟩,
        ⟨[], [], by decide, by decide, by decide⟩, rfl, rfl, rfl⟩
  · exact ((SnapshotCatalog.build_accepts_exactly_sound _).2.1 _).mpr
      ⟨[⟨"main", ["gate", "badges"]⟩], [], by decide, by decide, by decide⟩

end Staff

end SchemaOverlay
