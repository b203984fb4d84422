import SchemaOverlay.Schema.Catalog

/-!
# Catalogs and their snapshots

What a catalog serves, said without the loops that build it.  The index files
every table under its identity, the associations of a table are its own foreign
keys, and its references are the foreign keys of all tables that lead to it, in
the order of the snapshot.  Every key is therefore listed twice, and look-ups
lead from either end to the entity that lists it.
-/

namespace SchemaOverlay

/-- The associations that a table's foreign keys declare, in their order. -/
def Table.associations (table : Table) (dataSource : String) : List Association :=
  table.foreignKeys.map fun key => key.association dataSource table

namespace Snapshot

/-- The associations of all tables that lead to an identity, table by table. -/
def references (snapshot : Snapshot) (id : ObjectId) : List Association :=
  snapshot.tables.flatMap fun table =>
    (table.associations snapshot.dataSource).filter (·.referenced = id)

/-- The entity that a table becomes, with its own keys and with those that lead to it. -/
def entityOf (snapshot : Snapshot) (table : Table) : SchemaEntity :=
  SnapshotCatalog.entityOf snapshot.dataSource table (table.associations snapshot.dataSource)
    (snapshot.references (table.id snapshot.dataSource))

theorem mem_references_iff {snapshot : Snapshot} {id : ObjectId} {association : Association} :
    association ∈ snapshot.references id ↔
      (∃ table ∈ snapshot.tables, association ∈ table.associations snapshot.dataSource) ∧
        association.referenced = id := by
  simp only [references, List.mem_flatMap, List.mem_filter, decide_eq_true_iff]
  constructor
  · rintro ⟨table, among, listed, leads⟩
    exact ⟨⟨table, among, listed⟩, leads⟩
  · rintro ⟨⟨table, among, listed⟩, leads⟩
    exact ⟨table, among, listed, leads⟩

end Snapshot

theorem Table.owner_of_mem_associations {table : Table} {dataSource : String}
    {association : Association} (listed : association ∈ table.associations dataSource) :
    association.owner = table.id dataSource := by
  obtain ⟨key, -, rfl⟩ := List.mem_map.mp listed
  rfl

namespace SnapshotCatalog

/-! ## The index -/

section Index

variable {dataSource : String} {index filed : SortedMap ObjectId Nat} {tables : List Table}

/-- Filing tables adds their positions to an index and changes nothing in it. -/
theorem get?_indexTables_iff {position : Nat}
    (built : indexTables dataSource position index tables = .ok filed) (id : ObjectId)
    (found : Nat) :
    filed.get? id = some found ↔
      index.get? id = some found ∨
        ∃ offset, (tables.map (·.id dataSource))[offset]? = some id ∧
          position + offset = found := by
  induction tables generalizing position index with
  | nil =>
      cases built
      simp
  | cons table rest ih =>
      rw [indexTables] at built
      split at built
      · cases built
      · rename_i absent
        rw [ih built, SortedMap.get?_insert]
        have absent : index.get? (table.id dataSource) = none := by
          simpa [SortedMap.contains] using absent
        constructor
        · rintro (here | ⟨offset, later, rfl⟩)
          · split at here
            · rename_i same
              cases here
              exact .inr ⟨0, by simp [same], rfl⟩
            · exact .inl here
          · exact .inr ⟨offset + 1, by simpa using later, by omega⟩
        · rintro (before | ⟨offset, there, rfl⟩)
          · refine .inl ?_
            rw [if_neg]
            · exact before
            · rintro rfl
              rw [absent] at before
              cases before
          · cases offset with
            | zero =>
                have same : table.id dataSource = id := by simpa using there
                exact .inl (by rw [if_pos same.symm, Nat.add_zero])
            | succ offset => exact .inr ⟨offset, by simpa using there, by omega⟩

variable {snapshot : Snapshot}
  (indexed : indexTables snapshot.dataSource 0 .empty snapshot.tables = .ok index)

include indexed

theorem get?_indexed_iff {id : ObjectId} {position : Nat} :
    index.get? id = some position ↔ snapshot.ids[position]? = some id := by
  rw [get?_indexTables_iff indexed]
  simp [Snapshot.ids]

/-- Tables that were all filed have identities of their own, since each has one position. -/
theorem nodup_ids_of_indexed : snapshot.ids.Nodup := by
  rw [List.nodup_iff_pairwise_ne, List.pairwise_iff_getElem]
  intro first second front back less same
  have here := (get?_indexed_iff indexed).mpr (List.getElem?_eq_getElem front)
  have there := (get?_indexed_iff indexed).mpr (List.getElem?_eq_getElem back)
  rw [same, there, Option.some.injEq] at here
  omega

end Index

/-! ## Following keys -/

namespace Links

/-- Whether some associations were listed with their owner and each with its target, behind what
was listed before. -/
structure Extends (index : SortedMap ObjectId Nat) (owner : Nat) (associations : List Association)
    (before after : Links) : Prop where
  outgoing : after.outgoing = before.outgoing.modify owner (· ++ associations)
  incoming : ∀ target, after.incoming[target]? = before.incoming[target]?.map
    (· ++ associations.filter fun association => index.get? association.referenced = some target)
  resolved : ∀ association ∈ associations, ∃ target,
    index.get? association.referenced = some target

namespace Extends

variable {index : SortedMap ObjectId Nat} {owner : Nat} {before middle after : Links}

theorem refl (links : Links) : Extends index owner [] links links := by
  refine ⟨?_, fun target => ?_, by simp⟩
  · simp only [List.append_nil]
    exact (List.modify_id owner links.outgoing).symm
  · simp

/-- One association listed with both of its ends. -/
theorem add {association : Association} {target : Nat}
    (found : index.get? association.referenced = some target) (links : Links) :
    Extends index owner [association] links (links.add owner target association) := by
  refine ⟨rfl, fun other => ?_, by simp [found]⟩
  rw [Links.add, List.getElem?_modify]
  by_cases here : target = other <;> simp [found, here]

theorem append {first second : List Association} (front : Extends index owner first before middle)
    (back : Extends index owner second middle after) :
    Extends index owner (first ++ second) before after := by
  refine ⟨?_, fun target => ?_, fun association mem => ?_⟩
  · rw [back.outgoing, front.outgoing, List.modify_modify_eq]
    congr 1
    funext listed
    simp
  · rw [back.incoming, front.incoming, Option.map_map, List.filter_append]
    congr 1
    funext listed
    simp
  · rcases List.mem_append.mp mem with sooner | later
    · exact front.resolved association sooner
    · exact back.resolved association later

end Extends

end Links

section Following

variable {dataSource : String} {index : SortedMap ObjectId Nat} {links followed : Links}

/-- Following the keys of a table lists its associations. -/
theorem extends_followKeys {owner : Table} {position : Nat} {keys : List ForeignKey}
    (built : followKeys dataSource index owner position links keys = .ok followed) :
    Links.Extends index position (keys.map (·.association dataSource owner)) links followed := by
  induction keys generalizing links with
  | nil =>
      cases built
      exact .refl _
  | cons key rest ih =>
      simp only [followKeys] at built
      split at built
      · cases built
      · rename_i target found
        exact (Links.Extends.add found links).append (ih built)

theorem modify_append {α : Type} (front : List α) (here : α) (later : List α) (change : α → α) :
    (front ++ here :: later).modify front.length change = front ++ change here :: later := by
  induction front with
  | nil => rfl
  | cons first rest ih => simpa using ih

theorem bind_ok {ε α β : Type} {action : Except ε α} {next : α → Except ε β} {result : β}
    (done : action >>= next = .ok result) :
    ∃ value, action = .ok value ∧ next value = .ok result := by
  cases action with
  | error error => cases done
  | ok value => exact ⟨value, rfl, done⟩

/-- Following the keys of tables fills the places of the tables one after the other. -/
theorem outgoing_followTables {tables : List Table} {front : List (List Association)}
    (built : followTables dataSource index front.length links tables = .ok followed)
    (before : links.outgoing = front ++ List.replicate tables.length []) :
    followed.outgoing = front ++ tables.map (·.associations dataSource) := by
  induction tables generalizing links front with
  | nil =>
      cases built
      simpa using before
  | cons table rest ih =>
      obtain ⟨middle, keys, later⟩ := bind_ok built
      have step := (extends_followKeys keys).outgoing
      rw [before, List.length_cons, List.replicate_succ, modify_append, List.nil_append] at step
      have moved : (front ++ [table.associations dataSource]).length = front.length + 1 := by simp
      rw [← moved] at later
      rw [ih later (by simpa [Table.associations] using step)]
      simp

/-- Following the keys of tables lists, with every target, the associations that lead to it. -/
theorem incoming_followTables {tables : List Table} {position : Nat}
    (built : followTables dataSource index position links tables = .ok followed) (target : Nat) :
    followed.incoming[target]? = links.incoming[target]?.map
      (· ++ tables.flatMap fun table => (table.associations dataSource).filter
        fun association => index.get? association.referenced = some target) := by
  induction tables generalizing links position with
  | nil =>
      cases built
      simp
  | cons table rest ih =>
      obtain ⟨middle, keys, later⟩ := bind_ok built
      rw [ih later, (extends_followKeys keys).incoming, Option.map_map, List.flatMap_cons]
      congr 1
      funext listed
      simp [Table.associations]

theorem resolved_followTables {tables : List Table} {position : Nat}
    (built : followTables dataSource index position links tables = .ok followed) {table : Table}
    (mem : table ∈ tables) {association : Association}
    (listed : association ∈ table.associations dataSource) :
    ∃ target, index.get? association.referenced = some target := by
  induction tables generalizing links position with
  | nil => cases mem
  | cons first rest ih =>
      obtain ⟨middle, keys, later⟩ := bind_ok built
      rcases List.mem_cons.mp mem with rfl | behind
      · exact (extends_followKeys keys).resolved association listed
      · exact ih later behind

end Following

/-! ## What a catalog serves -/

/-- The entities are the tables with the associations and the references that belong to them. -/
theorem entitiesOf_eq_zip (dataSource : String) (tables : List Table)
    (outgoing incoming : List (List Association)) :
    entitiesOf dataSource tables outgoing incoming =
      (tables.zip (outgoing.zip incoming)).map fun entry =>
        entityOf dataSource entry.1 entry.2.1 entry.2.2 := by
  induction tables generalizing outgoing incoming with
  | nil => simp [entitiesOf]
  | cons table rest ih =>
      cases outgoing with
      | nil => simp [entitiesOf]
      | cons out outs =>
          cases incoming with
          | nil => simp [entitiesOf]
          | cons into intos => simp [entitiesOf, ih]

section Built

variable {snapshot : Snapshot} {catalog : SnapshotCatalog}

theorem get?_index_iff (built : build snapshot = .ok catalog) {id : ObjectId} {position : Nat} :
    catalog.index.get? id = some position ↔ snapshot.ids[position]? = some id := by
  obtain ⟨index, indexed, built⟩ := bind_ok built
  obtain ⟨links, followed, built⟩ := bind_ok built
  cases built
  exact get?_indexed_iff indexed

/-- No two tables of a snapshot with a catalog have the same identity. -/
theorem nodup_ids (built : build snapshot = .ok catalog) : snapshot.ids.Nodup := by
  obtain ⟨index, indexed, -⟩ := bind_ok built
  exact nodup_ids_of_indexed indexed

/-- A catalog serves every table with its own keys and with those that lead to it. -/
theorem entities_eq (built : build snapshot = .ok catalog) :
    catalog.entities = snapshot.tables.map snapshot.entityOf := by
  have filed (id : ObjectId) (position : Nat) :
      catalog.index.get? id = some position ↔ snapshot.ids[position]? = some id :=
    get?_index_iff built
  obtain ⟨index, indexed, built⟩ := bind_ok built
  obtain ⟨links, followed, built⟩ := bind_ok built
  cases built
  have outgoing : links.outgoing =
      [] ++ snapshot.tables.map (·.associations snapshot.dataSource) :=
    outgoing_followTables followed (by simp [Links.unfollowed])
  refine List.ext_getElem? fun position => ?_
  dsimp only at filed ⊢
  rw [entitiesOf_eq_zip, outgoing, List.nil_append, List.zip, List.zip, List.getElem?_map,
    List.getElem?_zipWith, List.getElem?_zipWith, List.getElem?_map, List.getElem?_map]
  cases here : snapshot.tables[position]? with
  | none => rfl
  | some table =>
      have bound : position < snapshot.tables.length := (List.getElem?_eq_some_iff.mp here).1
      have incoming : links.incoming[position]? =
          some (snapshot.references (table.id snapshot.dataSource)) := by
        rw [incoming_followTables followed, Links.unfollowed, List.getElem?_replicate,
          if_pos bound, Option.map_some, List.nil_append, Snapshot.references]
        simp only [filed, Snapshot.ids, List.getElem?_map, here, Option.map_some,
          Option.some.injEq, eq_comm]
      simp only [Option.map_some, incoming]
      rfl

/-- A catalog finds the entity of an identity, and nothing else. -/
theorem find?_eq_some_iff (built : build snapshot = .ok catalog) {id : ObjectId}
    {entity : SchemaEntity} :
    catalog.find? id = some entity ↔ entity ∈ catalog.entities ∧ entity.id = id := by
  have ids : catalog.entities.map (·.id) = snapshot.ids := by
    rw [entities_eq built, List.map_map]
    rfl
  rw [find?, Option.bind_eq_some_iff]
  constructor
  · rintro ⟨position, filed, found⟩
    rw [get?_index_iff built, ← ids, List.getElem?_map, found, Option.map_some,
      Option.some.injEq] at filed
    exact ⟨List.mem_of_getElem? found, filed⟩
  · rintro ⟨mem, rfl⟩
    obtain ⟨position, found⟩ := List.mem_iff_getElem?.mp mem
    refine ⟨position, (get?_index_iff built).mpr ?_, found⟩
    rw [← ids, List.getElem?_map, found, Option.map_some]

theorem find?_id (built : build snapshot = .ok catalog) {table : Table}
    (among : table ∈ snapshot.tables) :
    catalog.find? (table.id snapshot.dataSource) = some (snapshot.entityOf table) := by
  refine (find?_eq_some_iff built).mpr ⟨?_, rfl⟩
  rw [entities_eq built]
  exact List.mem_map_of_mem among

/-- Every key of a snapshot with a catalog leads to one of its tables. -/
theorem exists_target (built : build snapshot = .ok catalog) {table : Table}
    (among : table ∈ snapshot.tables) {association : Association}
    (listed : association ∈ table.associations snapshot.dataSource) :
    ∃ target ∈ snapshot.tables, target.id snapshot.dataSource = association.referenced := by
  have filed (position : Nat) :
      catalog.index.get? association.referenced = some position ↔
        snapshot.ids[position]? = some association.referenced :=
    get?_index_iff built
  obtain ⟨index, indexed, built⟩ := bind_ok built
  obtain ⟨links, followed, built⟩ := bind_ok built
  cases built
  obtain ⟨position, found⟩ := resolved_followTables followed among listed
  exact List.mem_map.mp (List.mem_of_getElem? ((filed position).mp found))

end Built

end SnapshotCatalog

/-! ## Both ends of a key -/

namespace SchemaEntity

/-- Whether the entity lists an association as its own. -/
def Owns (entity : SchemaEntity) (association : Association) : Prop :=
  ∃ listed, entity.associations = .ok listed ∧ association ∈ listed

/-- Whether the entity lists an association as one that leads to it. -/
def IsTarget (entity : SchemaEntity) (association : Association) : Prop :=
  ∃ listed, entity.references = .ok listed ∧ association ∈ listed

end SchemaEntity

namespace Snapshot

variable {snapshot : Snapshot} {table : Table} {association : Association}

theorem owns_entityOf_iff :
    (snapshot.entityOf table).Owns association ↔
      association ∈ table.associations snapshot.dataSource := by
  constructor
  · rintro ⟨_, ⟨⟩, listed⟩
    exact listed
  · exact fun listed => ⟨_, rfl, listed⟩

theorem isTarget_entityOf_iff :
    (snapshot.entityOf table).IsTarget association ↔
      association ∈ snapshot.references (table.id snapshot.dataSource) := by
  constructor
  · rintro ⟨_, ⟨⟩, listed⟩
    exact listed
  · exact fun listed => ⟨_, rfl, listed⟩

end Snapshot

namespace SnapshotCatalog

/-- Every foreign key of a snapshot is listed with its owner and with its target: the associations
of an entity are the keys of its table, its references are the associations of all tables that
lead to it, and either end of an association leads to the entity that lists it there. -/
theorem associations_dual_references {snapshot : Snapshot} {catalog : SnapshotCatalog}
    (built : build snapshot = .ok catalog) :
    (catalog.entities.map fun entity => (entity.id, entity.associations)) =
        (snapshot.tables.map fun table => (table.id snapshot.dataSource,
          .ok (table.foreignKeys.map fun key =>
            { name := key.name
              owner := table.id snapshot.dataSource
              referenced := ⟨snapshot.dataSource,
                key.referencedContainer.getD table.container ++ [key.referencedTable]⟩
              columns := key.columns }))) ∧
      (catalog.entities.map (·.id)).Nodup ∧
      (∀ entity ∈ catalog.entities, entity.references =
        .ok (snapshot.tables.flatMap fun table =>
          (table.associations snapshot.dataSource).filter (·.referenced = entity.id))) ∧
      ∀ entity ∈ catalog.entities, ∀ association,
        (entity.Owns association →
          catalog.toSchemaCatalog.find association.owner = .ok (some entity) ∧
            ∃ target, catalog.toSchemaCatalog.find association.referenced = .ok (some target) ∧
              target.IsTarget association) ∧
        (entity.IsTarget association →
          catalog.toSchemaCatalog.find association.referenced = .ok (some entity) ∧
            ∃ owner, catalog.toSchemaCatalog.find association.owner = .ok (some owner) ∧
              owner.Owns association) := by
  have entities := entities_eq built
  have find {table : Table} (among : table ∈ snapshot.tables) :
      catalog.toSchemaCatalog.find (table.id snapshot.dataSource) =
        .ok (some (snapshot.entityOf table)) := congrArg Except.ok (find?_id built among)
  refine ⟨?_, ?_, ?_, ?_⟩
  · rw [entities, List.map_map]
    rfl
  · rw [entities, List.map_map]
    exact nodup_ids built
  · intro entity mem
    rw [entities] at mem
    obtain ⟨table, -, rfl⟩ := List.mem_map.mp mem
    rfl
  · intro entity mem association
    rw [entities] at mem
    obtain ⟨table, among, rfl⟩ := List.mem_map.mp mem
    rw [Snapshot.owns_entityOf_iff, Snapshot.isTarget_entityOf_iff, Snapshot.mem_references_iff]
    constructor
    · intro listed
      obtain ⟨target, there, same⟩ := exists_target built among listed
      rw [Table.owner_of_mem_associations listed, ← same]
      refine ⟨find among, _, find there, ?_⟩
      rw [Snapshot.isTarget_entityOf_iff, Snapshot.mem_references_iff]
      exact ⟨⟨table, among, listed⟩, same.symm⟩
    · rintro ⟨⟨owner, there, listed⟩, same⟩
      rw [Table.owner_of_mem_associations listed, same]
      exact ⟨find among, _, find there, Snapshot.owns_entityOf_iff.mpr listed⟩

end SnapshotCatalog

/-! ## Two tables with keys of every sort -/

namespace Staff

/-- A table with two parallel keys to itself. -/
def people : Table :=
  ((Table.ofName "people").within ["hr"]).withForeignKey ⟨"manager", none, "people", []⟩
    |>.withForeignKey ⟨"mentor", none, "people", []⟩

/-- A table of another container, with a key to the first one. -/
def badges : Table :=
  ((Table.ofName "badges").within ["gate"]).withForeignKey ⟨"holder", some ["hr"], "people", []⟩

def snapshot : Snapshot := ⟨"main", [badges, people]⟩

/-- The keys of both tables lead to the people, in the order of the tables and of their keys. -/
theorem references_people :
    ∃ catalog, SnapshotCatalog.build snapshot = .ok catalog ∧
      ∃ entity ∈ catalog.entities, entity.id = ⟨"main", ["hr", "people"]⟩ ∧
        ∃ listed, entity.references = .ok listed ∧
          listed.map (·.name) = ["holder", "manager", "mentor"] := by
  have exists_catalog : ∃ catalog, SnapshotCatalog.build snapshot = .ok catalog := by
    have evaluated : (SnapshotCatalog.build snapshot).toOption.isSome = true := by decide +kernel
    cases built : SnapshotCatalog.build snapshot with
    | error error =>
        rw [built] at evaluated
        cases evaluated
    | ok catalog => exact ⟨catalog, rfl⟩
  obtain ⟨catalog, built⟩ := exists_catalog
  have among : people ∈ snapshot.tables := by decide
  have found := SnapshotCatalog.find?_id built among
  obtain ⟨mem, same⟩ := (SnapshotCatalog.find?_eq_some_iff built).mp found
  refine ⟨catalog, built, _, mem, same, _,
    (SnapshotCatalog.associations_dual_references built).2.2.1 _ mem, ?_⟩
  rw [same]
  decide

end Staff

end SchemaOverlay
