/-!
# Sorted maps

A finite map kept as its list of entries in strictly ascending key order.  Each
map has exactly one such list, so equal maps are equal values and every listing
comes out in key order.  `get?_insert` and `get?_erase` say what the updates do
to a look-up.
-/

namespace SchemaOverlay

/-- Entries in strictly ascending key order. -/
structure SortedMap (κ : Type) (α : Type) [Ord κ] where
  /-- The entries, smallest key first. -/
  toList : List (κ × α)
  /-- No key is repeated or out of order. -/
  ascending : toList.Pairwise fun front back => compare front.1 back.1 = .lt

namespace SortedMap

variable {κ α : Type} [Ord κ]

instance [DecidableEq κ] [DecidableEq α] : DecidableEq (SortedMap κ α) := fun left right =>
  if same : left.toList = right.toList then
    .isTrue (by cases left; cases right; simp_all)
  else .isFalse fun equal => same (equal ▸ rfl)

theorem ext {left right : SortedMap κ α} (same : left.toList = right.toList) : left = right := by
  cases left; cases right; simp_all

def empty : SortedMap κ α := ⟨[], .nil⟩

instance : EmptyCollection (SortedMap κ α) := ⟨empty⟩
instance : Inhabited (SortedMap κ α) := ⟨empty⟩

/-- The value filed under a key in a list of entries. -/
def lookup (key : κ) : List (κ × α) → Option α
  | [] => none
  | entry :: rest => if compare key entry.1 = .eq then some entry.2 else lookup key rest

def get? (map : SortedMap κ α) (key : κ) : Option α :=
  lookup key map.toList

/-- Whether a value is filed under the key. -/
def contains (map : SortedMap κ α) (key : κ) : Bool :=
  (map.get? key).isSome

def keys (map : SortedMap κ α) : List κ :=
  map.toList.map (·.1)

/-- The values, in the order of their keys. -/
def values (map : SortedMap κ α) : List α :=
  map.toList.map (·.2)

def size (map : SortedMap κ α) : Nat :=
  map.toList.length

def isEmpty (map : SortedMap κ α) : Bool :=
  map.toList.isEmpty

/-- Put an entry at its place in a sorted list, over an entry of the same key. -/
def place (key : κ) (value : α) : List (κ × α) → List (κ × α)
  | [] => [(key, value)]
  | entry :: rest =>
    match compare key entry.1 with
    | .lt => (key, value) :: entry :: rest
    | .eq => (key, value) :: rest
    | .gt => entry :: place key value rest

def drop (key : κ) (entries : List (κ × α)) : List (κ × α) :=
  entries.filter fun entry => compare key entry.1 != .eq

/-- The map without the entry of a key. -/
def erase (map : SortedMap κ α) (key : κ) : SortedMap κ α :=
  ⟨drop key map.toList, map.ascending.sublist List.filter_sublist⟩

@[simp] theorem toList_empty : (empty : SortedMap κ α).toList = [] := rfl

@[simp] theorem get?_empty (key : κ) : (empty : SortedMap κ α).get? key = none := rfl

theorem contains_of_isEmpty {map : SortedMap κ α} (nothing : map.isEmpty = true) (key : κ) :
    map.contains key = false := by
  rw [isEmpty, List.isEmpty_iff] at nothing
  simp [contains, get?, nothing, lookup]

theorem mem_place {key : κ} {value : α} {entries : List (κ × α)} {entry : κ × α}
    (mem : entry ∈ place key value entries) : entry = (key, value) ∨ entry ∈ entries := by
  induction entries with
  | nil => simpa [place] using mem
  | cons first rest ih =>
      unfold place at mem
      split at mem
      · simpa using mem
      · rcases List.mem_cons.mp mem with same | later
        · exact .inl same
        · exact .inr (List.mem_cons_of_mem _ later)
      · rcases List.mem_cons.mp mem with same | later
        · exact .inr (by simp [same])
        · rcases ih later with same | old
          · exact .inl same
          · exact .inr (List.mem_cons_of_mem _ old)

section Ordered

variable [Std.TransOrd κ] [Std.LawfulEqOrd κ]

theorem place_ascending (key : κ) (value : α) {entries : List (κ × α)}
    (ascending : entries.Pairwise fun front back => compare front.1 back.1 = .lt) :
    (place key value entries).Pairwise fun front back => compare front.1 back.1 = .lt := by
  induction entries with
  | nil => simp [place]
  | cons first rest ih =>
      obtain ⟨below, sorted⟩ := List.pairwise_cons.mp ascending
      unfold place
      split
      · rename_i before
        refine List.pairwise_cons.mpr ⟨fun entry mem => ?_, ascending⟩
        rcases List.mem_cons.mp mem with same | later
        · simpa [same] using before
        · exact Std.TransCmp.lt_trans before (below entry later)
      · rename_i same
        rw [Std.LawfulEqCmp.eq_of_compare same]
        exact List.pairwise_cons.mpr ⟨below, sorted⟩
      · rename_i after
        refine List.pairwise_cons.mpr ⟨fun entry mem => ?_, ih sorted⟩
        rcases mem_place mem with same | later
        · simpa [same] using Std.OrientedCmp.lt_of_gt after
        · exact below entry later

/-- The map with a value filed under a key, over what was there. -/
def insert (map : SortedMap κ α) (key : κ) (value : α) : SortedMap κ α :=
  ⟨place key value map.toList, place_ascending key value map.ascending⟩

/-- File the entries one after the other, so of a repeated key the last one stays. -/
def ofList (entries : List (κ × α)) : SortedMap κ α :=
  entries.foldl (fun map entry => map.insert entry.1 entry.2) empty

omit [Std.LawfulEqOrd κ] in
/-- An entry above all others is put behind them. -/
theorem place_of_above {key : κ} (value : α) {entries : List (κ × α)}
    (above : ∀ entry ∈ entries, compare entry.1 key = .lt) :
    place key value entries = entries ++ [(key, value)] := by
  induction entries with
  | nil => rfl
  | cons first rest ih =>
      have after : compare key first.1 = .gt :=
        Std.OrientedCmp.gt_of_lt (above first List.mem_cons_self)
      have later := ih fun entry mem => above entry (List.mem_cons_of_mem first mem)
      rw [place, after, later, List.cons_append]

/-- Entries that ascend above those of a map are filed behind them. -/
theorem toList_foldl_insert (map : SortedMap κ α) (entries : List (κ × α))
    (ascending : (map.toList ++ entries).Pairwise fun front back =>
      compare front.1 back.1 = .lt) :
    (entries.foldl (fun map entry => map.insert entry.1 entry.2) map).toList =
      map.toList ++ entries := by
  induction entries generalizing map with
  | nil => simp
  | cons first rest ih =>
      have above : ∀ entry ∈ map.toList, compare entry.1 first.1 = .lt := fun entry mem =>
        (List.pairwise_append.mp ascending).2.2 entry mem first List.mem_cons_self
      have filed : (map.insert first.1 first.2).toList = map.toList ++ [first] :=
        place_of_above first.2 above
      rw [List.foldl_cons, ih, filed, List.append_assoc, List.singleton_append]
      rw [filed, List.append_assoc, List.singleton_append]
      exact ascending

/-- A map is what filing its entries one after the other makes. -/
theorem ofList_toList (map : SortedMap κ α) : ofList map.toList = map :=
  ext (toList_foldl_insert empty map.toList map.ascending)

omit [Std.TransOrd κ] in
theorem lookup_place [DecidableEq κ] (key wanted : κ) (value : α) (entries : List (κ × α)) :
    lookup wanted (place key value entries) =
      if wanted = key then some value else lookup wanted entries := by
  induction entries with
  | nil => simp [place, lookup]
  | cons first rest ih =>
      unfold place
      split
      · simp [lookup]
      · rename_i same
        have same := Std.LawfulEqCmp.eq_of_compare same
        subst same
        by_cases here : wanted = first.1 <;>
          simp [lookup, here]
      · rename_i after
        by_cases here : wanted = first.1
        · have apart : first.1 ≠ key := by
            rintro rfl
            simp [Std.ReflOrd.compare_self] at after
          simp [lookup, here, apart]
        · simp [lookup, here, ih]

/-- A look-up after filing finds the new value under its key and the old ones elsewhere. -/
theorem get?_insert [DecidableEq κ] (map : SortedMap κ α) (key wanted : κ) (value : α) :
    (map.insert key value).get? wanted = if wanted = key then some value else map.get? wanted :=
  lookup_place key wanted value map.toList

theorem contains_insert [DecidableEq κ] (map : SortedMap κ α) (key wanted : κ) (value : α) :
    (map.insert key value).contains wanted = (wanted == key || map.contains wanted) := by
  by_cases same : wanted = key <;> simp [contains, get?_insert, same]

omit [Std.TransOrd κ] in
theorem lookup_drop [DecidableEq κ] (key wanted : κ) (entries : List (κ × α)) :
    lookup wanted (drop key entries) = if wanted = key then none else lookup wanted entries := by
  induction entries with
  | nil => simp [drop, lookup]
  | cons first rest ih =>
      unfold drop at ih ⊢
      by_cases here : key = first.1 <;> by_cases found : wanted = first.1 <;>
        by_cases same : wanted = key <;>
        simp_all [lookup]

omit [Std.TransOrd κ] in
/-- A look-up after dropping a key finds nothing under it and the old values elsewhere. -/
theorem get?_erase [DecidableEq κ] (map : SortedMap κ α) (key wanted : κ) :
    (map.erase key).get? wanted = if wanted = key then none else map.get? wanted :=
  lookup_drop key wanted map.toList

omit [Std.TransOrd κ] in
theorem lookup_eq_some_iff {entries : List (κ × α)}
    (ascending : entries.Pairwise fun front back => compare front.1 back.1 = .lt)
    (key : κ) (value : α) : lookup key entries = some value ↔ (key, value) ∈ entries := by
  induction entries with
  | nil => simp [lookup]
  | cons first rest ih =>
      obtain ⟨below, sorted⟩ := List.pairwise_cons.mp ascending
      rw [lookup]
      split
      · rename_i same
        have same := Std.LawfulEqCmp.eq_of_compare same
        subst same
        constructor
        · intro found
          rw [Option.some.injEq] at found
          subst found
          simp
        · intro mem
          rcases List.mem_cons.mp mem with here | later
          · rw [← here]
          · have less := below _ later
            simp [Std.ReflOrd.compare_self] at less
      · rename_i other
        rw [ih sorted]
        constructor
        · exact List.mem_cons_of_mem _
        · intro mem
          rcases List.mem_cons.mp mem with here | later
          · exact absurd (by rw [← here]; exact Std.ReflOrd.compare_self) other
          · exact later

omit [Std.TransOrd κ] in
/-- A value is found under a key exactly when that pair is an entry. -/
theorem get?_eq_some_iff (map : SortedMap κ α) (key : κ) (value : α) :
    map.get? key = some value ↔ (key, value) ∈ map.toList :=
  lookup_eq_some_iff map.ascending key value

omit [Std.TransOrd κ] in
/-- The values are what is found under the keys. -/
theorem mem_values_iff (map : SortedMap κ α) (value : α) :
    value ∈ map.values ↔ ∃ key, map.get? key = some value := by
  simp [values, get?_eq_some_iff]

omit [Std.TransOrd κ] in
/-- No value is repeated that is filed under one key only. -/
theorem values_nodup {map : SortedMap κ α} (once : ∀ left right value,
    map.get? left = some value → map.get? right = some value → left = right) :
    map.values.Nodup := by
  rw [values, List.nodup_iff_pairwise_ne, List.pairwise_map]
  refine map.ascending.imp_of_mem fun {front back} here there less same => ?_
  have found : map.get? front.1 = some back.2 :=
    same ▸ (get?_eq_some_iff map front.1 front.2).mpr here
  rw [once _ _ _ found ((get?_eq_some_iff map back.1 back.2).mpr there),
    Std.ReflOrd.compare_self] at less
  cases less

end Ordered

/-! ## Inclusion -/

/-- Whether every entry of one map is an entry of another. -/
def Within (small large : SortedMap κ α) : Prop :=
  ∀ key value, small.get? key = some value → large.get? key = some value

namespace Within

variable {small middle large : SortedMap κ α}

theorem refl (map : SortedMap κ α) : map.Within map := fun _ _ found => found

theorem trans (front : small.Within middle) (back : middle.Within large) : small.Within large :=
  fun key value found => back key value (front key value found)

/-- A new key leaves the old entries as they are. -/
theorem insert [Std.TransOrd κ] [Std.LawfulEqOrd κ] [DecidableEq κ] (map : SortedMap κ α)
    {key : κ} (value : α) (absent : map.get? key = none) :
    map.Within (map.insert key value) := by
  intro wanted found same
  rw [get?_insert, if_neg]
  · exact same
  · rintro rfl
    rw [absent] at same
    cases same

end Within

end SortedMap

/-- A set of names, listed in ascending order. -/
abbrev NameSet := SortedMap String Unit

namespace NameSet

def add (set : NameSet) (name : String) : NameSet :=
  set.insert name ()

/-- The set of the names of a list. -/
def ofNames (names : List String) : NameSet :=
  SortedMap.ofList (names.map fun name => (name, ()))

/-- A set of names is the set of the names that it lists. -/
theorem ofNames_keys (set : NameSet) : ofNames (SortedMap.keys set) = set := by
  have entries : (SortedMap.keys set).map (fun name => (name, ())) = set.toList := by
    rw [SortedMap.keys, List.map_map]
    exact List.map_id set.toList
  rw [ofNames, entries, SortedMap.ofList_toList]

theorem contains_add (set : NameSet) (name wanted : String) :
    (set.add name).contains wanted = (wanted == name || set.contains wanted) :=
  SortedMap.contains_insert set name wanted ()

theorem contains_erase (set : NameSet) (name wanted : String) :
    (SortedMap.erase set name).contains wanted = (wanted != name && set.contains wanted) := by
  by_cases same : wanted = name <;> simp [SortedMap.contains, SortedMap.get?_erase, same]

end NameSet

end SchemaOverlay
