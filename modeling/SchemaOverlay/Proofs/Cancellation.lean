import Mathlib.Logic.ExistsUnique
import SchemaOverlay.Proofs.Dictionary

/-!
# Canceled reads

A read that is canceled yields what the same read of fewer rows would have
yielded.  It has taken one row more by then: it moves before it asks whether to
go on.  That row is lost to the reads after it, which start where the last one
stopped and remember no null key of an earlier one.  So of all rows that a
series of reads goes past, those are not shown before which a read was canceled
and those whose null key the same read had met before; each other row is shown
once.
-/

namespace SchemaOverlay

/-! ## Fewer rows -/

namespace MemoryRows

variable {results : MemoryRows} {count : Nat}

/-- The same cursor over a result that ends a number of rows further on. -/
def limit (results : MemoryRows) (count : Nat) : MemoryRows :=
  { results with rows := results.rows.take (results.position + count) }

@[simp] theorem position_limit (results : MemoryRows) (count : Nat) :
    (results.limit count).position = results.position := rfl

theorem upcoming_limit : (results.limit count).upcoming = results.upcoming.take count := by
  rw [upcoming, position_limit, limit, List.drop_take, Nat.add_sub_cancel_left]
  rfl

theorem upcoming_forward : (results.forward count).upcoming = results.upcoming.drop count := by
  rw [upcoming, upcoming, List.drop_drop, forward_rows, position_forward]

theorem upcoming_exhausted : results.exhausted.upcoming = [] :=
  List.drop_eq_nil_of_le (Nat.le_succ _)

/-- Whether the row at a position lies between two places of the cursor. -/
def Between (results later : MemoryRows) (index : Nat) : Prop :=
  results.position ≤ index ∧ index < later.position ∧ index < results.rows.length

end MemoryRows

namespace Dictionary

section Take

variable {rows : List (List Value)} {count index : Nat}

theorem nullKeyed_take (early : index < count) :
    NullKeyed (rows.take count) index ↔ NullKeyed rows index := by
  rw [NullKeyed, List.getElem?_take_of_lt early]
  rfl

/-- Whether a row is kept does not depend on the rows behind it. -/
theorem kept_take (early : index < count) : Kept (rows.take count) index ↔ Kept rows index := by
  have earlier_iff : ∀ earlier < index,
      (NullKeyed (rows.take count) earlier ↔ NullKeyed rows earlier) :=
    fun earlier before => nullKeyed_take (Nat.lt_trans before early)
  rw [Kept, Kept, nullKeyed_take early, List.length_take, Nat.lt_min, and_iff_right early]
  exact and_congr_right fun _ => imp_congr_right fun _ =>
    forall₂_congr fun earlier before => not_congr (earlier_iff earlier before)

theorem getD_take (early : index < count) :
    (rows.take count).getD index [] = rows.getD index [] := by
  rw [List.getD_eq_getElem?_getD, List.getElem?_take_of_lt early, List.getD_eq_getElem?_getD]

theorem faulty_take {width : Nat} (early : index < count) :
    Faulty width (rows.take count) index ↔ Faulty width rows index := by
  rw [Faulty, Faulty, kept_take early, getD_take early, List.length_take, Nat.lt_min,
    and_iff_right early]

theorem keptBelow_take : keptBelow (rows.take count) count = keptBelow rows count :=
  List.filter_congr fun index mem => by rw [decide_eq_decide, kept_take (List.mem_range.mp mem)]

theorem keptBelow_mono {fewer more : Nat} (le : fewer ≤ more) :
    keptBelow rows fewer <+: keptBelow rows more := by
  obtain ⟨further, rfl⟩ := Nat.exists_eq_add_of_le le
  rw [keptBelow, keptBelow, List.range_add]
  exact (List.prefix_append _ _).filter _

end Take

end Dictionary

namespace DictionaryReader

open Dictionary

section Canceled

variable {reader : DictionaryReader} {results : MemoryRows} {width polls count : Nat}
  {rows : List (List Value)}

theorem entriesBelow_take :
    reader.entriesBelow width (rows.take count) count = reader.entriesBelow width rows count := by
  rw [entriesBelow, entriesBelow, keptBelow_take]
  exact List.map_congr_left fun index mem => congrArg (reader.entryOf width)
    (getD_take (List.mem_range.mp (List.mem_filter.mp mem).1))

theorem entriesBelow_mono {fewer more : Nat} (le : fewer ≤ more) :
    reader.entriesBelow width rows fewer <+: reader.entriesBelow width rows more :=
  (keptBelow_mono le).map _

theorem sound_of_read {full : List LabeledValue}
    (reads : (reader.read ⟨none, polls⟩ results).dictionary = .ok full) (index : Nat) :
    ¬ Faulty results.columns.length results.upcoming index := by
  intro faulty
  obtain ⟨error, fails⟩ : ∃ error, (reader.read ⟨none, polls⟩ results).dictionary = .error error :=
    read_fails ⟨index, faulty⟩
  cases fails.symm.trans reads

/-- The uncanceled read of the first so many rows. -/
theorem read_limit (sound : ∀ index, ¬ Faulty results.columns.length results.upcoming index)
    (inside : count ≤ results.upcoming.length) :
    (reader.read ⟨none, polls⟩ (results.limit count)).dictionary =
      .ok (reader.entriesBelow results.columns.length results.upcoming count) := by
  have length : (results.limit count).upcoming.length = count := by
    rw [MemoryRows.upcoming_limit, List.length_take, Nat.min_eq_left inside]
  have sound_limit (index : Nat) :
      ¬ Faulty (results.limit count).columns.length (results.limit count).upcoming index := by
    intro faulty
    have early : index < count := length ▸ faulty.1
    rw [MemoryRows.upcoming_limit] at faulty
    exact sound index ((faulty_take early).mp faulty)
  rw [read_of_sound sound_limit, length, MemoryRows.upcoming_limit, entriesBelow_take]
  rfl

/-- A read of sound rows under a monitor that lets it go on a number of times. -/
theorem read_of_allowance (reader : DictionaryReader) (polls allowed : Nat)
    (sound : ∀ index, ¬ Faulty results.columns.length results.upcoming index) :
    (reader.read ⟨some allowed, polls⟩ results).dictionary =
        .ok (reader.entriesBelow results.columns.length results.upcoming
          (min allowed results.upcoming.length)) ∧
      (reader.read ⟨some allowed, polls⟩ results).monitor.polls =
        polls + min (allowed + 1) results.upcoming.length ∧
      (reader.read ⟨some allowed, polls⟩ results).results.upcoming =
        results.upcoming.drop (min (allowed + 1) results.upcoming.length) := by
  have past {count : Nat} (inside : count ≤ results.upcoming.length) (few : count ≤ allowed) :
      GetsPast ⟨some allowed, polls⟩ results count :=
    ⟨inside, fun index _ => sound index, fun index early stops => by cases stops; omega⟩
  by_cases more : allowed < results.upcoming.length
  · rw [read_of_canceled (past (Nat.le_of_lt more) (Nat.le_refl _)) more rfl,
      Nat.min_eq_left (Nat.le_of_lt more), Nat.min_eq_left more]
    exact ⟨rfl, rfl, MemoryRows.upcoming_forward⟩
  · have done : results.upcoming.length ≤ allowed := Nat.le_of_not_lt more
    rw [read_of_done (past (Nat.le_refl _) done), Nat.min_eq_right done,
      Nat.min_eq_right (Nat.le_succ_of_le done), List.drop_length]
    exact ⟨rfl, rfl, MemoryRows.upcoming_exhausted⟩

end Canceled

end DictionaryReader

/-! ## One read of a series -/

/-- A read: who reads, under which monitor and from where on. -/
structure Reading where
  reader : DictionaryReader
  monitor : Monitor
  start : MemoryRows

namespace Reading

open Dictionary

/-- What the read yields. -/
def scan (reading : Reading) : Scan MemoryRows := reading.reader.read reading.monitor reading.start

/-- Whether it yields rows. -/
def Succeeds (reading : Reading) : Prop := ∃ entries, reading.scan.dictionary = .ok entries

/-- Whether it reports that it was canceled. -/
def Canceled (reading : Reading) : Prop :=
  ∃ shown, reading.scan.events = [.canceledScan reading.reader.dataSource shown]

/-- Whether the cursor moves over the row at a position. -/
def Passes (reading : Reading) (index : Nat) : Prop :=
  reading.start.Between reading.scan.results index

/-- Whether it is canceled when it has just moved to the row at a position. -/
def StopsAt (reading : Reading) (index : Nat) : Prop :=
  reading.Canceled ∧ index + 1 = reading.scan.results.position

/-- Whether the row at a position has a null key that the read has met before. -/
def Repeats (reading : Reading) (index : Nat) : Prop :=
  NullKeyed reading.start.rows index ∧
    ∃ earlier, reading.start.position ≤ earlier ∧ earlier < index ∧
      NullKeyed reading.start.rows earlier

/-- How many rows it has left behind before its last step. -/
def passed (reading : Reading) : Nat :=
  reading.scan.results.position - 1 - reading.start.position

/-- The positions of the rows it keeps, of those. -/
def shown (reading : Reading) : List Nat :=
  (keptBelow reading.start.upcoming reading.passed).map (reading.start.position + ·)

section Step

variable {reading : Reading} {index : Nat}

/-- A read ends past the last row or on one of the rows to come. -/
theorem scan_results (reading : Reading) :
    reading.scan.results = reading.start.exhausted ∨
      ∃ count < reading.start.upcoming.length,
        reading.scan.results = reading.start.forward (count + 1) := by
  obtain ⟨count, past, rfl | ⟨more, stops⟩ | ⟨faulty, lets⟩⟩ :=
    DictionaryReader.exists_end reading.monitor reading.start
  · exact .inl (by rw [scan, DictionaryReader.read_of_done past])
  · exact .inr ⟨count, more, by rw [scan, DictionaryReader.read_of_canceled past more stops]⟩
  · exact .inr ⟨count, faulty.1, by rw [scan, DictionaryReader.read_of_faulty past faulty lets]⟩

theorem scan_rows (reading : Reading) : reading.scan.results.rows = reading.start.rows := by
  obtain ends | ⟨count, -, ends⟩ := reading.scan_results <;> rw [ends] <;> rfl

theorem scan_columns (reading : Reading) :
    reading.scan.results.columns = reading.start.columns := by
  obtain ends | ⟨count, -, ends⟩ := reading.scan_results <;> rw [ends] <;> rfl

/-- No read moves the cursor back over a row. -/
theorem lt_cursor (inside : index < reading.start.rows.length)
    (before : index < reading.start.position) : index < reading.scan.results.position := by
  obtain ends | ⟨count, -, ends⟩ := reading.scan_results <;> rw [ends]
  · rw [MemoryRows.position_exhausted]
    omega
  · rw [MemoryRows.position_forward]
    omega

/-- A read that succeeds has left all rows behind, or else it was canceled on the next one. -/
theorem Succeeds.ends (succeeds : reading.Succeeds) :
    reading.scan.dictionary = .ok (reading.reader.entriesBelow reading.start.columns.length
        reading.start.upcoming reading.passed) ∧
      (reading.passed = reading.start.upcoming.length ∧ ¬ reading.Canceled ∧
          reading.scan.results = reading.start.exhausted ∨
        reading.passed < reading.start.upcoming.length ∧ reading.Canceled ∧
          reading.scan.results = reading.start.forward (reading.passed + 1)) ∧
      (reading.Canceled ↔
        ∃ allowed < reading.start.upcoming.length, reading.monitor.allowance = some allowed) := by
  obtain ⟨entries, reads⟩ := succeeds
  obtain ⟨count, past, rfl | ⟨more, stops⟩ | ⟨faulty, lets⟩⟩ :=
    DictionaryReader.exists_end reading.monitor reading.start
  · have ends : reading.scan = _ := DictionaryReader.read_of_done past
    have cursor : reading.scan.results = reading.start.exhausted := congrArg Scan.results ends
    have passed : reading.passed = reading.start.upcoming.length := by
      rw [Reading.passed, cursor, MemoryRows.length_upcoming]
      rfl
    have quiet : ¬ reading.Canceled := fun ⟨_, reported⟩ =>
      nomatch (congrArg Scan.events ends).symm.trans reported
    rw [passed]
    exact ⟨congrArg Scan.dictionary ends, .inl ⟨rfl, quiet, cursor⟩, iff_of_false quiet
      fun ⟨allowed, early, stops⟩ => past.allowed allowed early stops⟩
  · have ends : reading.scan = _ := DictionaryReader.read_of_canceled past more stops
    have cursor : reading.scan.results = reading.start.forward (count + 1) :=
      congrArg Scan.results ends
    have passed : reading.passed = count := by
      rw [Reading.passed, cursor, MemoryRows.position_forward]
      exact Nat.add_sub_cancel_left reading.start.position count
    have canceled : reading.Canceled := ⟨_, congrArg Scan.events ends⟩
    rw [passed]
    exact ⟨congrArg Scan.dictionary ends, .inr ⟨more, canceled, cursor⟩,
      iff_of_true canceled ⟨count, more, stops⟩⟩
  · have ends : reading.scan = _ := DictionaryReader.read_of_faulty past faulty lets
    cases (congrArg Scan.dictionary ends).symm.trans reads

/-- The rows left behind are those gone over, except one at which the read was canceled. -/
theorem Succeeds.lt_passed_iff (succeeds : reading.Succeeds) :
    index < reading.passed ↔ reading.Passes (reading.start.position + index) ∧
      ¬ reading.StopsAt (reading.start.position + index) := by
  have length := reading.start.length_upcoming
  rw [Passes, MemoryRows.Between, StopsAt]
  obtain ⟨-, ⟨all, quiet, cursor⟩ | ⟨more, canceled, cursor⟩, -⟩ := succeeds.ends
  · rw [cursor, all, length, MemoryRows.position_exhausted]
    simp only [quiet, false_and, not_false_eq_true, and_true]
    omega
  · rw [cursor, MemoryRows.position_forward]
    simp only [canceled, true_and]
    omega

theorem nullKeyed_upcoming (results : MemoryRows) (index : Nat) :
    NullKeyed results.upcoming index ↔ NullKeyed results.rows (results.position + index) := by
  rw [NullKeyed, MemoryRows.upcoming, List.getElem?_drop]
  rfl

theorem repeats_iff (reading : Reading) (index : Nat) :
    reading.Repeats (reading.start.position + index) ↔
      NullKeyed reading.start.upcoming index ∧
        ∃ earlier < index, NullKeyed reading.start.upcoming earlier := by
  rw [Repeats, nullKeyed_upcoming]
  refine and_congr_right fun _ => ⟨?_, ?_⟩
  · rintro ⟨earlier, after, before, null⟩
    obtain ⟨offset, rfl⟩ := Nat.exists_eq_add_of_le after
    exact ⟨offset, by omega, (nullKeyed_upcoming _ _).mpr null⟩
  · rintro ⟨offset, before, null⟩
    exact ⟨_, Nat.le_add_right _ _, by omega, (nullKeyed_upcoming _ _).mp null⟩

theorem kept_iff_not_repeats (inside : index < reading.start.upcoming.length) :
    Kept reading.start.upcoming index ↔ ¬ reading.Repeats (reading.start.position + index) := by
  rw [Kept, and_iff_right inside, repeats_iff]
  simp only [not_and, not_exists]

theorem Succeeds.mem_shown_iff (succeeds : reading.Succeeds) :
    index ∈ reading.shown ↔
      reading.Passes index ∧ ¬ (reading.StopsAt index ∨ reading.Repeats index) := by
  have length := reading.start.length_upcoming
  rw [shown, List.mem_map]
  constructor
  · rintro ⟨offset, kept, rfl⟩
    obtain ⟨left, kept⟩ := mem_keptBelow.mp kept
    obtain ⟨passes, goes⟩ := succeeds.lt_passed_iff.mp left
    exact ⟨passes, not_or.mpr ⟨goes, (kept_iff_not_repeats kept.1).mp kept⟩⟩
  · rintro ⟨passes, neither⟩
    obtain ⟨goes, fresh⟩ := not_or.mp neither
    obtain ⟨offset, rfl⟩ := Nat.exists_eq_add_of_le passes.1
    have inside : offset < reading.start.upcoming.length := by
      have := passes.2.2
      omega
    exact ⟨offset, mem_keptBelow.mpr ⟨succeeds.lt_passed_iff.mpr ⟨passes, goes⟩,
      (kept_iff_not_repeats inside).mpr fresh⟩, rfl⟩

theorem Succeeds.dictionary_eq (succeeds : reading.Succeeds) :
    reading.scan.dictionary = .ok (reading.shown.map
      (reading.reader.entryAt reading.start.columns.length reading.start.rows)) := by
  rw [succeeds.ends.1, DictionaryReader.entriesBelow, shown, List.map_map]
  refine congrArg Except.ok (List.map_congr_left fun offset _ => ?_)
  rw [DictionaryReader.entryAt, Function.comp_apply, DictionaryReader.entryAt,
    MemoryRows.upcoming, List.getD_eq_getElem?_getD, List.getElem?_drop,
    List.getD_eq_getElem?_getD]

theorem pairwise_shown (reading : Reading) : reading.shown.Pairwise (· < ·) :=
  (List.pairwise_lt_range.filter _).map _ fun _ _ less => Nat.add_lt_add_left less _

/-- A canceled read stops at one of the rows that it goes over, and only one. -/
theorem Succeeds.existsUnique_stopsAt (succeeds : reading.Succeeds) (canceled : reading.Canceled) :
    ∃! index, reading.Passes index ∧ reading.StopsAt index := by
  obtain ⟨-, ⟨-, quiet, -⟩ | ⟨more, -, cursor⟩, -⟩ := succeeds.ends
  · exact absurd canceled quiet
  · have length := reading.start.length_upcoming
    have stop : reading.scan.results.position = reading.start.position + reading.passed + 1 :=
      congrArg MemoryRows.position cursor
    refine ⟨reading.start.position + reading.passed,
      ⟨⟨Nat.le_add_right _ _, by omega, by omega⟩, canceled, stop.symm⟩, ?_⟩
    rintro index ⟨-, -, last⟩
    omega

/-- A read cannot fail if every row has a key and a value for each column. -/
theorem succeeds_of_whole_rows
    (whole : ∀ row ∈ reading.start.rows, row ≠ [] ∧ reading.start.columns.length ≤ row.length) :
    reading.Succeeds := by
  obtain ⟨count, past, rfl | ⟨more, stops⟩ | ⟨⟨inside, fault⟩, lets⟩⟩ :=
    DictionaryReader.exists_end reading.monitor reading.start
  · exact ⟨_, congrArg Scan.dictionary (DictionaryReader.read_of_done past)⟩
  · exact ⟨_, congrArg Scan.dictionary (DictionaryReader.read_of_canceled past more stops)⟩
  · have mem : reading.start.upcoming.getD count [] ∈ reading.start.rows := by
      rw [getD_of_some (List.getElem?_eq_getElem inside)]
      exact List.mem_of_mem_drop (List.getElem_mem inside)
    obtain ⟨filled, wide⟩ := whole _ mem
    rcases fault with empty | ⟨-, -, short⟩
    · exact absurd (List.length_eq_zero_iff.mp empty) filled
    · omega

end Step

end Reading

/-! ## A series of reads -/

/-- Reads that succeed one after the other, each starting where the last one ended, and where they
lead. -/
inductive Successive : MemoryRows → List Reading → MemoryRows → Prop where
  | nil {results : MemoryRows} : Successive results [] results
  | cons {reading : Reading} {rest : List Reading} {final : MemoryRows} :
      reading.Succeeds → Successive reading.scan.results rest final →
        Successive reading.start (reading :: rest) final

namespace Successive

variable {results final : MemoryRows} {series : List Reading} {reading other : Reading}
  {index : Nat}

theorem same_rows (reads : Successive results series final) (mem : reading ∈ series) :
    reading.start.rows = results.rows ∧ reading.start.columns = results.columns := by
  induction reads with
  | nil => cases mem
  | @cons first rest final succeeds tail ih =>
      obtain rfl | mem := List.mem_cons.mp mem
      · exact ⟨rfl, rfl⟩
      · obtain ⟨rows, columns⟩ := ih mem
        exact ⟨rows.trans first.scan_rows, columns.trans first.scan_columns⟩

theorem succeeds (reads : Successive results series final) (mem : reading ∈ series) :
    reading.Succeeds := by
  induction reads with
  | nil => cases mem
  | cons succeeds tail ih =>
      obtain rfl | mem := List.mem_cons.mp mem
      · exact succeeds
      · exact ih mem

theorem lt_final (reads : Successive results series final) (inside : index < results.rows.length)
    (before : index < results.position) : index < final.position := by
  induction reads with
  | nil => exact before
  | @cons first rest final succeeds tail ih =>
      exact ih (first.scan_rows ▸ inside) (Reading.lt_cursor inside before)

/-- The rows that a series consumes are those that one of its reads goes over. -/
theorem between_iff (reads : Successive results series final) :
    results.Between final index ↔ ∃ reading ∈ series, reading.Passes index := by
  induction reads with
  | nil =>
      constructor
      · rintro ⟨after, before, -⟩
        omega
      · rintro ⟨_, mem, -⟩
        cases mem
  | @cons first rest final succeeds tail ih =>
      simp only [List.mem_cons, exists_eq_or_imp, ← ih]
      constructor
      · rintro ⟨after, before, inside⟩
        by_cases early : index < first.scan.results.position
        · exact .inl ⟨after, early, inside⟩
        · exact .inr ⟨Nat.le_of_not_lt early, before, first.scan_rows ▸ inside⟩
      · rintro (⟨after, early, inside⟩ | ⟨late, before, inside⟩)
        · exact ⟨after, tail.lt_final (first.scan_rows ▸ inside) early, inside⟩
        · rw [first.scan_rows] at inside
          exact ⟨Nat.le_of_not_lt fun early => by have := Reading.lt_cursor inside early; omega,
            before, inside⟩

/-- A row is gone over by one read only. -/
theorem eq_of_passes (reads : Successive results series final) (mem : reading ∈ series)
    (otherMem : other ∈ series) (passes : reading.Passes index) (otherPasses : other.Passes index) :
    reading = other := by
  induction reads with
  | nil => cases mem
  | @cons first rest final succeeds tail ih =>
      -- What a later read goes over lies behind the place where the first one ended.
      have apart {later : Reading} (mem : later ∈ rest) (passes : later.Passes index) :
          ¬ first.Passes index := fun early => by
        have := (tail.between_iff.mpr ⟨later, mem, passes⟩).1
        have := early.2.1
        omega
      obtain rfl | behind := List.mem_cons.mp mem <;>
        obtain rfl | otherBehind := List.mem_cons.mp otherMem
      · rfl
      · exact absurd passes (apart otherBehind otherPasses)
      · exact absurd otherPasses (apart behind passes)
      · exact ih behind otherBehind

theorem pairwise_shown (reads : Successive results series final) :
    (series.flatMap Reading.shown).Pairwise (· < ·) := by
  induction reads with
  | nil => exact List.Pairwise.nil
  | @cons first rest final succeeds tail ih =>
      rw [List.flatMap_cons, List.pairwise_append]
      refine ⟨first.pairwise_shown, ih, fun index mem later laterMem => ?_⟩
      obtain ⟨reading, among, laterMem⟩ := List.mem_flatMap.mp laterMem
      have early := (succeeds.mem_shown_iff.mp mem).1.2.1
      have passes := ((tail.succeeds among).mem_shown_iff.mp laterMem).1
      exact Nat.lt_of_lt_of_le early (tail.between_iff.mpr ⟨reading, among, passes⟩).1

/-- A row that is gone over is not shown exactly if its read stops at it or repeats a null key. -/
theorem not_mem_shown_iff (reads : Successive results series final)
    (consumed : results.Between final index) :
    index ∉ series.flatMap Reading.shown ↔
      ∃ reading ∈ series, reading.Passes index ∧
        (reading.StopsAt index ∨ reading.Repeats index) := by
  constructor
  · intro missing
    obtain ⟨reading, mem, passes⟩ := reads.between_iff.mp consumed
    refine ⟨reading, mem, passes, by_contra fun neither => missing ?_⟩
    exact List.mem_flatMap.mpr
      ⟨reading, mem, (reads.succeeds mem).mem_shown_iff.mpr ⟨passes, neither⟩⟩
  · rintro ⟨reading, mem, passes, lost⟩ shown
    obtain ⟨other, otherMem, shown⟩ := List.mem_flatMap.mp shown
    obtain ⟨otherPasses, neither⟩ := (reads.succeeds otherMem).mem_shown_iff.mp shown
    obtain rfl := reads.eq_of_passes mem otherMem passes otherPasses
    exact neither lost

end Successive

/-- What becomes of the rows that a series of reads consumes: the positions that each read shows,
and the rows that none does. -/
structure Account (results : MemoryRows) (series : List Reading) (final : MemoryRows)
    (shown : Reading → List Nat) : Prop where
  /-- Each read yields the entries of the rows it shows. -/
  outputs : ∀ reading ∈ series, reading.scan.dictionary = .ok ((shown reading).map
    (reading.reader.entryAt results.columns.length results.rows))
  passes : ∀ reading ∈ series, ∀ index ∈ shown reading, reading.Passes index
  /-- No row is shown twice, and the rows are shown in their order. -/
  increasing : (series.flatMap shown).Pairwise (· < ·)
  consumed : ∀ index, results.Between final index ↔ ∃ reading ∈ series, reading.Passes index
  unshown : ∀ index, results.Between final index →
    (index ∉ series.flatMap shown ↔ ∃ reading ∈ series, reading.Passes index ∧
      (reading.StopsAt index ∨ reading.Repeats index))
  /-- A read is canceled if its monitor lets it go on for fewer rows than there are. -/
  canceled : ∀ reading ∈ series, (reading.Canceled ↔
    ∃ allowed < reading.start.upcoming.length, reading.monitor.allowance = some allowed)
  /-- It then stops at exactly one row. -/
  stops : ∀ reading ∈ series, reading.Canceled →
    ∃! index, reading.Passes index ∧ reading.StopsAt index

theorem Successive.account {results final : MemoryRows} {series : List Reading}
    (reads : Successive results series final) : Account results series final Reading.shown where
  outputs reading mem := by
    obtain ⟨rows, columns⟩ := reads.same_rows mem
    rw [← rows, ← columns]
    exact (reads.succeeds mem).dictionary_eq
  passes _ mem _ shown := ((reads.succeeds mem).mem_shown_iff.mp shown).1
  increasing := reads.pairwise_shown
  consumed _ := reads.between_iff
  unshown _ := reads.not_mem_shown_iff
  canceled _ mem := (reads.succeeds mem).ends.2.2
  stops _ mem := (reads.succeeds mem).existsUnique_stopsAt

/-- A canceled read yields a prefix of the whole one, namely the read of the rows before the one
it was canceled on; and a series of reads accounts for every row it consumes. -/
theorem DictionaryReader.canceled_reads (results : MemoryRows) :
    (∀ (reader : DictionaryReader) (polls allowed : Nat) (full : List LabeledValue),
      (reader.read ⟨none, polls⟩ results).dictionary = .ok full →
        ∃ part, (reader.read ⟨some allowed, polls⟩ results).dictionary = .ok part ∧
          part <+: full ∧
          (reader.read ⟨none, polls⟩
            (results.limit (min allowed results.upcoming.length))).dictionary = .ok part ∧
          (reader.read ⟨some allowed, polls⟩ results).monitor.polls =
            polls + min (allowed + 1) results.upcoming.length ∧
          (reader.read ⟨some allowed, polls⟩ results).results.upcoming =
            results.upcoming.drop (min (allowed + 1) results.upcoming.length)) ∧
    (∀ (series : List Reading) (final : MemoryRows), Successive results series final →
      ∃ shown : Reading → List Nat, Account results series final shown) := by
  refine ⟨fun reader polls allowed full reads => ?_, fun series final reads =>
    ⟨Reading.shown, reads.account⟩⟩
  have sound := sound_of_read reads
  obtain ⟨output, asked, cursor⟩ := read_of_allowance reader polls allowed sound
  have whole : full = reader.entriesBelow results.columns.length results.upcoming
      results.upcoming.length :=
    Except.ok.inj (reads.symm.trans (congrArg Scan.dictionary (read_of_sound sound)))
  refine ⟨_, output, ?_, read_limit sound (Nat.min_le_right _ _), asked, cursor⟩
  rw [whole]
  exact entriesBelow_mono (Nat.min_le_right _ _)

/-! ## Two reads of one result -/

namespace Tickets

def reader : DictionaryReader := ⟨"main", ", ", ⟨"(none)"⟩, ⟨"(none)"⟩⟩

def tickets : MemoryRows :=
  .start [⟨"owner", "text", none, 0, true⟩]
    [[.null], [.string "ann"], [.null], [.null], [.string "bob"]]

/-- A read that is canceled on the second row. -/
def first : Reading := ⟨reader, .after 1, tickets⟩

/-- A read of what is left. -/
def second : Reading := ⟨reader, .never, first.scan.results⟩

/-- The first read asks twice, and the two reads account for the five rows. -/
theorem canceled_reads_tickets :
    first.scan.monitor.polls = 2 ∧
      ∃ shown, Account tickets [first, second] second.scan.results shown := by
  obtain ⟨canceled, series⟩ := DictionaryReader.canceled_reads tickets
  have rows : second.start.rows = tickets.rows := first.scan_rows
  have columns : second.start.columns = tickets.columns := first.scan_columns
  have whole : ∀ row ∈ tickets.rows, row ≠ [] ∧ tickets.columns.length ≤ row.length := by decide
  have succeeds : first.Succeeds := Reading.succeeds_of_whole_rows whole
  have follows : second.Succeeds :=
    Reading.succeeds_of_whole_rows (by rw [rows, columns]; exact whole)
  obtain ⟨full, reads⟩ : Reading.Succeeds ⟨reader, .never, tickets⟩ :=
    Reading.succeeds_of_whole_rows whole
  obtain ⟨part, -, -, -, asked, -⟩ := canceled reader 0 1 full reads
  exact ⟨asked, series _ _ (.cons succeeds (.cons follows .nil))⟩

end Tickets

end SchemaOverlay
