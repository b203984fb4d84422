import Mathlib.Data.Nat.Find
import SchemaOverlay.Overlay.Description

/-!
# Dictionaries of rows

Which rows a dictionary shows, and at which row a read fails, said row by row
and without the loop.  Of the rows to come a read keeps those whose key is not
null and the first one whose key is.  It fails at the first row that has no key
at all, or that is kept and lacks a value its label is made of.  The loop goes
through the rows one step at a time, and after any number of steps it has made
the entries of the rows kept so far.
-/

namespace SchemaOverlay

/-! ## The cursor -/

namespace MemoryRows

variable {results : MemoryRows} {count : Nat}

/-- The rows behind the current one. -/
def upcoming (results : MemoryRows) : List (List Value) := results.rows.drop results.position

/-- The cursor a number of rows further on. -/
def forward (results : MemoryRows) : Nat → MemoryRows
  | 0 => results
  | count + 1 => { results with cursor := some (results.position + count) }

/-- The cursor past the last row. -/
def exhausted (results : MemoryRows) : MemoryRows :=
  { results with cursor := some results.rows.length }

/-- Why a column of the current row has no value. -/
def missing (results : MemoryRows) (index : Nat) : SourceError :=
  .valueFetch (results.columnLabel index) "column index out of range"

theorem length_upcoming (results : MemoryRows) :
    results.upcoming.length = results.rows.length - results.position := List.length_drop

@[simp] theorem forward_rows (results : MemoryRows) (count : Nat) :
    (results.forward count).rows = results.rows := by cases count <;> rfl

@[simp] theorem position_forward (results : MemoryRows) (count : Nat) :
    (results.forward count).position = results.position + count := by cases count <;> rfl

@[simp] theorem position_exhausted (results : MemoryRows) :
    results.exhausted.position = results.rows.length + 1 := rfl

theorem hasNext_forward :
    (results.forward count).hasNext = decide (count < results.upcoming.length) := by
  rw [Bool.eq_iff_iff, hasNext, decide_eq_true_iff, decide_eq_true_iff, length_upcoming,
    position_forward, forward_rows]
  omega

theorem advance_forward (more : count < results.upcoming.length) :
    (results.forward count).advance = results.forward (count + 1) := by
  rw [advance, hasNext_forward, decide_eq_true more, if_pos rfl, position_forward]
  cases count <;> rfl

theorem advance_forward_of_done (done : results.upcoming.length ≤ count) :
    (results.forward count).advance = results.exhausted := by
  rw [advance, hasNext_forward, decide_eq_false (Nat.not_lt.mpr done), if_neg Bool.false_ne_true,
    forward_rows]
  cases count <;> rfl

/-- After a step the cursor stands on the next of the rows to come. -/
theorem current?_forward : (results.forward (count + 1)).current? = results.upcoming[count]? := by
  rw [upcoming, List.getElem?_drop]
  rfl

theorem value_of_current? {row : List Value} (here : results.current? = some row)
    (index : Nat) :
    results.value index =
      match row[index]? with
      | some value => .ok value
      | none => .error (results.missing index) := by
  rw [value, here]
  rfl

theorem value_forward {row : List Value} (here : results.upcoming[count]? = some row)
    (index : Nat) :
    (results.forward (count + 1)).value index =
      match row[index]? with
      | some value => .ok value
      | none => .error (results.missing index) :=
  value_of_current? (current?_forward.trans here) index

end MemoryRows

/-! ## The monitor -/

namespace Monitor

variable {monitor : Monitor} {count : Nat}

/-- The monitor after a number of questions. -/
def polledTimes (monitor : Monitor) (count : Nat) : Monitor :=
  ⟨monitor.allowance.map (· - count), monitor.polls + count⟩

theorem polledTimes_zero : monitor.polledTimes 0 = monitor := by
  obtain ⟨allowance, polls⟩ := monitor
  cases allowance <;> rfl

theorem polled_polledTimes :
    (monitor.polledTimes count).polled = monitor.polledTimes (count + 1) := by
  obtain ⟨allowance, polls⟩ := monitor
  cases allowance <;> rfl

theorem isCanceled_polledTimes :
    (monitor.polledTimes count).isCanceled = true ↔
      ∃ allowed ≤ count, monitor.allowance = some allowed := by
  obtain ⟨allowance, polls⟩ := monitor
  cases allowance <;> simp [isCanceled, polledTimes, Nat.sub_eq_zero_iff_le]

end Monitor

/-! ## Kept rows and faulty rows -/

namespace Dictionary

/-- Whether the row at a position has a null key. -/
def NullKeyed (rows : List (List Value)) (index : Nat) : Prop :=
  rows[index]?.bind (·.head?) = some .null

/-- A row is kept unless its key is null and that of an earlier row was null too. -/
def Kept (rows : List (List Value)) (index : Nat) : Prop :=
  index < rows.length ∧ (NullKeyed rows index → ∀ earlier < index, ¬ NullKeyed rows earlier)

/-- Whether a row has no key, or is kept and has fewer values than there are columns, of which
there are at least two. -/
def Faulty (width : Nat) (rows : List (List Value)) (index : Nat) : Prop :=
  index < rows.length ∧
    ((rows.getD index []).length = 0 ∨
      Kept rows index ∧ 2 ≤ width ∧ (rows.getD index []).length < width)

instance {rows : List (List Value)} {index : Nat} : Decidable (NullKeyed rows index) :=
  inferInstanceAs (Decidable (_ = _))

instance {rows : List (List Value)} {index : Nat} : Decidable (Kept rows index) :=
  inferInstanceAs (Decidable (_ ∧ _))

instance {width : Nat} {rows : List (List Value)} {index : Nat} :
    Decidable (Faulty width rows index) := inferInstanceAs (Decidable (_ ∧ _))

section Keys

variable {rows : List (List Value)} {index : Nat} {row : List Value} {key : Value}
  {rest : List Value}

theorem getD_of_some (here : rows[index]? = some row) : rows.getD index [] = row := by
  rw [List.getD_eq_getElem?_getD, here, Option.getD_some]

theorem nullKeyed_iff (here : rows[index]? = some (key :: rest)) :
    NullKeyed rows index ↔ key.isNull = true := by
  rw [NullKeyed, here, Value.isNull_iff]
  exact Option.some_inj

/-- A row with a key is kept exactly if its key is no repeated null. -/
theorem kept_iff (here : rows[index]? = some (key :: rest)) :
    Kept rows index ↔
      (key.isNull && (List.range index).any fun earlier => NullKeyed rows earlier) = false := by
  have inside : index < rows.length := (List.getElem?_eq_some_iff.mp here).1
  rw [Kept, nullKeyed_iff here, and_iff_right inside]
  cases key.isNull <;> simp

end Keys

/-- The positions of the rows that are kept, of a number of rows in front. -/
def keptBelow (rows : List (List Value)) (count : Nat) : List Nat :=
  (List.range count).filter fun index => Kept rows index

theorem mem_keptBelow {rows : List (List Value)} {count index : Nat} :
    index ∈ keptBelow rows count ↔ index < count ∧ Kept rows index := by
  rw [keptBelow, List.mem_filter, List.mem_range, decide_eq_true_iff]

end Dictionary

namespace DictionaryReader

open Dictionary

/-- The entry of a row that has all its values. -/
def entryOf (reader : DictionaryReader) (width : Nat) (row : List Value) : LabeledValue where
  label :=
    if width ≤ 1 then reader.keyHandler.display .native (row.headD .null)
    else reader.separator.intercalate
      (((row.take width).drop 1).map (reader.handler.display .native))
  value := row.headD .null

/-- The entry of the row at a position. -/
def entryAt (reader : DictionaryReader) (width : Nat) (rows : List (List Value)) (index : Nat) :
    LabeledValue := reader.entryOf width (rows.getD index [])

/-- The entries of the rows that are kept, of a number of rows in front. -/
def entriesBelow (reader : DictionaryReader) (width : Nat) (rows : List (List Value))
    (count : Nat) : List LabeledValue := (keptBelow rows count).map (reader.entryAt width rows)

/-! ## One row -/

section Row

variable {reader : DictionaryReader} {results : MemoryRows} {count : Nat} {row : List Value}

theorem describe_forward (here : results.upcoming[count]? = some row) (index : Nat) :
    reader.describe (results.forward (count + 1)) index =
      match row[index]? with
      | some value => .ok (reader.handler.display .native value)
      | none => .error (results.missing index) := by
  rw [describe]
  change (results.forward (count + 1)).value index >>= _ = _
  rw [MemoryRows.value_forward here]
  cases row[index]? <;> rfl

/-- Columns are described up to the first one for which the row has no value. -/
theorem mapM_describe (here : results.upcoming[count]? = some row) {first columns : Nat}
    (reached : first ≤ row.length) :
    (List.range' first columns).mapM (reader.describe (results.forward (count + 1))) =
      if first + columns ≤ row.length then
        .ok (((row.drop first).take columns).map (reader.handler.display .native))
      else .error (results.missing row.length) := by
  -- The first column to describe moves along, so it stays quantified over.
  induction columns generalizing first with
  | zero =>
      rw [if_pos (by omega)]
      simp [pure, Except.pure]
  | succ columns ih =>
      rw [List.range'_succ, List.mapM_cons, describe_forward here]
      by_cases inside : first < row.length
      · rw [List.getElem?_eq_getElem inside, ih inside]
        by_cases wide : first + 1 + columns ≤ row.length
        · rw [if_pos wide, if_pos (by omega), List.drop_eq_getElem_cons inside]
          rfl
        · rw [if_neg wide, if_neg (by omega)]
          rfl
      · have last : first = row.length := by omega
        rw [if_neg (by omega), List.getElem?_eq_none (by omega), last]
        rfl

/-- A row that has its key and the values of its label yields its label. -/
theorem label_forward {key : Value} {rest : List Value} {width : Nat}
    (here : results.upcoming[count]? = some (key :: rest)) :
    reader.label width (results.forward (count + 1)) key =
      if 2 ≤ width ∧ (key :: rest).length < width then
        .error (results.missing (key :: rest).length)
      else .ok (reader.entryOf width (key :: rest)).label := by
  rw [label, entryOf]
  by_cases narrow : width ≤ 1
  · rw [if_pos narrow, if_neg (by omega), if_pos narrow]
    rfl
  · rw [if_neg narrow, mapM_describe here (by simp), if_neg narrow]
    by_cases short : (key :: rest).length < width
    · rw [if_neg (by omega), if_pos ⟨by omega, short⟩]
      rfl
    · rw [if_pos (by omega), if_neg (by omega), List.drop_take]
      rfl

theorem entry?_of_no_key {width : Nat} {seenNull : Bool}
    (here : results.upcoming[count]? = some []) :
    reader.entry? width seenNull (results.forward (count + 1)) = .error (results.missing 0) := by
  unfold entry?
  change (results.forward (count + 1)).value 0 >>= _ = _
  rw [MemoryRows.value_forward here]
  rfl

/-- A row with a key makes no entry when its key is a repeated null, and is read up to the first
missing value of its label otherwise. -/
theorem entry?_of_key {key : Value} {rest : List Value} {width : Nat} {seenNull : Bool}
    (here : results.upcoming[count]? = some (key :: rest)) :
    reader.entry? width seenNull (results.forward (count + 1)) =
      if key.isNull && seenNull then .ok none
      else if 2 ≤ width ∧ (key :: rest).length < width then
        .error (results.missing (key :: rest).length)
      else .ok (some (reader.entryOf width (key :: rest))) := by
  unfold entry?
  change (results.forward (count + 1)).value 0 >>= _ = _
  rw [MemoryRows.value_forward here]
  change (if key.isNull && seenNull then _ else _) = _
  split
  · rfl
  · rw [label_forward here]
    split <;> rfl

end Row

/-! ## The loop -/

section Loop

variable {reader : DictionaryReader} {results : MemoryRows} {monitor : Monitor} {columns : Nat}
  {taken : List LabeledValue} {seenNull : Bool}

theorem scan_of_done (done : results.hasNext = false) :
    reader.scan columns taken seenNull monitor results =
      ⟨.ok taken.reverse, results.advance, monitor, []⟩ := by
  have step : ResultSet.next results = (.ok false, results.advance) :=
    congrArg (fun more => (Except.ok more, results.advance)) done
  rw [scan]
  split <;> rename_i there <;> rw [step] at there <;> cases there
  rfl

/-- What the loop does with one more row. -/
theorem scan_of_row (more : results.hasNext = true) :
    reader.scan columns taken seenNull monitor results =
      if monitor.isCanceled then
        ⟨.ok taken.reverse, results.advance, monitor.polled,
          [.canceledScan reader.dataSource taken.length]⟩
      else
        match reader.entry? columns seenNull results.advance with
        | .error error => ⟨.error error, results.advance, monitor.polled, []⟩
        | .ok none => reader.scan columns taken seenNull monitor.polled results.advance
        | .ok (some entry) =>
          reader.scan columns (entry :: taken) (seenNull || entry.value.isNull) monitor.polled
            results.advance := by
  have step : ResultSet.next results = (.ok true, results.advance) :=
    congrArg (fun more => (Except.ok more, results.advance)) more
  rw [scan]
  split <;> rename_i there <;> rw [step] at there <;> cases there
  rfl

end Loop

/-! ## Any number of rows -/

section Resume

variable {reader : DictionaryReader} {results : MemoryRows} {monitor : Monitor} {count : Nat}

/-- A read after a number of rows of which none was faulty. -/
def resume (reader : DictionaryReader) (results : MemoryRows) (count : Nat) (monitor : Monitor) :
    Scan MemoryRows :=
  reader.scan results.columns.length
    (reader.entriesBelow results.columns.length results.upcoming count).reverse
    ((List.range count).any fun earlier => NullKeyed results.upcoming earlier) monitor
    (results.forward count)

theorem read_eq_resume : reader.read monitor results = reader.resume results 0 monitor := rfl

theorem entriesBelow_succ {width : Nat} {rows : List (List Value)} :
    reader.entriesBelow width rows (count + 1) =
      reader.entriesBelow width rows count ++
        if Kept rows count then [reader.entryAt width rows count] else [] := by
  rw [entriesBelow, keptBelow, List.range_succ, List.filter_append, List.map_append]
  by_cases kept : Kept rows count <;> simp [kept, entriesBelow, keptBelow]

theorem resume_of_done (done : results.upcoming.length = count) :
    reader.resume results count monitor =
      ⟨.ok (reader.entriesBelow results.columns.length results.upcoming count), results.exhausted,
        monitor, []⟩ := by
  rw [resume, scan_of_done, List.reverse_reverse,
    MemoryRows.advance_forward_of_done (Nat.le_of_eq done)]
  rw [MemoryRows.hasNext_forward, decide_eq_false_iff_not]
  omega

theorem resume_of_canceled (more : count < results.upcoming.length)
    (canceled : monitor.isCanceled = true) :
    reader.resume results count monitor =
      ⟨.ok (reader.entriesBelow results.columns.length results.upcoming count),
        results.forward (count + 1), monitor.polled,
        [.canceledScan reader.dataSource
          (reader.entriesBelow results.columns.length results.upcoming count).length]⟩ := by
  rw [resume, scan_of_row (by simpa [MemoryRows.hasNext_forward] using more), if_pos canceled,
    List.reverse_reverse, List.length_reverse, MemoryRows.advance_forward more]

theorem resume_of_faulty (faulty : Faulty results.columns.length results.upcoming count)
    (lets : monitor.isCanceled = false) :
    reader.resume results count monitor =
      ⟨.error (results.missing (results.upcoming.getD count []).length),
        results.forward (count + 1), monitor.polled, []⟩ := by
  obtain ⟨more, fault⟩ := faulty
  have here := List.getElem?_eq_getElem more
  rw [getD_of_some here] at fault ⊢
  rw [resume, scan_of_row (by simpa [MemoryRows.hasNext_forward] using more), lets,
    if_neg Bool.false_ne_true, MemoryRows.advance_forward more]
  cases row : results.upcoming[count] with
  | nil =>
      rw [row] at here
      rw [entry?_of_no_key here]
      rfl
  | cons key rest =>
      rw [row] at here fault
      rcases fault with empty | ⟨kept, wide, short⟩
      · cases empty
      · rw [entry?_of_key here, (kept_iff here).mp kept, if_neg Bool.false_ne_true,
          if_pos ⟨wide, short⟩]

/-- One more row that is not faulty. -/
theorem resume_succ (more : count < results.upcoming.length)
    (sound : ¬ Faulty results.columns.length results.upcoming count)
    (lets : monitor.isCanceled = false) :
    reader.resume results count monitor = reader.resume results (count + 1) monitor.polled := by
  have here := List.getElem?_eq_getElem more
  rw [Faulty, and_iff_right more, getD_of_some here] at sound
  rw [resume, scan_of_row (by simpa [MemoryRows.hasNext_forward] using more), lets,
    if_neg Bool.false_ne_true, MemoryRows.advance_forward more]
  cases row : results.upcoming[count] with
  | nil =>
      rw [row] at sound
      exact absurd (.inl rfl) sound
  | cons key rest =>
      rw [row] at here sound
      have entry : reader.entryAt results.columns.length results.upcoming count =
          reader.entryOf results.columns.length (key :: rest) :=
        congrArg (reader.entryOf _) (getD_of_some here)
      have seen : decide (NullKeyed results.upcoming count) = key.isNull := by
        rw [Bool.eq_iff_iff, decide_eq_true_iff, nullKeyed_iff here]
      rw [entry?_of_key here, resume, entriesBelow_succ, List.range_succ, List.any_append,
        List.any_cons, List.any_nil, Bool.or_false, seen]
      by_cases kept : Kept results.upcoming count
      -- A row that is kept has all its values, for otherwise it would be faulty.
      · have whole : ¬ (2 ≤ results.columns.length ∧
            (key :: rest).length < results.columns.length) :=
          fun short => sound (.inr ⟨kept, short⟩)
        rw [(kept_iff here).mp kept, if_neg Bool.false_ne_true, if_neg whole, if_pos kept, entry,
          List.reverse_append]
        rfl
      -- A row that is not kept has a null key after another one: its label is not even read, so
      -- that it may be short.
      · have repeated := eq_true_of_ne_false (mt (kept_iff here).mpr kept)
        rw [repeated, if_pos rfl, if_neg kept, List.append_nil,
          (Bool.and_eq_true_iff.mp repeated).2, Bool.true_or]

end Resume

/-! ## The end of a read -/

section End

variable {reader : DictionaryReader} {results : MemoryRows} {monitor : Monitor} {count : Nat}

/-- A read gets past a number of rows if none of them is faulty and the monitor lets it go on
before each. -/
structure GetsPast (monitor : Monitor) (results : MemoryRows) (count : Nat) : Prop where
  inside : count ≤ results.upcoming.length
  sound : ∀ index < count, ¬ Faulty results.columns.length results.upcoming index
  allowed : ∀ index < count, monitor.allowance ≠ some index

theorem GetsPast.isCanceled_polledTimes (past : GetsPast monitor results count) :
    (monitor.polledTimes count).isCanceled = true ↔ monitor.allowance = some count := by
  rw [Monitor.isCanceled_polledTimes]
  refine ⟨fun ⟨allowed, early, gives⟩ => ?_, fun gives => ⟨count, Nat.le_refl _, gives⟩⟩
  obtain before | rfl := Nat.lt_or_eq_of_le early
  · exact absurd gives (past.allowed allowed before)
  · exact gives

theorem read_of_getsPast (past : GetsPast monitor results count) :
    reader.read monitor results = reader.resume results count (monitor.polledTimes count) := by
  induction count with
  | zero => rw [read_eq_resume, Monitor.polledTimes_zero]
  | succ count ih =>
      have before : GetsPast monitor results count :=
        ⟨Nat.le_of_succ_le past.inside, fun index early => past.sound index (by omega),
          fun index early => past.allowed index (by omega)⟩
      have lets : (monitor.polledTimes count).isCanceled = false :=
        Bool.eq_false_iff.mpr
          (mt before.isCanceled_polledTimes.mp (past.allowed count (Nat.lt_succ_self count)))
      rw [ih before, resume_succ past.inside (past.sound count (Nat.lt_succ_self count)) lets,
        Monitor.polled_polledTimes]

theorem read_of_done (past : GetsPast monitor results results.upcoming.length) :
    reader.read monitor results =
      ⟨.ok (reader.entriesBelow results.columns.length results.upcoming results.upcoming.length),
        results.exhausted, monitor.polledTimes results.upcoming.length, []⟩ := by
  rw [read_of_getsPast past, resume_of_done rfl]

theorem read_of_canceled (past : GetsPast monitor results count)
    (more : count < results.upcoming.length) (stops : monitor.allowance = some count) :
    reader.read monitor results =
      ⟨.ok (reader.entriesBelow results.columns.length results.upcoming count),
        results.forward (count + 1), monitor.polledTimes (count + 1),
        [.canceledScan reader.dataSource
          (reader.entriesBelow results.columns.length results.upcoming count).length]⟩ := by
  rw [read_of_getsPast past, resume_of_canceled more (past.isCanceled_polledTimes.mpr stops),
    Monitor.polled_polledTimes]

theorem read_of_faulty (past : GetsPast monitor results count)
    (faulty : Faulty results.columns.length results.upcoming count)
    (lets : monitor.allowance ≠ some count) :
    reader.read monitor results =
      ⟨.error (results.missing (results.upcoming.getD count []).length),
        results.forward (count + 1), monitor.polledTimes (count + 1), []⟩ := by
  rw [read_of_getsPast past,
    resume_of_faulty faulty (Bool.eq_false_iff.mpr (mt past.isCanceled_polledTimes.mp lets)),
    Monitor.polled_polledTimes]

/-- Every read ends past the last row, at a row before which it is canceled, or at a faulty row. -/
theorem exists_end (monitor : Monitor) (results : MemoryRows) :
    ∃ count, GetsPast monitor results count ∧
      (count = results.upcoming.length ∨
        count < results.upcoming.length ∧ monitor.allowance = some count ∨
        Faulty results.columns.length results.upcoming count ∧ monitor.allowance ≠ some count) := by
  let Ends (count : Nat) : Prop := count = results.upcoming.length ∨
    monitor.allowance = some count ∨ Faulty results.columns.length results.upcoming count
  obtain ⟨count, ends, first⟩ := Nat.findX (p := Ends) ⟨results.upcoming.length, .inl rfl⟩
  have inside : count ≤ results.upcoming.length :=
    Nat.le_of_not_lt fun beyond => first _ beyond (.inl rfl)
  refine ⟨count, ⟨inside, fun index early => ?_, fun index early => ?_⟩, ?_⟩
  · exact fun faulty => first index early (.inr (.inr faulty))
  · exact fun stops => first index early (.inr (.inl stops))
  · by_cases done : count = results.upcoming.length
    · exact .inl done
    · by_cases stops : monitor.allowance = some count
      · exact .inr (.inl ⟨by omega, stops⟩)
      · exact .inr (.inr ⟨(ends.resolve_left done).resolve_left stops, stops⟩)

end End

/-! ## Reads that are not canceled -/

section Whole

variable {reader : DictionaryReader} {results : MemoryRows} {polls index : Nat}

theorem read_of_sound
    (sound : ∀ index, ¬ Faulty results.columns.length results.upcoming index) :
    reader.read ⟨none, polls⟩ results =
      ⟨.ok (reader.entriesBelow results.columns.length results.upcoming results.upcoming.length),
        results.exhausted, ⟨none, polls + results.upcoming.length⟩, []⟩ :=
  read_of_done ⟨Nat.le_refl _, fun index _ => sound index, fun _ _ => nofun⟩

theorem read_of_first_faulty
    (faulty : Faulty results.columns.length results.upcoming index)
    (first : ∀ earlier < index, ¬ Faulty results.columns.length results.upcoming earlier) :
    reader.read ⟨none, polls⟩ results =
      ⟨.error (results.missing (results.upcoming.getD index []).length),
        results.forward (index + 1), ⟨none, polls + (index + 1)⟩, []⟩ :=
  read_of_faulty ⟨Nat.le_of_lt faulty.1, first, fun _ _ => nofun⟩ faulty nofun

/-- The value that a faulty row lacks first belongs to a column, unless there are none. -/
theorem missing_of_faulty (faulty : Faulty results.columns.length results.upcoming index) :
    results.missing (results.upcoming.getD index []).length =
      .valueFetch
        (results.columns[(results.upcoming.getD index []).length]?.elim "#0" (·.name))
        "column index out of range" := by
  rw [MemoryRows.missing, MemoryRows.columnLabel]
  rcases faulty.2 with empty | ⟨-, -, short⟩
  · rw [empty]
    cases results.columns[0]? <;> rfl
  · rw [List.getElem?_eq_getElem short]
    rfl

theorem read_fails
    (exists_faulty : ∃ index, Faulty results.columns.length results.upcoming index) :
    ∃ error, (reader.read ⟨none, polls⟩ results).dictionary = .error error := by
  obtain ⟨index, faulty, first⟩ := Nat.findX exists_faulty
  exact ⟨_, by rw [read_of_first_faulty faulty first]; rfl⟩

end Whole

/-- An uncanceled read fails exactly if a row is faulty, at the first such row and for the first
value that is missing there; otherwise it yields the entries of the kept rows. -/
theorem dictionary_read (reader : DictionaryReader) (polls : Nat) (results : MemoryRows) :
    ((∃ error, (reader.read ⟨none, polls⟩ results).dictionary = .error error) ↔
      ∃ index, Faulty results.columns.length results.upcoming index) ∧
    (∀ index, Faulty results.columns.length results.upcoming index →
      (∀ earlier < index, ¬ Faulty results.columns.length results.upcoming earlier) →
      (reader.read ⟨none, polls⟩ results).dictionary =
          .error (.dataAccess (.valueFetch
            (results.columns[(results.upcoming.getD index []).length]?.elim "#0" (·.name))
            "column index out of range")) ∧
        (reader.read ⟨none, polls⟩ results).results = results.forward (index + 1)) ∧
    ((∀ index, ¬ Faulty results.columns.length results.upcoming index) →
      (reader.read ⟨none, polls⟩ results).dictionary =
          .ok (((List.range results.upcoming.length).filter (Kept results.upcoming ·)).map
            (reader.entryAt results.columns.length results.upcoming)) ∧
        (reader.read ⟨none, polls⟩ results).results = results.exhausted) := by
  refine ⟨⟨fun ⟨error, fails⟩ => ?_, read_fails⟩, fun index faulty first => ?_, fun sound => ?_⟩
  · by_contra none_faulty
    rw [read_of_sound (not_exists.mp none_faulty)] at fails
    cases fails
  · rw [read_of_first_faulty faulty first, missing_of_faulty faulty]
    exact ⟨rfl, rfl⟩
  · rw [read_of_sound sound]
    exact ⟨rfl, rfl⟩

end DictionaryReader

/-! ## A null key that comes twice -/

namespace Palette

def reader : DictionaryReader := ⟨"main", ", ", ⟨"(none)"⟩, ⟨"-"⟩⟩

/-- Color codes with their names, of which one is a list.  The second row has the same null key as
the first and nothing else. -/
def colors : MemoryRows :=
  .start [⟨"code", "text", none, 0, true⟩, ⟨"name", "text", none, 0, true⟩]
    [[.null, .null], [.null], [.string "r", .string "red"],
      [.number (.integer 7), .array [.bool true, .null]]]

/-- The same with a last row that lacks a name. -/
def unnamed : MemoryRows := { colors with rows := colors.rows ++ [[.string "g"]] }

/-- Codes that nothing describes. -/
def codes : MemoryRows :=
  .start [⟨"code", "json", none, 0, true⟩]
    [[.number (.integer (-12))], [.bool true], [.null], [.array [.number (.integer 255), .null]]]

/-- A short row does no harm where its key repeats a null, and makes the read fail elsewhere.  Keys
and descriptions are shown by their native texts, whatever sort of value they are. -/
theorem dictionary_colors :
    (reader.read .never colors).dictionary = .ok [⟨"-", .null⟩, ⟨"red", .string "r"⟩,
        ⟨"[true,null]", .number (.integer 7)⟩] ∧
      (reader.read .never unnamed).dictionary =
        .error (.dataAccess (.valueFetch "name" "column index out of range")) ∧
      (reader.read .never unnamed).results.position = 5 ∧
      (reader.read .never codes).dictionary = .ok [⟨"-12", .number (.integer (-12))⟩,
        ⟨"true", .bool true⟩, ⟨"(none)", .null⟩,
        ⟨"[255,null]", .array [.number (.integer 255), .null]⟩] := by
  obtain ⟨-, -, whole⟩ := DictionaryReader.dictionary_read reader 0 colors
  obtain ⟨-, fails, -⟩ := DictionaryReader.dictionary_read reader 0 unnamed
  obtain ⟨-, -, undescribed⟩ := DictionaryReader.dictionary_read reader 0 codes
  have sound : ∀ index < colors.upcoming.length,
      ¬ Dictionary.Faulty colors.columns.length colors.upcoming index := by decide
  have plain : ∀ index < codes.upcoming.length,
      ¬ Dictionary.Faulty codes.columns.length codes.upcoming index := by decide
  obtain ⟨error, cursor⟩ := fails 4 (by decide) (by decide)
  exact ⟨(whole fun index faulty => sound index faulty.1 faulty).1, error,
    congrArg MemoryRows.position cursor,
    (undescribed fun index faulty => plain index faulty.1 faulty).1⟩

end Palette

end SchemaOverlay
