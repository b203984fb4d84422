import SchemaOverlay.Proofs.Dictionary
import SchemaOverlay.Proofs.Ordinals

/-!
# Stepping through rows in memory

What callers are answered by a cursor over rows in memory depends on the list of
rows and on how often they asked for the next one, and on nothing else that they
asked in between.  The replies that are due are listed without a cursor, and the
cursor gives these and no others.
-/

namespace SchemaOverlay.MemoryRows

/-! ## Requests and replies -/

/-- Something that a caller asks of a cursor. -/
inductive Request where
  | next
  | value (index : Nat)
  | columns
  | position
  deriving DecidableEq

/-- What a caller is answered. -/
inductive Reply where
  | next (answer : Except SourceError Bool)
  | value (answer : Except SourceError Value)
  | columns (answer : Except SourceError (List Column))
  | position (count : Nat)

/-- The cursor's reply to a request. -/
def reply (results : MemoryRows) : Request → Reply
  | .next => .next (ResultSet.next results).1
  | .value index => .value (ResultSet.value results index)
  | .columns => .columns (ResultSet.columns results)
  | .position => .position results.position

@[simp] theorem reply_next (results : MemoryRows) :
    results.reply .next = .next (.ok results.hasNext) := rfl

@[simp] theorem reply_value (results : MemoryRows) (index : Nat) :
    results.reply (.value index) = .value (results.value index) := rfl

@[simp] theorem reply_columns (results : MemoryRows) :
    results.reply .columns = .columns (.ok results.columns) := rfl

@[simp] theorem reply_position (results : MemoryRows) :
    results.reply .position = .position results.position := rfl

/-- The cursor once a request was answered. -/
def after (results : MemoryRows) : Request → MemoryRows
  | .next => (ResultSet.next results).2
  | .value _ | .columns | .position => results

/-- The cursor once requests were answered one after the other. -/
def afterAll (results : MemoryRows) (requests : List Request) : MemoryRows :=
  requests.foldl after results

/-- The replies that are due once the next row was asked for a number of times, said of the list
of rows alone: the first time leads to the first row, and every time after the last row leads past
the end. -/
inductive Due (columns : List Column) (rows : List (List Value)) :
    Nat → Request → Reply → Prop where
  | more {steps : Nat} (within : steps + 1 ≤ rows.length) :
      Due columns rows steps .next (.next (.ok true))
  | exhausted {steps : Nat} (beyond : rows.length < steps + 1) :
      Due columns rows steps .next (.next (.ok false))
  | value {before index : Nat} {row : List Value} {value : Value}
      (here : rows[before]? = some row) (found : row[index]? = some value) :
      Due columns rows (before + 1) (.value index) (.value (.ok value))
  | named {before index : Nat} {row : List Value} {column : Column}
      (here : rows[before]? = some row) (short : row.length ≤ index)
      (listed : columns[index]? = some column) :
      Due columns rows (before + 1) (.value index)
        (.value (.error (.valueFetch column.name "column index out of range")))
  | numbered {before index : Nat} {row : List Value}
      (here : rows[before]? = some row) (short : row.length ≤ index)
      (unlisted : columns.length ≤ index) :
      Due columns rows (before + 1) (.value index)
        (.value (.error (.valueFetch ("#" ++ toString index) "column index out of range")))
  | nowhere {steps index : Nat} (outside : steps = 0 ∨ rows.length < steps) :
      Due columns rows steps (.value index) (.value (.error (.resultSet "no current row")))
  | columns {steps : Nat} :
      Due columns rows steps .columns (.columns (.ok (Column.numbered columns)))
  | position {steps : Nat} :
      Due columns rows steps .position (.position (min steps (rows.length + 1)))

/-! ## The cursor after a number of steps -/

section Stepped

variable {columns : List Column} {rows : List (List Value)} {steps : Nat}

/-- The cursor once the next row was asked for a number of times. -/
def stepped (columns : List Column) (rows : List (List Value)) : Nat → MemoryRows
  | 0 => start columns rows
  | steps + 1 => { start columns rows with cursor := some (min steps rows.length) }

@[simp] theorem stepped_rows (columns : List Column) (rows : List (List Value)) (steps : Nat) :
    (stepped columns rows steps).rows = rows := by cases steps <;> rfl

@[simp] theorem stepped_columns (columns : List Column) (rows : List (List Value)) (steps : Nat) :
    (stepped columns rows steps).columns = Column.numbered columns := by cases steps <;> rfl

/-- Each step counts, but of those that find no row only the first one. -/
theorem position_stepped :
    (stepped columns rows steps).position = min steps (rows.length + 1) := by
  cases steps with
  | zero => exact (Nat.zero_min _).symm
  | succ steps => exact (Nat.add_min_add_right ..).symm

theorem hasNext_stepped :
    (stepped columns rows steps).hasNext = decide (steps + 1 ≤ rows.length) := by
  rw [Bool.eq_iff_iff, hasNext, decide_eq_true_iff, decide_eq_true_iff, position_stepped,
    stepped_rows]
  omega

theorem advance_stepped :
    (stepped columns rows steps).advance = stepped columns rows (steps + 1) := by
  have reached : (if (stepped columns rows steps).hasNext then (stepped columns rows steps).position
      else (stepped columns rows steps).rows.length) = min steps rows.length := by
    rw [hasNext_stepped, position_stepped, stepped_rows]
    simp only [decide_eq_true_eq]
    split <;> omega
  rw [advance, reached]
  cases steps <;> rfl

/-- There is no next row exactly when every row was asked for. -/
theorem reply_next_stepped_eq_false_iff :
    (stepped columns rows steps).reply .next = .next (.ok false) ↔ rows.length ≤ steps := by
  rw [reply_next, hasNext_stepped, Reply.next.injEq, Except.ok.injEq, decide_eq_false_iff_not,
    Nat.not_le, Nat.lt_succ_iff]

theorem current?_stepped_zero : (stepped columns rows 0).current? = none := rfl

/-- The current row is the one that was asked for last, if the list has it. -/
theorem current?_stepped_succ : (stepped columns rows (steps + 1)).current? = rows[steps]? := by
  change rows[min steps rows.length]? = rows[steps]?
  obtain within | beyond := Nat.lt_or_ge steps rows.length
  · rw [Nat.min_eq_left (Nat.le_of_lt within)]
  · rw [Nat.min_eq_right beyond, List.getElem?_eq_none beyond, List.getElem?_eq_none Nat.le.refl]

theorem value_of_current?_eq_none {results : MemoryRows} (nowhere : results.current? = none)
    (index : Nat) : results.value index = .error (.resultSet "no current row") := by
  rw [value, nowhere]

theorem missing_stepped (index : Nat) :
    (stepped columns rows steps).missing index =
      .valueFetch
        (match columns[index]? with
          | some column => column.name
          | none => "#" ++ toString index)
        "column index out of range" := by
  rw [missing, columnLabel, stepped_columns, Column.getElem?_numbered]
  cases columns[index]? <;> rfl

/-- A request for the next row is one step, and no other request is. -/
theorem after_stepped (request : Request) :
    (stepped columns rows steps).after request =
      stepped columns rows (steps + if request == .next then 1 else 0) := by
  cases request with
  | next => exact advance_stepped
  | value | columns | position => rfl

/-- Requests lead on by as many steps as there are requests for the next row among them. -/
theorem afterAll_stepped (requests : List Request) :
    (stepped columns rows steps).afterAll requests =
      stepped columns rows (steps + requests.count .next) := by
  induction requests generalizing steps with
  | nil => rfl
  | cons request requests ih =>
      rw [afterAll, List.foldl_cons, ← afterAll, after_stepped, ih, List.count_cons, Nat.add_assoc,
        Nat.add_comm (requests.count _)]

variable {request : Request} {answer : Reply}

/-- The cursor gives a reply that is due. -/
theorem due_reply (columns : List Column) (rows : List (List Value)) (steps : Nat)
    (request : Request) :
    Due columns rows steps request ((stepped columns rows steps).reply request) := by
  cases request with
  | next =>
      rw [reply_next, hasNext_stepped]
      by_cases within : steps + 1 ≤ rows.length
      · rw [decide_eq_true within]
        exact .more within
      · rw [decide_eq_false within]
        exact .exhausted (Nat.not_le.mp within)
  | value index =>
      rw [reply_value]
      cases steps with
      | zero =>
          rw [value_of_current?_eq_none current?_stepped_zero]
          exact .nowhere (.inl rfl)
      | succ before =>
          cases here : rows[before]? with
          | none =>
              have beyond : rows.length ≤ before := List.getElem?_eq_none_iff.mp here
              rw [value_of_current?_eq_none (current?_stepped_succ.trans here)]
              exact .nowhere (.inr (Nat.lt_succ_of_le beyond))
          | some row =>
              rw [value_of_current? (current?_stepped_succ.trans here), missing_stepped]
              cases found : row[index]? with
              | some value => exact .value here found
              | none =>
                  have short : row.length ≤ index := List.getElem?_eq_none_iff.mp found
                  cases listed : columns[index]? with
                  | some column => exact .named here short listed
                  | none => exact .numbered here short (List.getElem?_eq_none_iff.mp listed)
  | columns =>
      rw [reply_columns, stepped_columns]
      exact .columns
  | position =>
      rw [reply_position, position_stepped]
      exact .position

/-- A reply that is due is the one that the cursor gives. -/
theorem Due.reply_eq (due : Due columns rows steps request answer) :
    (stepped columns rows steps).reply request = answer := by
  cases due with
  | more within => rw [reply_next, hasNext_stepped, decide_eq_true within]
  | exhausted beyond =>
      rw [reply_next, hasNext_stepped, decide_eq_false (Nat.not_le.mpr beyond)]
  | value here found =>
      rw [reply_value, value_of_current? (current?_stepped_succ.trans here), found]
  | named here short listed =>
      rw [reply_value, value_of_current? (current?_stepped_succ.trans here),
        List.getElem?_eq_none short, missing_stepped, listed]
  | numbered here short unlisted =>
      rw [reply_value, value_of_current? (current?_stepped_succ.trans here),
        List.getElem?_eq_none short, missing_stepped, List.getElem?_eq_none unlisted]
  | nowhere outside =>
      rw [reply_value, value_of_current?_eq_none]
      obtain rfl | beyond := outside
      · exact current?_stepped_zero
      · obtain ⟨before, rfl⟩ := Nat.exists_eq_add_of_lt beyond
        rw [current?_stepped_succ, List.getElem?_eq_none (Nat.le_add_right _ _)]
  | columns => rw [reply_columns, stepped_columns]
  | position => rw [reply_position, position_stepped]

end Stepped

/-- After requests of any sort and in any order, what a cursor over rows replies is what is due for
the number of times the next row was asked for, and this settles every reply.  Once there was no
next row there is none ever after; requests other than that for the next row leave the cursor where
it is; and the columns always come with their positions as ordinals. -/
theorem replies_from_rows (columns : List Column) (rows : List (List Value))
    (front : List Request) :
    (∀ request answer, ((start columns rows).afterAll front).reply request = answer ↔
        Due columns rows (front.count .next) request answer) ∧
      (((start columns rows).afterAll front).reply .next = .next (.ok false) →
        ∀ back, ((start columns rows).afterAll (front ++ back)).reply .next = .next (.ok false)) ∧
      (∀ back, Request.next ∉ back →
        (start columns rows).afterAll (front ++ back) = (start columns rows).afterAll front) ∧
      ∀ listed, ((start columns rows).afterAll front).reply .columns = .columns (.ok listed) →
        listed.length = columns.length ∧ Column.InPlace listed := by
  have reached (requests : List Request) : (start columns rows).afterAll requests =
      stepped columns rows (requests.count .next) := by
    rw [← Nat.zero_add (requests.count _), ← afterAll_stepped]
    rfl
  have replied (requests : List Request) (request : Request) (answer : Reply) :
      ((start columns rows).afterAll requests).reply request = answer ↔
        Due columns rows (requests.count .next) request answer := by
    rw [reached]
    exact ⟨fun same => same ▸ due_reply .., Due.reply_eq⟩
  refine ⟨replied front, fun done back => ?_, fun back unmoved => ?_, fun listed same => ?_⟩
  · rw [reached, reply_next_stepped_eq_false_iff] at done ⊢
    rw [List.count_append]
    exact Nat.le_add_right_of_le done
  · rw [reached, reached, List.count_append, List.count_eq_zero_of_not_mem unmoved, Nat.add_zero]
  · rw [reached, reply_columns, stepped_columns] at same
    cases same
    exact ⟨Column.length_numbered columns, Column.inPlace_numbered columns⟩

end SchemaOverlay.MemoryRows

/-! ## Fruit in rows of different lengths -/

namespace SchemaOverlay.Orchard

open MemoryRows

def columns : List Column := [⟨"id", "int4", none, 0, true⟩, ⟨"name", "text", none, 0, true⟩]

/-- The second row has no name, and the last one has more than there are columns for. -/
def rows : List (List Value) :=
  [[.string "a", .string "apple"], [.string "b"], [.string "c", .string "plum", .bool true]]

/-- The second row is reached, with some looking around on the way. -/
def toSecond : List Request := [.value 0, .next, .columns, .value 1, .next]

/-- The end is reached, and passed once more. -/
def past : List Request := toSecond ++ [.next, .position, .next, .next]

theorem replies_from_rows_fruit :
    ((start columns rows).afterAll toSecond).reply (.value 1) =
        .value (.error (.valueFetch "name" "column index out of range")) ∧
      ((start columns rows).afterAll toSecond).reply (.value 2) =
        .value (.error (.valueFetch "#2" "column index out of range")) ∧
      ((start columns rows).afterAll past).reply .position = .position 4 ∧
      ((start columns rows).afterAll (past ++ [.next, .value 0])).reply .next = .next (.ok false) ∧
      Request.next ∉ [Request.value 0, .position] ∧
      (start columns rows).afterAll (toSecond ++ [.value 0, .position]) =
        (start columns rows).afterAll toSecond ∧
      Column.InPlace (Column.numbered columns) := by
  obtain ⟨second, -, unmoved, listed⟩ := replies_from_rows columns rows toSecond
  obtain ⟨passed, exhausted, -, -⟩ := replies_from_rows columns rows past
  have here : rows[1]? = some [.string "b"] := rfl
  have short : [Value.string "b"].length ≤ 1 := Nat.le.refl
  have name : columns[1]? = some ⟨"name", "text", none, 0, true⟩ := rfl
  have still : Request.next ∉ [Request.value 0, .position] := by decide
  have done : ((start columns rows).afterAll past).reply .next = .next (.ok false) :=
    (passed _ _).mpr (.exhausted (by decide))
  refine ⟨(second _ _).mpr ?_, (second _ _).mpr ?_, (passed _ _).mpr .position,
    exhausted done [.next, .value 0], still, unmoved _ still, (listed _ rfl).2⟩
  · exact .named here short name
  · exact .numbered here (Nat.le_succ_of_le short) Nat.le.refl

end SchemaOverlay.Orchard
