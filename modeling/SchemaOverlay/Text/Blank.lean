/-!
# Blank characters

The characters that count as white space, and the two operations that look at
them: cutting blanks off both ends of a text and taking its first word.  The
table is the Unicode property `White_Space`, so it also holds the no-break
spaces and the line and paragraph separators.
-/

namespace SchemaOverlay.Text

/-- The character has the Unicode property `White_Space`. -/
def isBlank (c : Char) : Bool :=
  let code := c.toNat
  (0x9 ≤ code && code ≤ 0xD) || code == 0x20 || code == 0x85 || code == 0xA0
    || code == 0x1680 || (0x2000 ≤ code && code ≤ 0x200A) || code == 0x2028
    || code == 0x2029 || code == 0x202F || code == 0x205F || code == 0x3000

/-- The characters without the blanks at the front. -/
def trimFront (cs : List Char) : List Char :=
  cs.dropWhile isBlank

/-- The characters without the blanks at the back. -/
def trimBack (cs : List Char) : List Char :=
  (cs.reverse.dropWhile isBlank).reverse

/-- The characters without the blanks at either end. -/
def trim (cs : List Char) : List Char :=
  trimBack (trimFront cs)

/-- The first run of characters that are not blank; empty when there is none. -/
def firstWord (cs : List Char) : List Char :=
  (trimFront cs).takeWhile fun c => !isBlank c

def isAllBlank (cs : List Char) : Bool :=
  cs.all isBlank

/-- Whether a text has no blank at either end. -/
def isTight (cs : List Char) : Bool :=
  !cs.head?.any isBlank && !cs.getLast?.any isBlank

@[simp] theorem trimFront_nil : trimFront [] = [] := rfl

theorem trimFront_cons_of_blank {c : Char} (cs : List Char) (blank : isBlank c = true) :
    trimFront (c :: cs) = trimFront cs := by
  simp [trimFront, blank]

theorem trimFront_cons_of_not_blank {c : Char} (cs : List Char) (solid : isBlank c = false) :
    trimFront (c :: cs) = c :: cs := by
  simp [trimFront, solid]

/-- Blanks put in front of a text are cut off again. -/
theorem trimFront_append_of_blank (front cs : List Char) (blank : ∀ c ∈ front, isBlank c = true) :
    trimFront (front ++ cs) = trimFront cs := by
  induction front with
  | nil => rfl
  | cons c front ih =>
      rw [List.cons_append, trimFront_cons_of_blank _ (blank c (by simp))]
      exact ih fun d hd => blank d (by simp [hd])

theorem trimBack_eq (cs : List Char) : trimBack cs = (trimFront cs.reverse).reverse := rfl

/-- Blanks put behind a text are cut off again. -/
theorem trimBack_append_of_blank (cs back : List Char) (blank : ∀ c ∈ back, isBlank c = true) :
    trimBack (cs ++ back) = trimBack cs := by
  rw [trimBack_eq, trimBack_eq, List.reverse_append,
    trimFront_append_of_blank _ _ fun c hc => blank c (by simpa using hc)]

theorem head?_trimFront (cs : List Char) : (trimFront cs).head?.any isBlank = false := by
  induction cs with
  | nil => rfl
  | cons c cs ih =>
      cases blank : isBlank c with
      | true => rw [trimFront_cons_of_blank cs blank, ih]
      | false => simp [trimFront_cons_of_not_blank cs blank, blank]

theorem trimFront_of_head? {cs : List Char} (solid : cs.head?.any isBlank = false) :
    trimFront cs = cs := by
  cases cs with
  | nil => rfl
  | cons c cs => exact trimFront_cons_of_not_blank cs solid

/-- What is cut off at the front is blank. -/
theorem exists_trimFront (cs : List Char) :
    ∃ front, cs = front ++ trimFront cs ∧ ∀ c ∈ front, isBlank c = true :=
  ⟨cs.takeWhile isBlank, (List.takeWhile_append_dropWhile).symm,
    List.all_eq_true.mp List.all_takeWhile⟩

/-- What is cut off at the back is blank. -/
theorem exists_trimBack (cs : List Char) :
    ∃ back, cs = trimBack cs ++ back ∧ ∀ c ∈ back, isBlank c = true := by
  obtain ⟨front, split, blank⟩ := exists_trimFront cs.reverse
  refine ⟨front.reverse, ?_, fun c mem => blank c (List.mem_reverse.mp mem)⟩
  rw [trimBack_eq, ← List.reverse_append, ← split, List.reverse_reverse]

/-- A text is what is left of it by trimming, between blanks. -/
theorem exists_trim (cs : List Char) :
    ∃ front back, cs = front ++ trim cs ++ back ∧ (∀ c ∈ front, isBlank c = true) ∧
      ∀ c ∈ back, isBlank c = true := by
  obtain ⟨front, split, blank⟩ := exists_trimFront cs
  obtain ⟨back, splits, blanks⟩ := exists_trimBack (trimFront cs)
  exact ⟨front, back, by rw [trim, List.append_assoc, ← splits, ← split], blank, blanks⟩

theorem isTight_trim (cs : List Char) : isTight (trim cs) = true := by
  have back : (trim cs).getLast?.any isBlank = false := by
    rw [trim, trimBack_eq, List.getLast?_reverse]
    exact head?_trimFront _
  have front : (trim cs).head?.any isBlank = false := by
    obtain ⟨rest, split, -⟩ := exists_trimBack (trimFront cs)
    have solid := head?_trimFront cs
    rw [split, ← trim, List.head?_append] at solid
    cases head : (trim cs).head? with
    | none => rfl
    | some c => simpa [head] using solid
  rw [isTight, front, back]
  rfl

theorem trim_of_isTight {cs : List Char} (tight : isTight cs = true) : trim cs = cs := by
  rw [isTight, Bool.and_eq_true, Bool.not_eq_true', Bool.not_eq_true'] at tight
  rw [trim, trimFront_of_head? tight.1, trimBack_eq, trimFront_of_head?, List.reverse_reverse]
  rw [List.head?_reverse]
  exact tight.2

theorem mem_of_mem_trim {c : Char} {cs : List Char} (mem : c ∈ trim cs) : c ∈ cs := by
  obtain ⟨front, back, split, -⟩ := exists_trim cs
  rw [split]
  exact List.mem_append_left back (List.mem_append_right front mem)

/-- Nothing is left of a text exactly when it is all blank. -/
theorem trim_eq_nil_iff {cs : List Char} : trim cs = [] ↔ ∀ c ∈ cs, isBlank c = true := by
  constructor
  · intro nothing c mem
    obtain ⟨front, back, split, blank, blanks⟩ := exists_trim cs
    rw [split, nothing, List.append_nil, List.mem_append] at mem
    exact mem.elim (blank c) (blanks c)
  · intro blank
    have tight := isTight_trim cs
    cases left : trim cs with
    | nil => rfl
    | cons c rest =>
        have solid : isBlank c = true := blank c (mem_of_mem_trim (left ▸ List.mem_cons_self))
        simp [left, isTight, solid] at tight

theorem trimFront_append (cs back : List Char) :
    trimFront (cs ++ back) =
      if (trimFront cs).isEmpty then trimFront back else trimFront cs ++ back :=
  List.dropWhile_append

theorem trimFront_eq_nil_iff {cs : List Char} :
    trimFront cs = [] ↔ ∀ c ∈ cs, isBlank c = true := by
  constructor
  · intro nothing
    obtain ⟨front, split, blank⟩ := exists_trimFront cs
    rw [nothing, List.append_nil] at split
    exact split ▸ blank
  · intro blank
    rw [← List.append_nil cs, trimFront_append_of_blank cs [] blank, trimFront_nil]

/-- Blanks at both ends make no difference to what trimming leaves. -/
theorem trim_append_of_blank {front back : List Char} (cs : List Char)
    (blank : ∀ c ∈ front, isBlank c = true) (blanks : ∀ c ∈ back, isBlank c = true) :
    trim (front ++ cs ++ back) = trim cs := by
  rw [trim, List.append_assoc, trimFront_append_of_blank front _ blank, trimFront_append, trim]
  split
  · rename_i nothing
    rw [List.isEmpty_iff.mp nothing, trimFront_eq_nil_iff.mpr blanks]
  · rw [trimBack_append_of_blank _ _ blanks]

/-- A tight text at the back stays, and what is in front of it loses its front blanks only. -/
theorem trim_append_of_isTight (cs : List Char) {tail : List Char} (nonempty : tail ≠ [])
    (tight : isTight tail = true) : trim (cs ++ tail) = trimFront cs ++ tail := by
  rw [isTight, Bool.and_eq_true, Bool.not_eq_true', Bool.not_eq_true'] at tight
  have front : trimFront (cs ++ tail) = trimFront cs ++ tail := by
    rw [trimFront_append]
    split
    · rename_i nothing
      rw [List.isEmpty_iff.mp nothing, trimFront_of_head? tight.1, List.nil_append]
    · rfl
  have back : trimFront tail.reverse = tail.reverse :=
    trimFront_of_head? (by rw [List.head?_reverse]; exact tight.2)
  rw [trim, front, trimBack_eq, List.reverse_append, trimFront_append, back,
    if_neg (by simpa using nonempty), List.reverse_append, List.reverse_reverse,
    List.reverse_reverse]

theorem head?_trimFront_eq_find? (cs : List Char) :
    (trimFront cs).head? = cs.find? fun c => !isBlank c := by
  induction cs with
  | nil => rfl
  | cons c cs ih =>
      cases blank : isBlank c with
      | true => simp [trimFront_cons_of_blank cs blank, blank, ih]
      | false => simp [trimFront_cons_of_not_blank cs blank, blank]

/-- What trimming leaves begins with the first character that is not blank. -/
theorem head?_trim (cs : List Char) : (trim cs).head? = cs.find? fun c => !isBlank c := by
  rw [← head?_trimFront_eq_find?]
  obtain ⟨back, split, -⟩ := exists_trimBack (trimFront cs)
  cases core : trim cs with
  | nil => rw [trimFront_eq_nil_iff.mpr (trim_eq_nil_iff.mp core)]
  | cons c rest =>
      rw [split, ← trim, core]
      rfl

end SchemaOverlay.Text
