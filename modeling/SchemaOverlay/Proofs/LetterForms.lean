import SchemaOverlay.Schema.DataKind

/-!
# Letters outside ASCII

Lower case as Unicode has it may give a letter outside ASCII a form of another
length, or one that depends on the letters around it.  No such choice reaches
the kind of a type: all words and marks that are searched for are ASCII, so two
texts that differ in what stands for their solid characters outside ASCII have
one kind.
-/

namespace SchemaOverlay.Text

/-- A character outside ASCII that is no blank. -/
def isForeign (c : Char) : Bool :=
  128 ≤ c.toNat && !isBlank c

/-- What may stand in place of a foreign character. -/
structure ForeignRun (form : List Char) : Prop where
  nonempty : form ≠ []
  foreign : ∀ c ∈ form, isForeign c = true

/-- Texts that agree but for what stands in place of their foreign characters. -/
inductive AlikeInAscii : List Char → List Char → Prop where
  | nil : AlikeInAscii [] []
  | same (c : Char) {left right : List Char} :
      AlikeInAscii left right → AlikeInAscii (c :: left) (c :: right)
  | run {form other left right : List Char} : ForeignRun form → ForeignRun other →
      AlikeInAscii left right → AlikeInAscii (form ++ left) (other ++ right)

/--
What lower-casing a text may give: for a character that holds or yields an ASCII
letter what `lowerLetter` says, and for any other solid character outside ASCII
some foreign characters.
-/
inductive LowersTo : List Char → List Char → Prop where
  | nil : LowersTo [] []
  | letter (c : Char) {cs lowered : List Char} :
      LowersTo cs lowered → LowersTo (c :: cs) (lowerLetter c ++ lowered)
  | foreign {c : Char} {form cs lowered : List Char} :
      isForeign c = true → lowerLetter c = [c] → ForeignRun form →
      LowersTo cs lowered → LowersTo (c :: cs) (form ++ lowered)

def isAscii (text : List Char) : Bool :=
  text.all fun c => c.toNat < 128

theorem not_mem_of_isForeign {word : List Char} {c : Char} (ascii : isAscii word = true)
    (foreign : isForeign c = true) : c ∉ word := by
  intro mem
  have low : c.toNat < 128 := by simpa using List.all_eq_true.mp ascii c mem
  have high : 128 ≤ c.toNat := by simpa using (Bool.and_eq_true_iff.mp foreign).1
  omega

theorem isBlank_of_isForeign {c : Char} (foreign : isForeign c = true) : isBlank c = false := by
  simpa using (Bool.and_eq_true_iff.mp foreign).2

/-! ## Runs of foreign characters -/

namespace ForeignRun

variable {form : List Char}

theorem reverse (run : ForeignRun form) : ForeignRun form.reverse :=
  ⟨by simpa using run.nonempty, by simpa using run.foreign⟩

theorem exists_cons (run : ForeignRun form) :
    ∃ c rest, form = c :: rest ∧ isForeign c = true := by
  obtain ⟨c, rest, split⟩ := List.exists_cons_of_ne_nil run.nonempty
  exact ⟨c, rest, split, run.foreign c (split ▸ List.mem_cons_self)⟩

theorem startsWith_append {word : List Char} (run : ForeignRun form)
    (ascii : isAscii word = true) (cs : List Char) :
    startsWith word (form ++ cs) = word.isEmpty := by
  obtain ⟨c, rest, rfl, foreign⟩ := run.exists_cons
  rw [List.cons_append, ← List.nil_append (c :: _),
    startsWith_append_of_not_mem (not_mem_of_isForeign ascii foreign)]
  cases word <;> rfl

theorem holds_append {word : List Char} (run : ForeignRun form) (nonempty : word ≠ [])
    (ascii : isAscii word = true) (cs : List Char) : holds word (form ++ cs) = holds word cs := by
  have solid := run.foreign
  clear run
  induction form with
  | nil => rfl
  | cons c form ih =>
      have absent := not_mem_of_isForeign ascii (solid c List.mem_cons_self)
      rw [List.cons_append, ← List.nil_append (c :: _), holds_append_of_not_mem absent,
        ih fun d mem => solid d (List.mem_cons_of_mem c mem)]
      simp [holds, nonempty]

theorem beq_append {word : List Char} (run : ForeignRun form) (ascii : isAscii word = true)
    (cs : List Char) : (word == form ++ cs) = false := by
  obtain ⟨c, rest, rfl, foreign⟩ := run.exists_cons
  refine beq_false_of_ne fun same => not_mem_of_isForeign ascii foreign ?_
  rw [same]
  exact List.mem_cons_self

theorem trimFront_append (run : ForeignRun form) (cs : List Char) :
    trimFront (form ++ cs) = form ++ cs := by
  obtain ⟨c, rest, rfl, foreign⟩ := run.exists_cons
  exact trimFront_cons_of_not_blank _ (isBlank_of_isForeign foreign)

end ForeignRun

/-- Lower case as it is taken here agrees with any other. -/
theorem LowersTo.alike {cs lowered : List Char} (lowers : LowersTo cs lowered) :
    AlikeInAscii (lower cs) lowered := by
  induction lowers with
  | nil => exact .nil
  | @letter c cs lowered _ ih =>
      rw [lower, List.flatMap_cons, ← lower]
      -- Both texts begin with the same form, whichever it is.
      generalize lowerLetter c = form
      induction form with
      | nil => exact ih
      | cons d form ihForm => exact .same d ihForm
  | @foreign c form cs lowered solid kept run _ ih =>
      rw [lower, List.flatMap_cons, ← lower, kept]
      exact .run ⟨by simp, by simpa using solid⟩ run ih

namespace AlikeInAscii

variable {left right word : List Char}

theorem append {first second : List Char} (alike : AlikeInAscii left right)
    (later : AlikeInAscii first second) : AlikeInAscii (left ++ first) (right ++ second) := by
  induction alike with
  | nil => exact later
  | same c _ ih => exact .same c ih
  | run form other _ ih =>
      rw [List.append_assoc, List.append_assoc]
      exact .run form other ih

theorem reverse (alike : AlikeInAscii left right) :
    AlikeInAscii left.reverse right.reverse := by
  induction alike with
  | nil => exact .nil
  | same c _ ih =>
      rw [List.reverse_cons, List.reverse_cons]
      exact ih.append (.same c .nil)
  | @run form other left right run others _ ih =>
      rw [List.reverse_append, List.reverse_append]
      refine ih.append ?_
      rw [← List.append_nil form.reverse, ← List.append_nil other.reverse]
      exact .run run.reverse others.reverse .nil

/-- An ASCII word stands at the front of both texts or of neither. -/
theorem startsWith_eq (alike : AlikeInAscii left right) (ascii : isAscii word = true) :
    startsWith word left = startsWith word right := by
  induction alike generalizing word with
  | nil => rfl
  | same c _ ih =>
      cases word with
      | nil => rfl
      | cons w word => rw [startsWith, startsWith, ih (Bool.and_eq_true_iff.mp ascii).2]
  | run form other _ _ => rw [form.startsWith_append ascii, other.startsWith_append ascii]

theorem holds_eq (alike : AlikeInAscii left right) (nonempty : word ≠ [])
    (ascii : isAscii word = true) : holds word left = holds word right := by
  induction alike with
  | nil => rfl
  | same c alike ih => rw [holds, holds, startsWith_eq (.same c alike) ascii, ih]
  | run form other _ ih =>
      rw [form.holds_append nonempty ascii, other.holds_append nonempty ascii, ih]

/-- An ASCII word is both texts or neither. -/
theorem beq_eq (alike : AlikeInAscii left right) (ascii : isAscii word = true) :
    (word == left) = (word == right) := by
  induction alike generalizing word with
  | nil => rfl
  | same c _ ih =>
      cases word with
      | nil => rfl
      | cons w word =>
          rw [List.cons_beq_cons, List.cons_beq_cons, ih (Bool.and_eq_true_iff.mp ascii).2]
  | run form other _ _ => rw [form.beq_append ascii, other.beq_append ascii]

theorem trimFront (alike : AlikeInAscii left right) :
    AlikeInAscii (Text.trimFront left) (Text.trimFront right) := by
  induction alike with
  | nil => exact .nil
  | same c alike ih =>
      cases blank : isBlank c with
      | true => rwa [trimFront_cons_of_blank _ blank, trimFront_cons_of_blank _ blank]
      | false =>
          rw [trimFront_cons_of_not_blank _ blank, trimFront_cons_of_not_blank _ blank]
          exact .same c alike
  | run form other alike _ =>
      rw [form.trimFront_append, other.trimFront_append]
      exact .run form other alike

theorem trim (alike : AlikeInAscii left right) : AlikeInAscii (Text.trim left) (Text.trim right) :=
  alike.trimFront.reverse.trimFront.reverse

theorem takeWhile {keep : Char → Bool} (alike : AlikeInAscii left right)
    (kept : ∀ c, isForeign c = true → keep c = true) :
    AlikeInAscii (left.takeWhile keep) (right.takeWhile keep) := by
  induction alike with
  | nil => exact .nil
  | same c _ ih =>
      cases goes : keep c with
      | true =>
          rw [List.takeWhile_cons_of_pos goes, List.takeWhile_cons_of_pos goes]
          exact .same c ih
      | false => simp [goes, AlikeInAscii.nil]
  | run form other _ ih =>
      rw [List.takeWhile_append_of_pos fun c mem => kept c (form.foreign c mem),
        List.takeWhile_append_of_pos fun c mem => kept c (other.foreign c mem)]
      exact .run form other ih

end AlikeInAscii

end SchemaOverlay.Text

namespace SchemaOverlay.DataKind

open Text

variable {left right : List Char}

theorem mentions_of_alike {word : String} (alike : AlikeInAscii left right)
    (nonempty : word.toList ≠ []) (ascii : isAscii word.toList = true) :
    mentions left word = mentions right word :=
  alike.holds_eq nonempty ascii

theorem isOneOf_of_alike {words : List String} (alike : AlikeInAscii left right)
    (ascii : ∀ word ∈ words, isAscii word.toList = true) :
    isOneOf words left = isOneOf words right := by
  induction words with
  | nil => rfl
  | cons word words ih =>
      have rest := ih fun other mem => ascii other (List.mem_cons_of_mem word mem)
      rw [isOneOf, List.any_cons, ← isOneOf, alike.beq_eq (ascii word List.mem_cons_self), rest]
      rfl

theorem beginsWith_of_alike {word : String} (alike : AlikeInAscii left right)
    (ascii : isAscii word.toList = true) : beginsWith left word = beginsWith right word :=
  alike.startsWith_eq ascii

theorem isArray_of_alike (alike : AlikeInAscii left right) : isArray left = isArray right := by
  rw [isArray, isArray, ← startsWith_singleton, ← startsWith_singleton,
    alike.reverse.startsWith_eq (by decide), alike.startsWith_eq (by decide),
    mentions_of_alike alike (by decide) (by decide)]

theorem base_of_alike (alike : AlikeInAscii left right) :
    AlikeInAscii (base left) (base right) := by
  refine (alike.takeWhile fun c foreign => ?_).trim
  refine bne_iff_ne.mpr ?_
  rintro rfl
  cases foreign

theorem firstWord_of_alike (alike : AlikeInAscii left right) :
    AlikeInAscii (firstWord left) (firstWord right) :=
  alike.trimFront.takeWhile fun c foreign => by rw [isBlank_of_isForeign foreign]; rfl

theorem ofBase_of_alike (alike : AlikeInAscii left right) : ofBase left = ofBase right := by
  have first (words : List String) (ascii : ∀ word ∈ words, isAscii word.toList = true) :
      isOneOf words (firstWord left) = isOneOf words (firstWord right) :=
    isOneOf_of_alike (firstWord_of_alike alike) ascii
  have inside (word : String) (plain : word.toList ≠ [] ∧ isAscii word.toList = true) :
      mentions left word = mentions right word := mentions_of_alike alike plain.1 plain.2
  rw [ofBase, ofBase, first integerWords (by decide), first numberWords (by decide),
    first ["interval"] (by decide), first geometryWords (by decide), inside "bool" (by decide),
    beginsWith_of_alike alike (by decide), beginsWith_of_alike alike (by decide),
    inside "date" (by decide), inside "time" (by decide), inside "bytea" (by decide),
    inside "blob" (by decide), inside "binary" (by decide), inside "json" (by decide)]

/-- Every lower case of a name gives its kind. -/
theorem ofTypeName_of_lowersTo {name : String} {lowered : List Char}
    (lowers : LowersTo (trim name.toList) lowered) :
    ofTypeName name = if isArray lowered then .structured else ofBase (base lowered) := by
  rw [ofTypeName, normalized, isArray_of_alike lowers.alike,
    ofBase_of_alike (base_of_alike lowers.alike)]

end SchemaOverlay.DataKind
