/-!
# Separated fields

Cutting a text at every occurrence of one separator character, and looking for
a text inside another.  A text with `n` separators has `n + 1` fields, so the
empty text has one empty field.
-/

namespace SchemaOverlay.Text

/-- Put one character in front of the first field. -/
def consField (c : Char) : List (List Char) → List (List Char)
  | [] => [[c]]
  | field :: fields => (c :: field) :: fields

/-- The fields between the separators, empty ones included. -/
def fields (separator : Char) : List Char → List (List Char)
  | [] => [[]]
  | c :: cs =>
    if c = separator then [] :: fields separator cs else consField c (fields separator cs)

/-- Whether the word stands at the front of the text. -/
def startsWith : (word text : List Char) → Bool
  | [], _ => true
  | _ :: _, [] => false
  | w :: word, c :: text => w == c && startsWith word text

/-- Whether the word stands anywhere in the text. -/
def holds (word : List Char) : List Char → Bool
  | [] => word.isEmpty
  | c :: text => startsWith word (c :: text) || holds word text

theorem startsWith_iff {word text : List Char} : startsWith word text = true ↔ word <+: text := by
  induction word generalizing text with
  | nil => simp [startsWith]
  | cons w word ih =>
      cases text with
      | nil => simp [startsWith]
      | cons c text => simp [startsWith, List.cons_prefix_cons, ih]

theorem startsWith_singleton (c : Char) (cs : List Char) :
    startsWith [c] cs = (cs.head? == some c) := by
  cases cs with
  | nil => rfl
  | cons d cs => simp [startsWith, Bool.beq_comm]

/-- A word does not reach over a character that it lacks. -/
theorem startsWith_append_of_not_mem {word : List Char} {c : Char} (absent : c ∉ word)
    (front back : List Char) :
    startsWith word (front ++ c :: back) = startsWith word front := by
  induction word generalizing front with
  | nil => simp [startsWith]
  | cons w word ih =>
      have parts : c ≠ w ∧ c ∉ word := by simpa using absent
      cases front with
      | nil => simp [startsWith, Ne.symm parts.1]
      | cons d front => rw [List.cons_append, startsWith, startsWith, ih parts.2]

/-- A word that lacks a character stands before it or behind it. -/
theorem holds_append_of_not_mem {word : List Char} {c : Char} (absent : c ∉ word)
    (front back : List Char) :
    holds word (front ++ c :: back) = (holds word front || holds word back) := by
  induction front with
  | nil =>
      have start : startsWith word (c :: back) = holds word [] := by
        rw [← List.nil_append (c :: back), startsWith_append_of_not_mem absent]
        cases word <;> rfl
      rw [List.nil_append, ← start]
      rfl
  | cons d front ih =>
      rw [List.cons_append, holds, holds, ih, Bool.or_assoc, ← List.cons_append,
        startsWith_append_of_not_mem absent]

/-- A word does not stand in what shares no character with it. -/
theorem holds_append_of_disjoint {word back : List Char} (cs : List Char) (nonempty : word ≠ [])
    (apart : ∀ c ∈ back, c ∉ word) : holds word (cs ++ back) = holds word cs := by
  induction back generalizing cs with
  | nil => rw [List.append_nil]
  | cons c back ih =>
      have empty : holds word [] = false := by simpa [holds] using nonempty
      have rest : holds word back = holds word [] :=
        ih [] fun d mem => apart d (List.mem_cons_of_mem c mem)
      rw [holds_append_of_not_mem (apart c List.mem_cons_self), rest, empty, Bool.or_false]

theorem fields_ne_nil (separator : Char) (cs : List Char) : fields separator cs ≠ [] := by
  cases cs with
  | nil => simp [fields]
  | cons c cs =>
      rw [fields]
      split
      · simp
      · cases fields separator cs <;> simp [consField]

/-- A text without the separator is its own only field. -/
theorem fields_of_not_mem {separator : Char} {cs : List Char} (absent : separator ∉ cs) :
    fields separator cs = [cs] := by
  induction cs with
  | nil => rfl
  | cons c cs ih =>
      have parts : separator ≠ c ∧ separator ∉ cs := by simpa using absent
      rw [fields, if_neg (Ne.symm parts.1), ih parts.2, consField]

/-- The first separator ends the first field. -/
theorem fields_append_separator {separator : Char} (front back : List Char)
    (absent : separator ∉ front) :
    fields separator (front ++ separator :: back) = front :: fields separator back := by
  induction front with
  | nil => simp [fields]
  | cons c front ih =>
      have parts : separator ≠ c ∧ separator ∉ front := by simpa using absent
      rw [List.cons_append, fields, if_neg (Ne.symm parts.1), ih parts.2, consField]

/-- No field holds the separator. -/
theorem not_mem_of_mem_fields {separator : Char} {cs field : List Char}
    (mem : field ∈ fields separator cs) : separator ∉ field := by
  induction cs generalizing field with
  | nil => simp_all [fields]
  | cons c cs ih =>
      rw [fields] at mem
      split at mem
      · rcases List.mem_cons.mp mem with rfl | later
        · simp
        · exact ih later
      · rename_i other
        cases parts : fields separator cs with
        | nil => exact absurd parts (fields_ne_nil separator cs)
        | cons first rest =>
            rw [parts] at ih mem
            rcases List.mem_cons.mp mem with rfl | later
            · simpa [Ne.symm other] using ih List.mem_cons_self
            · exact ih (List.mem_cons_of_mem first later)

/-- The fields hold all characters but the separators. -/
theorem flatten_fields (separator : Char) (cs : List Char) :
    (fields separator cs).flatten = cs.filter (· != separator) := by
  induction cs with
  | nil => rfl
  | cons c cs ih =>
      rw [fields]
      split
      · rename_i same
        simp [same, ih]
      · rename_i other
        rw [List.filter_cons_of_pos (by simpa using other), ← ih]
        cases parts : fields separator cs with
        | nil => exact absurd parts (fields_ne_nil separator cs)
        | cons first rest => rfl

end SchemaOverlay.Text
