import SchemaOverlay.Text.Blank

/-!
# Letter case

Case folding as far as this library compares texts.  Column names are compared
without regard to the case of the ASCII letters.  Type names are put in lower
case before they are classified by the ASCII words in them; for that, two
letters outside ASCII matter, because only their lower-case forms hold an ASCII
letter: the capital I with a dot above and the Kelvin sign.
-/

namespace SchemaOverlay.Text

/-- An ASCII capital becomes its small letter; all else stays. -/
def lowerAscii (c : Char) : Char :=
  if 'A' ≤ c ∧ c ≤ 'Z' then Char.ofNat (c.toNat + 32) else c

/--
The lower-case form of a letter wherever that form or the letter holds an ASCII
letter.  A search for ASCII words cannot tell this from full lower-casing.
-/
def lowerLetter (c : Char) : List Char :=
  if c = '\u0130' then ['i', '\u0307']
  else if c = '\u212A' then ['k']
  else [lowerAscii c]

/-- The text in lower case, letter by letter. -/
def lower (cs : List Char) : List Char :=
  cs.flatMap lowerLetter

/-- The characters that lower-casing takes or gives here: the ASCII letters, the two letters
outside ASCII, and the dot that is left of one of them. -/
def isCased (c : Char) : Bool :=
  let code := c.toNat
  (65 ≤ code && code ≤ 90) || (97 ≤ code && code ≤ 122) || code == 0x130 || code == 0x307
    || code == 0x212A

/-- Equality up to the case of ASCII letters. -/
def sameIgnoringCase (left right : String) : Bool :=
  left.toList.map lowerAscii == right.toList.map lowerAscii

@[simp] theorem lower_append (front back : List Char) :
    lower (front ++ back) = lower front ++ lower back := by
  simp [lower]

theorem sameIgnoringCase_iff (left right : String) :
    sameIgnoringCase left right = true ↔
      left.toList.map lowerAscii = right.toList.map lowerAscii := by
  simp [sameIgnoringCase]

/-- Only a capital changes, and lands among the small letters. -/
theorem lowerAscii_cases (c : Char) : lowerAscii c = c ∨
    (65 ≤ c.toNat ∧ c.toNat ≤ 90) ∧ (lowerAscii c).toNat = c.toNat + 32 := by
  unfold lowerAscii
  split
  · rename_i capital
    have lower : 65 ≤ c.toNat := capital.1
    have upper : c.toNat ≤ 90 := capital.2
    have valid : (c.toNat + 32).isValidChar := .inl (by omega)
    refine .inr ⟨⟨lower, upper⟩, ?_⟩
    rw [Char.ofNat, dif_pos valid]
    rfl
  · exact .inl rfl

theorem isBlank_lowerAscii (c : Char) : isBlank (lowerAscii c) = isBlank c := by
  rcases lowerAscii_cases c with same | ⟨capital, small⟩
  · rw [same]
  · have solid (d : Char) (letter : 65 ≤ d.toNat ∧ d.toNat ≤ 122) : isBlank d = false := by
      simp [isBlank]
      omega
    rw [solid c (by omega), solid (lowerAscii c) (by omega)]

theorem lowerLetter_of_ascii {c : Char} (ascii : c.toNat < 128) :
    lowerLetter c = [lowerAscii c] := by
  have other : c ≠ '\u0130' ∧ c ≠ '\u212A' := by
    constructor <;> rintro rfl <;> exact absurd ascii (by decide)
  rw [lowerLetter, if_neg other.1, if_neg other.2]

/-- A cased character becomes cased ones, and any other stays. -/
theorem lowerLetter_cases (c : Char) : lowerLetter c = [c] ∨
    isCased c = true ∧ lowerLetter c ≠ [] ∧ ∀ d ∈ lowerLetter c, isCased d = true := by
  by_cases dotted : c = '\u0130'
  · subst dotted
    exact .inr (by simp [lowerLetter, isCased])
  by_cases kelvin : c = '\u212A'
  · subst kelvin
    exact .inr (by simp [lowerLetter, isCased])
  have letter : lowerLetter c = [lowerAscii c] := by
    rw [lowerLetter, if_neg dotted, if_neg kelvin]
  rcases lowerAscii_cases c with same | ⟨capital, small⟩
  · exact .inl (by rw [letter, same])
  · have cased : isCased c = true ∧ isCased (lowerAscii c) = true := by
      simp only [isCased, small, Bool.or_eq_true, Bool.and_eq_true, decide_eq_true_eq, beq_iff_eq]
      omega
    exact .inr ⟨cased.1, by simp [letter], by simpa [letter] using cased.2⟩

theorem lowerLetter_of_not_isCased {c : Char} (uncased : isCased c = false) :
    lowerLetter c = [c] := by
  rcases lowerLetter_cases c with same | ⟨cased, -⟩
  · exact same
  · exact absurd cased (by simp [uncased])

/-- A character without case comes from itself only. -/
theorem eq_of_mem_lowerLetter {c d : Char} (mem : d ∈ lowerLetter c)
    (uncased : isCased d = false) : d = c := by
  rcases lowerLetter_cases c with same | ⟨-, -, cased⟩
  · simpa [same] using mem
  · exact absurd (cased d mem) (by simp [uncased])

theorem mem_of_mem_lower {cs : List Char} {c : Char} (mem : c ∈ lower cs)
    (uncased : isCased c = false) : c ∈ cs := by
  obtain ⟨d, inside, made⟩ := List.mem_flatMap.mp mem
  rwa [eq_of_mem_lowerLetter made uncased]

theorem isCased_of_isBlank {c : Char} (blank : isBlank c = true) : isCased c = false := by
  simp only [isBlank, isCased, Bool.or_eq_true, Bool.and_eq_true, decide_eq_true_eq, beq_iff_eq,
    Bool.or_eq_false_iff, Bool.and_eq_false_iff, decide_eq_false_iff_not,
    beq_eq_false_iff_ne] at blank ⊢
  omega

/-- Blanks have no case. -/
theorem lower_of_isBlank {cs : List Char} (blank : ∀ c ∈ cs, isBlank c = true) :
    lower cs = cs := by
  induction cs with
  | nil => rfl
  | cons c cs ih =>
      have first : lowerLetter c = [c] :=
        lowerLetter_of_not_isCased (isCased_of_isBlank (blank c List.mem_cons_self))
      rw [lower, List.flatMap_cons, first, ← lower,
        ih fun d mem => blank d (List.mem_cons_of_mem c mem)]
      rfl

end SchemaOverlay.Text
