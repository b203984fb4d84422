import SchemaOverlay.Proofs.LetterForms

/-!
# Kinds of type names

How a type name may be written without a change of its kind.  The case of the
letters, their lower-case forms outside ASCII and the blanks around a name never
matter, and the marks of an array outweigh everything else in the name.  What
stands in parentheses matters in one case only: when it holds the word `array`,
which is searched in the whole name.
-/

namespace SchemaOverlay.Text

/-! ## Marks without letters -/

/-- A mark without letters stands at the front exactly when it did before letters were rewritten. -/
theorem startsWith_flatMap {form : Char → List Char}
    (forms : ∀ c, form c = [c] ∨
      isCased c = true ∧ form c ≠ [] ∧ ∀ d ∈ form c, isCased d = true)
    {mark : List Char} (uncased : ∀ c ∈ mark, isCased c = false) (cs : List Char) :
    startsWith mark (cs.flatMap form) = startsWith mark cs := by
  induction cs generalizing mark with
  | nil => rfl
  | cons c cs ih =>
      rw [List.flatMap_cons]
      cases mark with
      | nil => simp [startsWith]
      | cons w mark =>
          have later := ih fun d mem => uncased d (List.mem_cons_of_mem w mem)
          have plain := uncased w List.mem_cons_self
          rcases forms c with same | ⟨cased, nonempty, made⟩
          · simp [same, startsWith, later]
          · -- The mark stops at the letter, and at the first one of its form.
            obtain ⟨d, rest, letters⟩ := List.exists_cons_of_ne_nil nonempty
            have small : isCased d = true := made d (letters ▸ List.mem_cons_self)
            have other : (w == d) = false ∧ (w == c) = false := by
              constructor <;> refine beq_false_of_ne ?_ <;> rintro rfl <;> simp_all
            simp [letters, startsWith, other]

theorem startsWith_lower {mark : List Char} (uncased : ∀ c ∈ mark, isCased c = false)
    (cs : List Char) : startsWith mark (lower cs) = startsWith mark cs :=
  startsWith_flatMap lowerLetter_cases uncased cs

theorem startsWith_reverse_lower {mark : List Char} (uncased : ∀ c ∈ mark, isCased c = false)
    (cs : List Char) : startsWith mark (lower cs).reverse = startsWith mark cs.reverse := by
  rw [lower, List.reverse_flatMap]
  exact startsWith_flatMap (fun c => by simpa using lowerLetter_cases c) uncased cs.reverse

/-! ## The case of the letters -/

theorem lowerLetter_lowerAscii (c : Char) : lowerLetter (lowerAscii c) = lowerLetter c := by
  rcases lowerAscii_cases c with same | ⟨capital, small⟩
  · rw [same]
  · have still : lowerAscii (lowerAscii c) = lowerAscii c := by
      rcases lowerAscii_cases (lowerAscii c) with same | ⟨again, -⟩
      · exact same
      · omega
    rw [lowerLetter_of_ascii (by omega), lowerLetter_of_ascii (by omega), still]

theorem lower_map_lowerAscii (cs : List Char) : lower (cs.map lowerAscii) = lower cs := by
  rw [lower, List.flatMap_map, lower]
  exact congrArg (List.flatMap · cs) (funext lowerLetter_lowerAscii)

theorem trim_map_lowerAscii (cs : List Char) :
    trim (cs.map lowerAscii) = (trim cs).map lowerAscii := by
  have front (cs : List Char) : trimFront (cs.map lowerAscii) = (trimFront cs).map lowerAscii := by
    rw [trimFront, List.dropWhile_map, trimFront]
    exact congrArg (fun blank => (cs.dropWhile blank).map lowerAscii) (funext isBlank_lowerAscii)
  rw [trim, front, trimBack_eq, ← List.map_reverse, front, ← List.map_reverse, ← trimBack_eq, trim]

end SchemaOverlay.Text

namespace SchemaOverlay.DataKind

open Text

theorem normalized_of_sameIgnoringCase {left right : String}
    (same : sameIgnoringCase left right = true) :
    normalized left.toList = normalized right.toList := by
  have folded (cs : List Char) : normalized cs = lower (trim (cs.map lowerAscii)) := by
    rw [trim_map_lowerAscii, lower_map_lowerAscii, normalized]
  rw [folded, folded, (sameIgnoringCase_iff left right).mp same]

/-! ## Arrays -/

/-- The marks of an array stand in the name as it is written. -/
theorem isArray_lower (cs : List Char) : isArray (lower cs) =
    (startsWith "][".toList cs.reverse || cs.head? == some '_'
      || mentions (lower cs) "array") := by
  rw [isArray, startsWith_reverse_lower (by simp [isCased]), ← startsWith_singleton,
    startsWith_lower (by simp [isCased]), startsWith_singleton]

/-- Neither the case of the letters nor blanks around a name change the kind, whatever lower case
makes of the letters outside ASCII, and the marks of an array make a structure of the type whatever
else the name says. -/
theorem ofTypeName_spelling (name : String) :
    (∀ other, sameIgnoringCase name other = true → ofTypeName other = ofTypeName name) ∧
      (∀ front back : String, isAllBlank front.toList = true → isAllBlank back.toList = true →
        ofTypeName (front ++ name ++ back) = ofTypeName name) ∧
      ofTypeName (name ++ "[]") = .structured ∧
      ((name.toList.find? fun c => !isBlank c) = some '_' → ofTypeName name = .structured) ∧
      ∀ lowered, LowersTo (trim name.toList) lowered →
        ofTypeName name = if isArray lowered then .structured else ofBase (base lowered) := by
  refine ⟨fun other same => ?_, fun front back blank blanks => ?_, ?_, fun underscore => ?_,
    fun _ => ofTypeName_of_lowersTo⟩
  · rw [ofTypeName, ofTypeName, normalized_of_sameIgnoringCase same]
  · have written : (front ++ name ++ back).toList = front.toList ++ name.toList ++ back.toList := by
      simp
    rw [ofTypeName, ofTypeName, normalized, written,
      trim_append_of_blank _ (List.all_eq_true.mp blank) (List.all_eq_true.mp blanks), normalized]
  · have written : (name ++ "[]").toList = name.toList ++ "[]".toList := by simp
    have array : isArray (normalized (name ++ "[]").toList) = true := by
      rw [written, normalized, trim_append_of_isTight _ (by decide) (by decide), isArray_lower,
        List.reverse_append]
      rfl
    rw [ofTypeName, if_pos array]
  · have array : isArray (normalized name.toList) = true := by
      rw [normalized, isArray_lower, head?_trim, underscore]
      simp
    rw [ofTypeName, if_pos array]

/-- A name in two cases, with other blanks and as an array, an array by its underscore, and a name
that ends in a letter with two lower-case forms. -/
theorem ofTypeName_spelling_dates :
    sameIgnoringCase "Timestamp" "tIMEsTAMP" = true ∧ isAllBlank "\u00A0\t".toList = true ∧
      isAllBlank "\u2003".toList = true ∧
      ("\u3000 _Float8".toList.find? fun c => !isBlank c) = some '_' ∧
      LowersTo (trim "DATE\u03A3".toList) "date\u03C2".toList ∧
      ofTypeName "tIMEsTAMP" = .datetime ∧
      ofTypeName ("\u00A0\t" ++ "Timestamp" ++ "\u2003") = .datetime ∧
      ofTypeName ("Timestamp" ++ "[]") = .structured ∧
      ofTypeName "\u3000 _Float8" = .structured ∧ ofTypeName "DATE\u03A3" = .datetime := by
  have cased : sameIgnoringCase "Timestamp" "tIMEsTAMP" = true := by decide
  have front : isAllBlank "\u00A0\t".toList = true := by decide
  have back : isAllBlank "\u2003".toList = true := by decide
  have underscore : ("\u3000 _Float8".toList.find? fun c => !isBlank c) = some '_' := by decide
  have sigma : isForeign '\u03A3' = true ∧ lowerLetter '\u03A3' = ['\u03A3'] := by decide
  have form : ForeignRun ['\u03C2'] := ⟨by simp, by simp [isForeign, isBlank]⟩
  have final : LowersTo ['\u03A3'] ['\u03C2'] := .foreign sigma.1 sigma.2 form .nil
  have lowers : LowersTo (trim "DATE\u03A3".toList) "date\u03C2".toList :=
    .letter 'D' (.letter 'A' (.letter 'T' (.letter 'E' final)))
  have kind : ofTypeName "Timestamp" = .datetime := by decide
  obtain ⟨letters, blanks, array, -⟩ := ofTypeName_spelling "Timestamp"
  obtain ⟨-, -, -, float, -⟩ := ofTypeName_spelling "\u3000 _Float8"
  obtain ⟨-, -, -, -, forms⟩ := ofTypeName_spelling "DATE\u03A3"
  exact ⟨cased, front, back, underscore, lowers, (letters _ cased).trans kind,
    (blanks _ _ front back).trans kind, array, float underscore,
    (forms _ lowers).trans (by decide)⟩

/-! ## Modifiers -/

theorem forall_bne_of_not_mem {c : Char} {cs : List Char} (absent : c ∉ cs) :
    ∀ d ∈ cs, (d != c) = true := by
  intro d mem
  exact bne_iff_ne.mpr fun same => absent (same ▸ mem)

theorem base_of_not_mem {name : List Char} (absent : '(' ∉ name) : base name = trim name := by
  rw [base, ← List.append_nil name,
    List.takeWhile_append_of_pos (forall_bne_of_not_mem absent), List.takeWhile_nil]

/-- The base ends at the first parenthesis. -/
theorem base_append {front : List Char} (absent : '(' ∉ front) (back : List Char) :
    base (front ++ '(' :: back) = trim front := by
  rw [base, List.takeWhile_append_of_pos (forall_bne_of_not_mem absent),
    List.takeWhile_cons_of_neg (by simp), List.append_nil]

/-- A name with its blanks at the back, in lower case, is its normal form with those blanks. -/
theorem exists_lower_trimFront (cs : List Char) :
    ∃ back, lower (trimFront cs) = normalized cs ++ back ∧ ∀ c ∈ back, isBlank c = true := by
  obtain ⟨back, split, blank⟩ := exists_trimBack (trimFront cs)
  refine ⟨back, ?_, blank⟩
  rw [normalized, trim, ← lower_of_isBlank blank, ← lower_append, ← split]

theorem isArray_normalized {cs : List Char} (unbracketed : ¬ "[]".toList <:+ trim cs) :
    isArray (normalized cs) =
      ((trimFront cs).head? == some '_' || mentions (lower (trimFront cs)) "array") := by
  have mark : startsWith "][".toList (trim cs).reverse = false := by
    rw [Bool.eq_false_iff, Ne, startsWith_iff]
    intro marked
    exact unbracketed (List.reverse_prefix.mp (by simpa using marked))
  have head : (trimFront cs).head? = (trim cs).head? := by
    rw [head?_trim, head?_trimFront_eq_find?]
  have words : mentions (lower (trimFront cs)) "array" = mentions (normalized cs) "array" := by
    obtain ⟨back, split, blank⟩ := exists_lower_trimFront cs
    rw [split]
    refine holds_append_of_disjoint _ (by decide) fun c mem letter => ?_
    have solid : ∀ d ∈ "array".toList, isBlank d = false := by simp [isBlank]
    exact absurd (blank c mem) (by simp [solid c letter])
  rw [words, head, normalized, isArray_lower, mark, Bool.false_or]

/-- A modified name shows an array by its underscore or by the word alone. -/
theorem isArray_modified (front modifier : List Char) :
    isArray (lower (front ++ '(' :: (modifier ++ [')']))) =
      (front.head? == some '_' || mentions (lower front) "array"
        || mentions (lower modifier) "array") := by
  have pieces : lower (front ++ '(' :: (modifier ++ [')'])) =
      lower front ++ '(' :: (lower modifier ++ ')' :: []) := by
    rw [← List.singleton_append, lower_append, lower_append, lower_append]
    rfl
  have mentioned : mentions (lower front ++ '(' :: (lower modifier ++ ')' :: [])) "array" =
      (mentions (lower front) "array" || mentions (lower modifier) "array") := by
    rw [mentions, holds_append_of_not_mem (by decide), holds_append_of_not_mem (by decide),
      mentions, mentions]
    simp [holds]
  have head : ((front ++ '(' :: (modifier ++ [')'])).head? == some '_') =
      (front.head? == some '_') := by
    cases front <;> simp
  rw [isArray_lower, head, pieces, mentioned]
  simp [startsWith, Bool.or_assoc]

theorem base_modified {cs : List Char} (plain : '(' ∉ cs) (back : List Char) :
    base (lower (trimFront cs) ++ '(' :: back) = base (normalized cs) := by
  have front : '(' ∉ lower (trimFront cs) := by
    intro mem
    exact plain ((List.dropWhile_suffix isBlank).subset (mem_of_mem_lower mem (by decide)))
  obtain ⟨blanks, split, blank⟩ := exists_lower_trimFront cs
  have core : '(' ∉ normalized cs := by
    intro mem
    exact front (split ▸ List.mem_append_left blanks mem)
  rw [base_append front, base_of_not_mem core, split, ← List.nil_append (normalized cs),
    trim_append_of_blank _ (by simp) blank, List.nil_append]

theorem ofTypeName_append_modifier {name : String} (modifier : String)
    (plain : '(' ∉ name.toList) (unbracketed : ¬ "[]".toList <:+ trim name.toList) :
    ofTypeName (name ++ "(" ++ modifier ++ ")") =
      if mentions (lower modifier.toList) "array" then .structured else ofTypeName name := by
  have tight : isTight ('(' :: (modifier.toList ++ [')'])) = true := by
    rw [isTight, ← List.cons_append, List.getLast?_concat]
    rfl
  have full : normalized (name ++ "(" ++ modifier ++ ")").toList =
      lower (trimFront name.toList ++ '(' :: (modifier.toList ++ [')'])) := by
    have written : (name ++ "(" ++ modifier ++ ")").toList =
        name.toList ++ '(' :: (modifier.toList ++ [')']) := by simp
    rw [written, normalized, trim_append_of_isTight _ (by simp) tight]
  -- The blanks in front of the parenthesis are trimmed off the base, not off the name.
  have bases : base (lower (trimFront name.toList ++ '(' :: (modifier.toList ++ [')']))) =
      base (normalized name.toList) := by
    rw [lower_append]
    exact base_modified plain _
  rw [ofTypeName, ofTypeName, full, bases, isArray_modified, isArray_normalized unbracketed]
  cases mentions (lower modifier.toList) "array" <;> simp

/-- What stands in parentheses makes a structure of the type when it holds the word `array`, and
does not matter otherwise. -/
theorem modifier_matters_iff {name : String} (modifier : String) (plain : '(' ∉ name.toList)
    (unbracketed : ¬ "[]".toList <:+ trim name.toList) :
    ofTypeName (name ++ "(" ++ modifier ++ ")") =
        (if mentions (lower modifier.toList) "array" then .structured else ofTypeName name) ∧
      (ofTypeName (name ++ "(" ++ modifier ++ ")") ≠ ofTypeName name ↔
        mentions (lower modifier.toList) "array" = true ∧ ofTypeName name ≠ .structured) := by
  have kind := ofTypeName_append_modifier modifier plain unbracketed
  refine ⟨kind, ?_⟩
  rw [kind]
  cases mentions (lower modifier.toList) "array" with
  | false => simp
  | true => exact ⟨fun other => ⟨rfl, other.symm⟩, fun other => other.2.symm⟩

/-- Of two modifiers of one type, the one that holds the word makes a structure of it. -/
theorem modifier_matters_enum :
    '(' ∉ "Enum ".toList ∧ ¬ "[]".toList <:+ trim "Enum ".toList ∧
      ofTypeName ("Enum " ++ "(" ++ "'Arrays','list'" ++ ")") ≠ ofTypeName "Enum " ∧
      ofTypeName ("Enum " ++ "(" ++ "'arr','ay','int[]'" ++ ")") = ofTypeName "Enum " := by
  have plain : '(' ∉ "Enum ".toList := by decide
  have unbracketed : ¬ "[]".toList <:+ trim "Enum ".toList := by decide
  refine ⟨plain, unbracketed, ?_, ?_⟩
  · exact (modifier_matters_iff "'Arrays','list'" plain unbracketed).2.mpr (by decide)
  · rw [(modifier_matters_iff "'arr','ay','int[]'" plain unbracketed).1, if_neg (by decide)]

/-- The labels of an enumeration can make a structure of it. -/
theorem enum_label_decides :
    ¬ ∀ name modifier : String, '(' ∉ name.toList → ¬ "[]".toList <:+ trim name.toList →
      ofTypeName (name ++ "(" ++ modifier ++ ")") = ofTypeName name := by
  intro alike
  have enum := alike "enum" "'array','list'" (by decide) (by decide)
  revert enum
  decide

end SchemaOverlay.DataKind
