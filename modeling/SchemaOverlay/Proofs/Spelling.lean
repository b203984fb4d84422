import SchemaOverlay.Record.Fields

/-!
# Spellings that are read back

What is written for a string stands for that string, and stays one token up to
the quotation mark behind it.  What is written for an integer of 64 bits is a word
without needless zeros that stands for that integer.
-/

namespace SchemaOverlay.Json.Quoted

/-- The spellings that may stand between two quotation marks. -/
inductive Legible : List Char → Prop where
  | nil : Legible []
  | plain {c : Char} {rest : List Char} : c ≠ '"' → c ≠ '\\' → 0x20 ≤ c.toNat →
      Legible rest → Legible (c :: rest)
  | short {name : Char} {rest : List Char} : Token.isShortEscape name = true →
      Legible rest → Legible ('\\' :: name :: rest)
  | hex {a b c d : Char} {rest : List Char} :
      (∀ digit ∈ [a, b, c, d], Text.isHexDigit digit = true) →
      Legible rest → Legible ('\\' :: 'u' :: a :: b :: c :: d :: rest)

/-- A letter that names a character may stand behind a backslash, and stands for its code. -/
theorem namedCode?_of_shortName? {c name : Char} (named : shortName? c = some name) :
    Token.isShortEscape name = true ∧ namedCode? name = some c.toNat := by
  unfold shortName? at named
  repeat' split at named
  all_goals
    first
    | cases named
      subst c
      decide
    | cases named

/-- A character that has no short name is neither of the two that end or begin something. -/
theorem ne_of_shortName?_eq_none {c : Char} (unnamed : shortName? c = none) :
    c ≠ '"' ∧ c ≠ '\\' := by
  constructor <;> rintro rfl <;> simp [shortName?] at unnamed

/-- The digits of codes are hexadecimal digits. -/
theorem isHexDigit_hexDigit {n : Nat} (small : n < 16) :
    Text.isHexDigit (Text.hexDigit n) = true := by
  have digits : ∀ n < 16, Text.isHexDigit (Text.hexDigit n) = true := by decide
  exact digits n small

theorem Legible.encodeChar_append (c : Char) {rest : List Char} (legible : Legible rest) :
    Legible (encodeChar c ++ rest) := by
  unfold encodeChar
  cases named : shortName? c with
  | some name => exact .short (namedCode?_of_shortName? named).1 legible
  | none =>
    obtain ⟨quote, backslash⟩ := ne_of_shortName?_eq_none named
    by_cases control : c.toNat < 0x20
    · simp only [control, if_true]
      refine .hex ?_ legible
      have zero : Text.isHexDigit '0' = true := by decide
      have high : Text.isHexDigit (Text.hexDigit (c.toNat / 16)) = true :=
        isHexDigit_hexDigit (by omega)
      have low : Text.isHexDigit (Text.hexDigit (c.toNat % 16)) = true :=
        isHexDigit_hexDigit (by omega)
      simp [zero, high, low]
    · simp only [control, if_false]
      exact .plain quote backslash (by omega) legible

/-- What is written for a text may stand between two quotation marks. -/
theorem legible_encode (text : List Char) : Legible (encode text) := by
  induction text with
  | nil => exact .nil
  | cons c text ih => exact ih.encodeChar_append c

theorem codes?_plain {c : Char} (backslash : c ≠ '\\') (rest : List Char) :
    codes? (c :: rest) = (codes? rest).map (c.toNat :: ·) := by
  rw [codes?]
  all_goals simp [backslash]

theorem codes?_short {name : Char} {code : Nat} (named : namedCode? name = some code)
    (rest : List Char) : codes? ('\\' :: name :: rest) = (codes? rest).map (code :: ·) := by
  have mark : name ≠ 'u' := by rintro rfl; simp [namedCode?] at named
  rw [codes?]
  · simp [named]
  · simp [mark]

/-- What is written for a character stands for its code. -/
theorem codes?_encodeChar_append (c : Char) (rest : List Char) :
    codes? (encodeChar c ++ rest) = (codes? rest).map (c.toNat :: ·) := by
  unfold encodeChar
  cases named : shortName? c with
  | some name => exact codes?_short (namedCode?_of_shortName? named).2 rest
  | none =>
    by_cases control : c.toNat < 0x20
    · have value : [('0' : Char), '0', Text.hexDigit (c.toNat / 16),
          Text.hexDigit (c.toNat % 16)].foldl (fun code digit => 16 * code + Text.hexValue digit) 0
            = c.toNat := by
        have zero : Text.hexValue '0' = 0 := by decide
        simp only [List.foldl_cons, List.foldl_nil, zero,
          Text.hexValue_hexDigit (show c.toNat / 16 < 16 by omega),
          Text.hexValue_hexDigit (show c.toNat % 16 < 16 by omega)]
        omega
      simp only [control, if_true, List.cons_append, List.nil_append, codes?, value]
    · simp only [control, if_false]
      exact codes?_plain (ne_of_shortName?_eq_none named).2 rest

theorem codes?_encode (text : List Char) : codes? (encode text) = some (text.map Char.toNat) := by
  induction text with
  | nil => rfl
  | cons c text ih =>
    calc codes? (encode (c :: text))
        = (codes? (encode text)).map (c.toNat :: ·) := codes?_encodeChar_append c (encode text)
      _ = some ((c :: text).map Char.toNat) := by simp [ih]

/-- The code of a character is no half of a surrogate pair. -/
theorem not_surrogate (c : Char) :
    isHighSurrogate c.toNat = false ∧ isLowSurrogate c.toNat = false := by
  have valid : c.toNat < 0xD800 ∨ 0xDFFF < c.toNat ∧ c.toNat < 0x110000 := c.valid
  constructor
  · simp [isHighSurrogate]; omega
  · simp [isLowSurrogate]; omega

theorem join?_codes (text : List Char) : join? (text.map Char.toNat) = some text := by
  induction text with
  | nil => rfl
  | cons c text ih =>
    obtain ⟨high, low⟩ := not_surrogate c
    rw [List.map_cons, join?.eq_def]
    simp [high, low, ih]

/-- A text is read back from what is written for it. -/
@[simp] theorem decode?_encode (text : List Char) :
    decode? (encode text) = some (String.ofList text) := by
  simp [decode?, codes?_encode, join?_codes]

end SchemaOverlay.Json.Quoted

namespace SchemaOverlay

namespace NumberLiteral

theorem digit?_of_isDigit {c : Char} (digit : c.isDigit = true) :
    digit? c = some (c.toNat - 48) := by
  obtain ⟨lower, upper⟩ := Char.isDigit_iff_toNat.mp digit
  exact if_pos ⟨lower, upper⟩

/-- A row of digits is taken to its end. -/
theorem takeDigits_of_isDigit {cs : List Char} (digits : ∀ c ∈ cs, c.isDigit = true) :
    takeDigits cs = (cs.map fun c => c.toNat - 48, []) := by
  induction cs with
  | nil => rfl
  | cons c cs ih =>
    have rest := ih fun d member => digits d (List.mem_cons_of_mem c member)
    simp [takeDigits, digit?_of_isDigit (digits c List.mem_cons_self), rest]

/-- A text of digits alone is a literal without a fraction and an exponent. -/
theorem unsigned?_of_takeDigits {negative : Bool} {cs : List Char} {first : Nat} {rest : List Nat}
    (taken : takeDigits cs = (first :: rest, [])) (lead : first = 0 → rest = []) :
    unsigned? negative cs = some ⟨negative, first :: rest, none, none⟩ := by
  unfold unsigned?
  rw [taken]
  cases first with
  | zero => rw [lead rfl]; rfl
  | succ digit => rfl

end NumberLiteral

namespace Number

/-- Decimal digits are digits. -/
theorem isDigit_of_mem_natDigits {n : Nat} {c : Char} (member : c ∈ natDigits n) :
    c.isDigit = true :=
  Nat.isDigit_of_mem_toDigits (by decide) (by decide) member

/-- A number of more than one digit does not begin with a zero. -/
theorem natDigits_eq_zero_cons {n : Nat} {rest : List Char} (zero : natDigits n = '0' :: rest) :
    rest = [] := by
  induction n using Nat.strongRecOn generalizing rest with
  | ind n ih =>
    by_cases small : n < 10
    · rw [natDigits, Nat.toDigits_of_lt_base small] at zero
      exact (List.cons.inj zero).2.symm
    -- The digits in front of the last one would be a single zero, and the number below ten.
    · rw [natDigits, Nat.toDigits_of_base_le (by decide) (by omega)] at zero
      cases front : natDigits (n / 10) with
      | nil => exact absurd front Nat.toDigits_ne_nil
      | cons first others =>
        rw [← natDigits, front] at zero
        obtain ⟨rfl, -⟩ := List.cons.inj zero
        obtain rfl := ih (n / 10) (by omega) front
        have value : n / 10 = 0 := by
          rw [← Nat.ofDigitChars_ten_toDigits (n := n / 10), ← natDigits, front]
          rfl
        omega

theorem ofDigits_natDigits (n : Nat) :
    NumberLiteral.ofDigits ((natDigits n).map fun c => c.toNat - 48) = n := by
  have value := Nat.ofDigitChars_ten_toDigits (n := n)
  rw [Nat.ofDigitChars_eq_foldl] at value
  rw [NumberLiteral.ofDigits, List.foldl_map]
  exact value

/-- The digits of a number are a literal without a fraction and an exponent, whatever its sign. -/
theorem unsigned?_natDigits (negative : Bool) (n : Nat) :
    NumberLiteral.unsigned? negative (natDigits n) =
      some ⟨negative, (natDigits n).map fun c => c.toNat - 48, none, none⟩ := by
  have taken := NumberLiteral.takeDigits_of_isDigit fun c => isDigit_of_mem_natDigits (n := n)
  cases spelling : natDigits n with
  | nil => exact absurd spelling Nat.toDigits_ne_nil
  | cons first rest =>
    have digit : first.isDigit = true :=
      isDigit_of_mem_natDigits (n := n) (spelling ▸ List.mem_cons_self)
    have lead : first.toNat - 48 = 0 → (rest.map fun c => c.toNat - 48) = [] := by
      intro zero
      have lower : 48 ≤ first.toNat := (Char.isDigit_iff_toNat.mp digit).1
      obtain rfl : first = '0' := Char.toNat_inj.mp (show first.toNat = 48 by omega)
      rw [natDigits_eq_zero_cons spelling, List.map_nil]
    rw [spelling, List.map_cons] at taken
    exact NumberLiteral.unsigned?_of_takeDigits taken lead

/-- The text of an integer is a literal of its sign and its digits. -/
theorem ofChars?_integerText (value : Int) :
    NumberLiteral.ofChars? (integerText value) =
      some ⟨value < 0, (natDigits value.natAbs).map fun c => c.toNat - 48, none, none⟩ := by
  unfold integerText
  split
  next below => simpa [NumberLiteral.ofChars?, below] using unsigned?_natDigits true value.natAbs
  next above =>
    have sign : ∀ rest, natDigits value.natAbs ≠ '-' :: rest := by
      intro rest spelling
      have digit : '-'.isDigit = true :=
        isDigit_of_mem_natDigits (n := value.natAbs) (spelling ▸ List.mem_cons_self)
      exact absurd digit (by decide)
    rw [NumberLiteral.ofChars?]
    · simpa [above] using unsigned?_natDigits false value.natAbs
    · exact sign

theorem integerText_natCast (n : Nat) : integerText n = natDigits n :=
  if_neg (by omega)

theorem fitsWord_natCast {n : Nat} (fits : n < UInt64.size) : fitsWord n = true := by
  have unsigned : Int.pow 2 64 = 18446744073709551616 := by decide
  have signed : Int.pow 2 63 = 9223372036854775808 := by decide
  have bound : n < 18446744073709551616 := fits
  rw [fitsWord, unsigned, signed, Bool.and_eq_true, decide_eq_true_eq, decide_eq_true_eq]
  omega

/-- A whole literal that fits a word is an integer, unless it is the negative zero. -/
theorem ofLiteral?_of_isWhole {literal : NumberLiteral} (whole : literal.isWhole = true)
    (fits : fitsWord literal.wholeValue = true)
    (signed : literal.negative = true → literal.wholeValue ≠ 0) :
    ofLiteral? literal = some (.integer literal.wholeValue) := by
  rw [ofLiteral?, if_pos]
  by_cases negative : literal.negative = true
  · simp [whole, fits, signed negative]
  · simp [whole, fits, negative]

/-- An integer that fits a word is read back from its text. -/
theorem ofChars?_integerText_of_fits {value : Int} (fits : fitsWord value = true) :
    Number.ofChars? (integerText value) = some (.integer value) := by
  have same : NumberLiteral.wholeValue
      ⟨value < 0, (natDigits value.natAbs).map fun c => c.toNat - 48, none, none⟩ = value := by
    rw [NumberLiteral.wholeValue, ofDigits_natDigits]
    by_cases below : value < 0
    · rw [if_pos (by simpa using below)]
      omega
    · rw [if_neg (by simpa using below)]
      omega
  have signed : decide (value < 0) = true → value ≠ 0 := by
    intro below
    exact Int.ne_of_lt (of_decide_eq_true below)
  rw [Number.ofChars?, ofChars?_integerText, Option.bind_some,
    ofLiteral?_of_isWhole rfl (by rw [same, fits]) (by rw [same]; exact signed), same]

/-- A number of 64 bits is read back from its digits. -/
theorem ofChars?_natDigits_of_lt {n : Nat} (fits : n < UInt64.size) :
    Number.ofChars? (natDigits n) = some (.integer n) := by
  rw [← integerText_natCast, ofChars?_integerText_of_fits (fitsWord_natCast fits)]

end Number

namespace Json.Tree

/-- The text of an integer is no name. -/
theorem ofWord?_integerText (value : Int) :
    ofWord? (Number.integerText value) = some (.number (Number.integerText value)) := by
  have literal := Number.ofChars?_integerText value
  have other {name : List Char} (unread : NumberLiteral.ofChars? name = none) :
      Number.integerText value ≠ name := by
    rintro rfl
    rw [unread] at literal
    cases literal
  have null : Number.integerText value ≠ "null".toList := other (by decide)
  have true : Number.integerText value ≠ "true".toList := other (by decide)
  have false : Number.integerText value ≠ "false".toList := other (by decide)
  rw [ofWord?, if_neg null, if_neg true, if_neg false, literal]
  rfl

@[simp] theorem text?_ofString (text : String) : text? (.ofString text) = some text := by
  simp [text?, ofString]

@[simp] theorem word?_ofNat (word : UInt64) : word? (.ofNat word.toNat) = some word := by
  have value := Number.ofChars?_natDigits_of_lt word.toNat_lt_size
  simp [word?, ofNat, value]

end Json.Tree

end SchemaOverlay
