import Mathlib.Data.List.Forall2
import SchemaOverlay.Proofs.Spelling

/-!
# Texts that are read back

A text lays out a list of tokens when it spells one after the other, with any
blanks in between and no word running into another.  Such a text is cut into
these tokens, and the tokens of a tree are read as that tree.  Both ways of
writing a tree lay out its tokens, so that the tree is read back from either.
-/

namespace SchemaOverlay.Json

/-! ## From texts to tokens -/

/-- Whether a word that stands before the text ends there. -/
def EndsWord (text : List Char) : Prop :=
  ∀ c ∈ text.head?, Token.isWordChar c = false

variable {text : List Char}

theorem endsWord_nil : EndsWord [] := by simp [EndsWord]

theorem endsWord_cons {c : Char} (ends : Token.isWordChar c = false) (text : List Char) :
    EndsWord (c :: text) := by
  simpa [EndsWord] using ends

/-- A text that spells the tokens in their order. -/
inductive Layout : List Token → List Char → Prop where
  | done : Layout [] []
  | blank {c : Char} {tokens : List Token} {text : List Char} : Token.isSpace c = true →
      Layout tokens text → Layout tokens (c :: text)
  | mark {c : Char} {token : Token} {tokens : List Token} {text : List Char} :
      Token.punctuation? c = some token → Layout tokens text → Layout (token :: tokens) (c :: text)
  | string {spelling : List Char} {tokens : List Token} {text : List Char} :
      Quoted.Legible spelling → Layout tokens text →
      Layout (.string spelling :: tokens) (Tree.quoted spelling ++ text)
  | word {c : Char} {spelling : List Char} {tokens : List Token} {text : List Char} :
      (∀ d ∈ c :: spelling, Token.isWordChar d = true) → EndsWord text → Layout tokens text →
      Layout (.word (c :: spelling) :: tokens) (c :: (spelling ++ text))

namespace Token

theorem isWordChar_of_isSpace {c : Char} (space : isSpace c = true) : isWordChar c = false := by
  simp only [isSpace, Bool.or_eq_true, beq_iff_eq] at space
  obtain ((rfl | rfl) | rfl) | rfl := space <;> decide

theorem isWordChar_of_punctuation? {c : Char} {token : Token}
    (mark : punctuation? c = some token) : isWordChar c = false := by
  unfold punctuation? at mark
  split at mark <;> first | decide | cases mark

end Token

namespace Lexer

/-- The tokens of a text, read on from some place. -/
def run? (lexer : Lexer) (text : List Char) : Option (List Token) :=
  (text.foldlM step lexer).bind finish

theorem run?_append {lexer next : Lexer} {part : List Char}
    (stepped : part.foldlM step lexer = some next) (text : List Char) :
    lexer.run? (part ++ text) = next.run? text := by
  simp [run?, stepped]

theorem run?_cons {lexer next : Lexer} {c : Char} (stepped : lexer.step c = some next)
    (text : List Char) : lexer.run? (c :: text) = next.run? text := by
  simp [run?, stepped]

/-- A spelling that stands between quotation marks is kept as it is. -/
theorem foldlM_inString {spelling : List Char} (legible : Quoted.Legible spelling)
    (front : List Token) (back : List Char) :
    spelling.foldlM step ⟨front, .inString back⟩ =
      some ⟨front, .inString (spelling.reverse ++ back)⟩ := by
  induction legible generalizing back with
  | nil => rfl
  | plain quote backslash printable legible ih =>
    simp [step, quote, backslash, Nat.not_lt.mpr printable, ih]
  | @short name rest escape legible ih =>
    have mark : name ≠ 'u' := by rintro rfl; exact absurd escape (by decide)
    simp [step, mark, escape, ih]
  | hex digits legible ih =>
    simp only [List.mem_cons, List.not_mem_nil, or_false, forall_eq_or_imp, forall_eq] at digits
    simp [step, digits, ih]

/-- The characters of a word are kept as they are. -/
theorem foldlM_inWord {spelling : List Char} (word : ∀ c ∈ spelling, Token.isWordChar c = true)
    (front : List Token) (back : List Char) :
    spelling.foldlM step ⟨front, .inWord back⟩ =
      some ⟨front, .inWord (spelling.reverse ++ back)⟩ := by
  induction spelling generalizing back with
  | nil => rfl
  | cons c spelling ih =>
    have rest := ih fun d member => word d (List.mem_cons_of_mem c member)
    simp [step, word c List.mem_cons_self, rest]

/-- A word ends where something else follows. -/
theorem run?_of_endsWord (ends : EndsWord text) (front : List Token) (back : List Char) :
    run? ⟨front, .inWord back⟩ text = run? ⟨.word back.reverse :: front, .between⟩ text := by
  cases text with
  | nil => rfl
  | cons c text =>
    have plain : Token.isWordChar c = false := ends c rfl
    have same : step ⟨front, .inWord back⟩ c = step ⟨.word back.reverse :: front, .between⟩ c := by
      simp [step, plain]
    simp [run?, same]

/-- A mark is neither a blank nor a quotation mark nor part of a word. -/
theorem step_of_punctuation? {c : Char} {token : Token}
    (mark : Token.punctuation? c = some token) (front : List Token) :
    step ⟨front, .between⟩ c = some ⟨token :: front, .between⟩ := by
  unfold Token.punctuation? at mark
  split at mark <;> first | (cases mark; rfl) | cases mark

/-- The first character of a word begins it. -/
theorem step_of_isWordChar {c : Char} (word : Token.isWordChar c = true) (front : List Token) :
    step ⟨front, .between⟩ c = some ⟨front, .inWord [c]⟩ := by
  have quote : c ≠ '"' := by rintro rfl; exact absurd word (by decide)
  have space : Token.isSpace c = false := by
    rw [Bool.eq_false_iff]
    intro space
    simp [Token.isWordChar_of_isSpace space] at word
  simp [step, begin, quote, space, word]

/-- What a text lays out is found behind the tokens that are there already. -/
theorem run?_of_layout {tokens : List Token} (layout : Layout tokens text) (front : List Token) :
    run? ⟨front, .between⟩ text = some (front.reverse ++ tokens) := by
  induction layout generalizing front with
  | done => simp [run?, finish]
  | @blank c tokens text space layout ih =>
    have stepped : step ⟨front, .between⟩ c = some ⟨front, .between⟩ := by
      simp only [step, begin, space, if_true]
    rw [run?_cons stepped, ih]
  | mark mark layout ih =>
    rw [run?_cons (step_of_punctuation? mark front), ih]
    simp
  | @string spelling tokens text legible layout ih =>
    have text_eq : Tree.quoted spelling ++ text = '"' :: (spelling ++ '"' :: text) := by
      simp [Tree.quoted]
    have opened : step ⟨front, .between⟩ '"' = some ⟨front, .inString []⟩ := rfl
    have closed : step ⟨front, .inString (spelling.reverse ++ [])⟩ '"' =
        some ⟨.string spelling :: front, .between⟩ := by simp [step]
    rw [text_eq, run?_cons opened, run?_append (foldlM_inString legible front []),
      run?_cons closed, ih]
    simp
  | @word c spelling tokens text word ends layout ih =>
    have rest := fun d member => word d (List.mem_cons_of_mem c member)
    rw [run?_cons (step_of_isWordChar (word c List.mem_cons_self) front),
      run?_append (foldlM_inWord rest front [c]), run?_of_endsWord ends, ih]
    simp

end Lexer

/-- A text is cut into the tokens that it lays out. -/
theorem tokens?_of_layout {tokens : List Token} (layout : Layout tokens text) :
    tokens? text = some tokens :=
  Lexer.run?_of_layout layout []

/-! ## From tokens to trees -/

namespace Tree

/-- The lists of tokens with a comma between them. -/
def commas : List (List Token) → List Token
  | [] => []
  | [part] => part
  | part :: rest => part ++ .comma :: commas rest

theorem commas_cons (part : List Token) (parts : List (List Token)) :
    ∃ rest, commas (part :: parts) = part ++ rest := by
  cases parts with
  | nil => exact ⟨[], (List.append_nil part).symm⟩
  | cons next parts => exact ⟨_, rfl⟩

mutual
/-- What is read for a tree. -/
def tokens : Tree → List Token
  | .null => [.word "null".toList]
  | .bool value => [.word (if value then "true".toList else "false".toList)]
  | .number spelling => [.word spelling]
  | .string spelling => [.string spelling]
  | .array items => .openBracket :: (commas (itemTokens items) ++ [.closeBracket])
  | .object fields => .openBrace :: (commas (fieldTokens fields) ++ [.closeBrace])

def itemTokens : List Tree → List (List Token)
  | [] => []
  | item :: items => tokens item :: itemTokens items

def fieldTokens : List (List Char × Tree) → List (List Token)
  | [] => []
  | (key, tree) :: fields => (.string key :: .colon :: tokens tree) :: fieldTokens fields
end

/-- The trees that a text can spell: their leaves are the tokens that they are read from. -/
inductive Legible : Tree → Prop where
  | null : Legible .null
  | bool (value : Bool) : Legible (.bool value)
  | number {c : Char} {spelling : List Char} :
      (∀ d ∈ c :: spelling, Token.isWordChar d = true) →
      ofWord? (c :: spelling) = some (.number (c :: spelling)) → Legible (.number (c :: spelling))
  | string {spelling : List Char} : Quoted.Legible spelling → Legible (.string spelling)
  | array {items : List Tree} : (∀ item ∈ items, Legible item) → Legible (.array items)
  | object {fields : List (List Char × Tree)} : (∀ field ∈ fields, Quoted.Legible field.1) →
      (∀ field ∈ fields, Legible field.2) → Legible (.object fields)

end Tree

namespace Reader

open Json.Tree (commas itemTokens fieldTokens)

/-- The first item of an array is read like any other. -/
theorem foldlM_items_eq_value (tree : Tree) (rest : List Token) (frames : List Frame) :
    (tree.tokens ++ rest).foldlM step (.items frames) =
      (tree.tokens ++ rest).foldlM step (.value (.array [] :: frames)) := by
  cases tree <;> rfl

/-- The items of an array are read up to its end, as long as each of them is. -/
theorem foldlM_itemTokens {item : Tree} {items : List Tree}
    (read : ∀ tree ∈ item :: items, ∀ frames,
      tree.tokens.foldlM step (.value frames) = some (.after tree frames))
    (front : List Tree) (frames : List Frame) :
    (commas (itemTokens (item :: items)) ++ [Token.closeBracket]).foldlM step
        (.value (.array front :: frames)) =
      some (.after (.array (front.reverse ++ item :: items)) frames) := by
  induction items generalizing item front with
  | nil => simp [itemTokens, commas, read, step]
  | cons next items ih =>
    have later := ih (fun tree member => read tree (List.mem_cons_of_mem item member))
      (item :: front)
    have first := read item List.mem_cons_self (.array front :: frames)
    simpa [itemTokens, commas, first, step] using later

/-- The fields of an object are read up to its end, as long as each of their trees is. -/
theorem foldlM_fieldTokens {field : List Char × Tree} {fields : List (List Char × Tree)}
    (read : ∀ other ∈ field :: fields, ∀ frames,
      other.2.tokens.foldlM step (.value frames) = some (.after other.2 frames))
    (front : List (List Char × Tree)) (mayClose : Bool) (frames : List Frame) :
    (commas (fieldTokens (field :: fields)) ++ [Token.closeBrace]).foldlM step
        (.key front mayClose frames) =
      some (.after (.object (front.reverse ++ field :: fields)) frames) := by
  induction fields generalizing field front mayClose with
  | nil => simp [fieldTokens, commas, read, step]
  | cons next fields ih =>
    have later := ih (fun other member => read other (List.mem_cons_of_mem field member))
      (field :: front) false
    have first := read field List.mem_cons_self (.member front field.1 :: frames)
    simpa [fieldTokens, commas, first, step] using later

/-- A tree is read from its tokens, whatever stands around it. -/
theorem foldlM_tokens {tree : Tree} (legible : tree.Legible) (frames : List Frame) :
    tree.tokens.foldlM step (.value frames) = some (.after tree frames) := by
  induction legible generalizing frames with
  | null => rfl
  | bool value => cases value <;> rfl
  | number word spelled => simp [Tree.tokens, step, begin, spelled]
  | string legible => rfl
  | @array items legible ih =>
    cases items with
    | nil => rfl
    | cons item items =>
      have read := foldlM_itemTokens ih [] frames
      -- Behind the opening bracket the array may still turn out empty; the first token of an item
      -- settles that.
      obtain ⟨rest, head⟩ := Tree.commas_cons item.tokens (itemTokens items)
      rw [← itemTokens] at head
      rw [head, List.append_assoc, ← foldlM_items_eq_value, ← List.append_assoc, ← head] at read
      exact read
  | @object fields keys legible ih =>
    cases fields with
    | nil => rfl
    | cons field fields => exact foldlM_fieldTokens ih [] true frames

end Reader

/-! ## From trees to texts -/

/-- A part that spells the tokens wherever a word may end behind it. -/
structure Spells (tokens : List Token) (part : List Char) : Prop where
  layout : ∀ {rest : List Token} {text : List Char}, EndsWord text → Layout rest text →
    Layout (tokens ++ rest) (part ++ text)

/-- Whether there are only blanks in the part. -/
def IsGap (gap : List Char) : Prop := ∀ c ∈ gap, Token.isSpace c = true

namespace IsGap

variable {gap : List Char}

theorem layout (blank : IsGap gap) {tokens : List Token} (layout : Layout tokens text) :
    Layout tokens (gap ++ text) := by
  induction gap with
  | nil => exact layout
  | cons c gap ih =>
    have later := ih fun d member => blank d (List.mem_cons_of_mem c member)
    exact .blank (blank c List.mem_cons_self) later

theorem endsWord (blank : IsGap gap) (ends : EndsWord text) : EndsWord (gap ++ text) := by
  cases gap with
  | nil => exact ends
  | cons c gap =>
    exact endsWord_cons (Token.isWordChar_of_isSpace (blank c List.mem_cons_self)) (gap ++ text)

end IsGap

namespace Spells

variable {tokens : List Token} {part gap front back : List Char}

theorem string {spelling : List Char} (legible : Quoted.Legible spelling) :
    Spells [.string spelling] (Tree.quoted spelling) :=
  ⟨fun _ layout => .string legible layout⟩

theorem word {c : Char} {spelling : List Char}
    (word : ∀ d ∈ c :: spelling, Token.isWordChar d = true) :
    Spells [.word (c :: spelling)] (c :: spelling) :=
  ⟨fun ends layout => .word word ends layout⟩

theorem nil : Spells [] [] := ⟨fun _ layout => layout⟩

/-- A key, a colon and what stands for its tree. -/
theorem member {key : List Char} (legible : Quoted.Legible key) (blank : IsGap gap)
    (spelled : Spells tokens part) :
    Spells (.string key :: .colon :: tokens) (Tree.quoted key ++ ':' :: (gap ++ part)) := by
  refine ⟨fun ends layout => ?_⟩
  have value := blank.layout (spelled.layout ends layout)
  have colon := Layout.mark (show Token.punctuation? ':' = some .colon from rfl) value
  simpa using Layout.string legible colon

/-- Parts with commas and blanks between them. -/
theorem separated {lists : List (List Token)} {parts : List (List Char)} (blank : IsGap gap)
    (spelled : List.Forall₂ Spells lists parts) :
    Spells (Tree.commas lists) (Tree.separated (',' :: gap) parts) := by
  induction spelled with
  | nil => exact .nil
  | @cons tokens part lists parts first others ih =>
    cases others with
    | nil => exact first
    | cons second others =>
      -- A word at the end of the first part ends at the comma.
      refine ⟨fun ends layout => ?_⟩
      have later := Layout.mark (show Token.punctuation? ',' = some .comma from rfl)
        (blank.layout (ih.layout ends layout))
      simpa [Tree.commas, Tree.separated] using first.layout (endsWord_cons (by decide) _) later

/-- Brackets around a part, with blanks inside. -/
theorem bracketed (opening closing : Char) {first last : Token}
    (opens : Token.punctuation? opening = some first)
    (closes : Token.punctuation? closing = some last)
    (blankFront : IsGap front) (blankBack : IsGap back) (spelled : Spells tokens part) :
    Spells (first :: (tokens ++ [last])) (opening :: (front ++ part ++ back ++ [closing])) := by
  refine ⟨fun {rest text} ends layout => ?_⟩
  have closed := Layout.mark closes layout
  have ended := blankBack.endsWord (endsWord_cons (Token.isWordChar_of_punctuation? closes) text)
  have inside := blankFront.layout (spelled.layout ended (blankBack.layout closed))
  simpa using Layout.mark opens inside

end Spells

namespace Tree

variable {tree : Tree}

theorem itemTokens_eq_map (items : List Tree) : itemTokens items = items.map tokens := by
  induction items with
  | nil => rfl
  | cons item items ih => rw [itemTokens, ih, List.map_cons]

theorem fieldTokens_eq_map (fields : List (List Char × Tree)) :
    fieldTokens fields = fields.map fun field => .string field.1 :: .colon :: field.2.tokens := by
  induction fields with
  | nil => rfl
  | cons field fields ih => rw [fieldTokens, ih, List.map_cons]

theorem compactItems_eq_map (items : List Tree) : compactItems items = items.map compact := by
  induction items with
  | nil => rfl
  | cons item items ih => rw [compactItems, ih, List.map_cons]

theorem compactFields_eq_map (fields : List (List Char × Tree)) :
    compactFields fields = fields.map fun field => quoted field.1 ++ ':' :: field.2.compact := by
  induction fields with
  | nil => rfl
  | cons field fields ih => rw [compactFields, ih, List.map_cons]

theorem indentedItems_eq_map (level : Nat) (items : List Tree) :
    indentedItems level items = items.map (indented level) := by
  induction items with
  | nil => rfl
  | cons item items ih => rw [indentedItems, ih, List.map_cons]

theorem indentedFields_eq_map (level : Nat) (fields : List (List Char × Tree)) :
    indentedFields level fields =
      fields.map fun field => quoted field.1 ++ ':' :: ' ' :: field.2.indented level := by
  induction fields with
  | nil => rfl
  | cons field fields ih => rw [indentedFields, ih, List.map_cons]

theorem isGap_nil : IsGap [] := by simp [IsGap]

theorem isGap_blank : IsGap [' '] := List.all_eq_true.mp rfl

theorem isGap_newLine (level : Nat) : IsGap (newLine level) := by
  intro c member
  obtain rfl | ⟨-, rfl⟩ : c = '\n' ∨ _ ∧ c = ' ' := by
    simpa [newLine, List.mem_replicate] using member
  · decide
  · decide

/-- The compact text of a tree spells its tokens. -/
theorem spells_compact (legible : tree.Legible) : Spells tree.tokens tree.compact := by
  induction legible with
  | null => exact Spells.word (List.all_eq_true.mp rfl)
  | bool value => cases value <;> exact Spells.word (List.all_eq_true.mp rfl)
  | number word spelled => exact Spells.word word
  | string legible => exact Spells.string legible
  | @array items legible ih =>
    have spelled : List.Forall₂ Spells (itemTokens items) (compactItems items) := by
      simpa [itemTokens_eq_map, compactItems_eq_map] using ih
    have inside := Spells.separated isGap_nil spelled
    have bracketed := Spells.bracketed '[' ']' rfl rfl isGap_nil isGap_nil inside
    simpa [tokens, compact] using bracketed
  | @object fields keys legible ih =>
    have spelled : List.Forall₂ Spells (fieldTokens fields) (compactFields fields) := by
      rw [fieldTokens_eq_map, compactFields_eq_map, List.forall₂_map_left_iff,
        List.forall₂_map_right_iff, List.forall₂_same]
      exact fun field member => Spells.member (keys field member) isGap_nil (ih field member)
    have inside := Spells.separated isGap_nil spelled
    have bracketed := Spells.bracketed '\x7b' '\x7d' rfl rfl isGap_nil isGap_nil inside
    simpa [tokens, compact] using bracketed

/-- Parts on lines of their own between brackets. -/
theorem spells_block (opening closing : Char) {first last : Token}
    {lists : List (List Token)} {parts : List (List Char)}
    (opens : Token.punctuation? opening = some first)
    (closes : Token.punctuation? closing = some last) (level : Nat)
    (spelled : List.Forall₂ Spells lists parts) :
    Spells (first :: (commas lists ++ [last])) (block level opening closing parts) := by
  cases spelled with
  | nil => exact Spells.bracketed opening closing opens closes isGap_nil isGap_nil .nil
  | cons head others =>
    have inside := Spells.separated (isGap_newLine (level + 1)) (.cons head others)
    exact Spells.bracketed opening closing opens closes (isGap_newLine (level + 1))
      (isGap_newLine level) inside

/-- The indented text of a tree spells its tokens, too. -/
theorem spells_indented (legible : tree.Legible) (level : Nat) :
    Spells tree.tokens (tree.indented level) := by
  induction legible generalizing level with
  | null => exact spells_compact .null
  | bool value => exact spells_compact (.bool value)
  | number word spelled => exact spells_compact (.number word spelled)
  | string legible => exact spells_compact (.string legible)
  | @array items legible ih =>
    have spelled : List.Forall₂ Spells (itemTokens items) (indentedItems (level + 1) items) := by
      rw [itemTokens_eq_map, indentedItems_eq_map, List.forall₂_map_left_iff,
        List.forall₂_map_right_iff, List.forall₂_same]
      exact fun item member => ih item member (level + 1)
    exact spells_block '[' ']' rfl rfl level spelled
  | @object fields keys legible ih =>
    have spelled :
        List.Forall₂ Spells (fieldTokens fields) (indentedFields (level + 1) fields) := by
      rw [fieldTokens_eq_map, indentedFields_eq_map, List.forall₂_map_left_iff,
        List.forall₂_map_right_iff, List.forall₂_same]
      intro field member
      have value := ih field member (level + 1)
      exact Spells.member (keys field member) isGap_blank value
    exact spells_block '\x7b' '\x7d' rfl rfl level spelled

/-- A text that spells the tree. -/
structure IsSpelledBy (tree : Tree) (text : String) : Prop where
  legible : tree.Legible
  layout : Layout tree.tokens text.toList

theorem isSpelledBy_of_spells {part : List Char} (spelled : Spells tree.tokens part)
    (legible : tree.Legible) : tree.IsSpelledBy (String.ofList part) :=
  ⟨legible, by simpa using spelled.layout endsWord_nil .done⟩

/-- A tree is read from every text that spells it. -/
theorem IsSpelledBy.ofText? {text : String} (spelled : tree.IsSpelledBy text) :
    ofText? text = some tree := by
  have read := Reader.foldlM_tokens spelled.legible []
  simp [Tree.ofText?, tokens?_of_layout spelled.layout, ofTokens?, read, Reader.finish]

/-- The text of a tree spells it. -/
theorem isSpelledBy_toText (legible : tree.Legible) : tree.IsSpelledBy tree.toText :=
  isSpelledBy_of_spells (spells_compact legible) legible

/-- The text of a tree for editors spells it, too. -/
theorem isSpelledBy_indented (legible : tree.Legible) :
    tree.IsSpelledBy (String.ofList (tree.indented 0)) :=
  isSpelledBy_of_spells (spells_indented legible 0) legible

theorem legible_ofString (text : String) : Legible (.ofString text) :=
  .string (Quoted.legible_encode text.toList)

/-- The text of an integer is a number that a text can spell. -/
theorem legible_integerText (value : Int) : Legible (.number (Number.integerText value)) := by
  have digits (n : Nat) : ∀ c ∈ Number.natDigits n, Token.isWordChar c = true := by
    intro c member
    simp [Token.isWordChar, Char.isAlphanum, Number.isDigit_of_mem_natDigits member]
  have word : ∀ c ∈ Number.integerText value, Token.isWordChar c = true := by
    unfold Number.integerText
    split
    · exact List.forall_mem_cons.mpr ⟨by decide, digits value.natAbs⟩
    · exact digits value.natAbs
  have spelled := ofWord?_integerText value
  cases text : Number.integerText value with
  | nil =>
    rw [text] at spelled
    cases spelled
  | cons c rest =>
    rw [text] at word spelled
    exact .number word spelled

theorem legible_ofNat (n : Nat) : Legible (.ofNat n) := by
  rw [ofNat, ← Number.integerText_natCast]
  exact legible_integerText n

variable {α : Type} {write : α → Tree}

theorem legible_ofList (legible : ∀ item, Legible (write item)) (items : List α) :
    Legible (.ofList write items) := by
  refine .array fun tree member => ?_
  obtain ⟨item, -, rfl⟩ := List.mem_map.mp member
  exact legible item

theorem legible_ofStrings (texts : List String) : Legible (.ofStrings texts) :=
  legible_ofList legible_ofString texts

theorem legible_ofOption (legible : ∀ item, Legible (write item)) (value : Option α) :
    Legible (.ofOption write value) := by
  cases value with
  | none => exact .null
  | some item => exact legible item

theorem legible_ofRecord {fields : List (String × Tree)}
    (legible : ∀ field ∈ fields, Legible field.2) : Legible (.ofRecord fields) := by
  refine .object ?_ ?_
  · intro entry member
    obtain ⟨field, -, rfl⟩ := List.mem_map.mp member
    exact Quoted.legible_encode field.1.toList
  · intro entry member
    obtain ⟨field, inside, rfl⟩ := List.mem_map.mp member
    exact legible field inside

end Tree

end SchemaOverlay.Json
