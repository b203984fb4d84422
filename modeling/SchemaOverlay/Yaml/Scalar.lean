import SchemaOverlay.Text.Hex
import SchemaOverlay.Yaml.Cursor

/-!
# Scalars of YAML

The texts that YAML writes without quotes, between single or double quotes, or
as indented blocks.  A text may run over several lines: a single line break in
it then stands for a blank, and of several the first one is dropped.  Blocks
keep their lines, or fold them in the same way.
-/

namespace SchemaOverlay.Yaml

/-- A scalar that was read. -/
structure Scalar where
  text : List Char
  /-- Where reading goes on. -/
  cursor : Cursor
  /-- Whether reading went on to another line behind the text. -/
  leftLine : Bool
  deriving DecidableEq, Repr

/-- What the blanks and line breaks between two pieces of a text stand for. -/
def folded (gap : List Char) : List Char :=
  match gap.filter isBreak with
  | [] => gap
  | ['\n'] => [' ']
  | '\n' :: more => more
  | breaks => breaks

/--
Whether a tab stands in the indentation of a line behind the first; on the first line there is
no `column`.
-/
def hasTabIn (indent : Nat) : (column : Option Nat) → List Char → Bool
  | _, [] => false
  | column, c :: rest =>
    if isBreak c then hasTabIn indent (some 0) rest
    else
      (c == '\t' && column.any (· < indent)) || hasTabIn indent (column.map (· + 1)) rest

/-! ## Plain scalars -/

/-- The length of the piece of a plain text up to a blank or an indicator that ends it. -/
def plainLength? (flow : Bool) : List Char → Option Nat
  | [] => some 0
  | c :: rest =>
    if isSpace c then some 0
    else if c = ':' && flow && startsWithAny [',', '?', '[', ']', '\x7b', '\x7d'] rest then none
    else if c = ':' && startsBlank rest then some 0
    else if flow && [',', '[', ']', '\x7b', '\x7d'].contains c then some 0
    else (plainLength? flow rest).map (· + 1)

/-- Read pieces of a plain text, `gap` standing before the next one. -/
def plainPieces (flow : Bool) (indent : Nat) (text gap : List Char) (cursor : Cursor) :
    (fuel : Nat) → Option Scalar
  | 0 => none
  | fuel + 1 => do
    let stop : Scalar := ⟨text, cursor, gap.any isBreak⟩
    if cursor.atDocumentMark || startsWithAny ['#'] cursor.rest then return stop
    let length ← plainLength? flow cursor.rest
    if length = 0 then return stop
    let text := text ++ folded gap ++ cursor.rest.take length
    let cursor := cursor.advance length
    let gap := cursor.rest.takeWhile isSpace
    if hasTabIn indent none gap then none
    else
      let behind := cursor.advance gap.length
      if gap.isEmpty then return ⟨text, cursor, false⟩
      else if !flow && behind.column < indent then return ⟨text, behind, gap.any isBreak⟩
      else plainPieces flow indent text gap behind fuel

/-- Read a plain text, whose further lines stand at column `indent` at least. -/
def plain? (flow : Bool) (indent : Nat) (cursor : Cursor) : Option Scalar :=
  plainPieces flow indent [] [] cursor (cursor.rest.length + 1)

/-! ## Quoted scalars -/

/-- A piece of a quoted text, up to a blank or the closing quote. -/
structure QuotedPiece where
  text : List Char
  /-- How many characters spell it. -/
  length : Nat
  /-- Whether a backslash before a line break ended it. -/
  continued : Bool
  deriving DecidableEq, Repr

namespace QuotedPiece

def empty : QuotedPiece := ⟨[], 0, false⟩

/-- A piece with characters in front that `length` characters spell. -/
def after (text : List Char) (length : Nat) (piece : QuotedPiece) : QuotedPiece :=
  ⟨text ++ piece.text, length + piece.length, piece.continued⟩

end QuotedPiece

/-- The piece of a text between single quotes; a quote in it is doubled. -/
def singlePiece : List Char → QuotedPiece
  | '\'' :: '\'' :: rest => (singlePiece rest).after ['\''] 2
  | c :: rest => if c = '\'' || isSpace c then .empty else (singlePiece rest).after [c] 1
  | [] => .empty

/-- What stands before the next character of a text between double quotes. -/
inductive EscapeState where
  | outside
  | afterBackslash
  /-- In a code, with digits still to come and the value of those that came. -/
  | inCode (missing value : Nat)
  deriving DecidableEq, Repr

/-- The character that a letter behind a backslash names. -/
def namedEscape? (c : Char) : Option Char :=
  match c with
  | '0' => some '\x00'
  | 'a' => some '\x07'
  | 'b' => some '\x08'
  | 't' | '\t' => some '\t'
  | 'n' => some '\n'
  | 'v' => some '\x0B'
  | 'f' => some '\x0C'
  | 'r' => some '\r'
  | 'e' => some '\x1B'
  | ' ' => some ' '
  | '"' => some '"'
  | '/' => some '/'
  | '\\' => some '\\'
  | 'N' => some '\u0085'
  | '_' => some '\u00A0'
  | 'L' => some '\u2028'
  | 'P' => some '\u2029'
  | _ => none

/-- How many digits a code behind a backslash and a letter has. -/
def codeDigits? (c : Char) : Option Nat :=
  match c with
  | 'x' => some 2
  | 'u' => some 4
  | 'U' => some 8
  | _ => none

def ofCode? (code : Nat) : Option Char :=
  if code.isValidChar then some (Char.ofNat code) else none

/-- The piece of a text between double quotes. -/
def doublePiece? : EscapeState → List Char → Option QuotedPiece
  | .outside, [] => some .empty
  | _, [] => none
  | .outside, c :: rest =>
    if c = '"' || isSpace c then some .empty
    else if c = '\\' then (doublePiece? .afterBackslash rest).map (.after [] 1)
    else (doublePiece? .outside rest).map (.after [c] 1)
  | .afterBackslash, c :: rest =>
    if isBreak c then some ⟨[], 1, true⟩
    else
      match namedEscape? c, codeDigits? c with
      | some named, _ => (doublePiece? .outside rest).map (.after [named] 1)
      | none, some digits => (doublePiece? (.inCode digits 0) rest).map (.after [] 1)
      | none, none => none
  | .inCode missing value, c :: rest =>
    if !Text.isHexDigit c then none
    else
      let value := 16 * value + Text.hexValue c
      if missing ≤ 1 then do
        let named ← ofCode? value
        (doublePiece? .outside rest).map (.after [named] 1)
      else (doublePiece? (.inCode (missing - 1) value) rest).map (.after [] 1)

/-- The piece of a text between quotes of a kind. -/
def quotedPiece? (quote : Char) (cs : List Char) : Option QuotedPiece :=
  if quote = '"' then doublePiece? .outside cs else some (singlePiece cs)

/-- Read pieces of a quoted text up to the closing quote. -/
def quotedPieces (quote : Char) (text : List Char) (cursor : Cursor) :
    (fuel : Nat) → Option Scalar
  | 0 => none
  | fuel + 1 => do
    if cursor.atDocumentMark || cursor.rest.isEmpty then none
    else
      let piece ← quotedPiece? quote cursor.rest
      let text := text ++ piece.text
      let cursor := cursor.advance piece.length
      if startsWithAny [quote] cursor.rest then return ⟨text, cursor.next, false⟩
      else
        let gap := cursor.rest.takeWhile isSpace
        let between := if piece.continued then gap.filter isBreak else folded gap
        quotedPieces quote (text ++ between) (cursor.advance gap.length) fuel

/-- Read a quoted text, the cursor standing at its opening quote. -/
def quoted? (quote : Char) (cursor : Cursor) : Option Scalar :=
  quotedPieces quote [] cursor.next (cursor.rest.length + 1)

/-! ## Block scalars -/

/-- What becomes of the line breaks at the end of a block. -/
inductive Chomping where
  | strip
  | clip
  | keep
  deriving DecidableEq, Repr

/-- The header of a block. -/
structure BlockHeader where
  chomping : Chomping
  /-- The indentation of the lines, as an addition to that around the block. -/
  increment : Option Nat
  deriving DecidableEq, Repr

/-- The chomping that a character asks for. -/
def chomping? (c : Char) : Option Chomping :=
  match c with
  | '-' => some .strip
  | '+' => some .keep
  | _ => none

/-- The increment that a digit asks for. -/
def increment? (c : Char) : Option Nat :=
  if '1' ≤ c ∧ c ≤ '9' then some (c.toNat - 48) else none

/-- The header behind the indicator of a block and how many characters spell it. -/
def blockHeader? (cs : List Char) : Option (BlockHeader × Nat) :=
  let plain : BlockHeader := ⟨.clip, none⟩
  match cs with
  | [] => some (plain, 0)
  | first :: rest =>
    match chomping? first, increment? first with
    | some chomping, _ =>
      match rest with
      | [] => some (⟨chomping, none⟩, 1)
      | second :: _ =>
        match increment? second with
        | some digit => some (⟨chomping, some digit⟩, 2)
        | none => if second = '0' then none else some (⟨chomping, none⟩, 1)
    | none, some digit =>
      match rest.head?.bind chomping? with
      | some chomping => some (⟨chomping, some digit⟩, 2)
      | none => some (⟨.clip, some digit⟩, 1)
    | none, none => if first = '0' then none else some (plain, 0)

/-- How many characters a header line still takes up to its break; they may be a comment. -/
def headerTail? (cs : List Char) : Option Nat :=
  let blanks := (cs.takeWhile isBlank).length
  match cs.drop blanks with
  | [] => some blanks
  | c :: rest =>
    if c = '#' then some (blanks + 1 + (rest.takeWhile (!isBreak ·)).length)
    else if isBreak c then some blanks
    else none

/-- Blank lines before a line of a block. -/
structure BlankLines where
  breaks : List Char
  /-- How many characters they and the indentation of the next line take. -/
  length : Nat
  /-- The widest indentation among them and the next line. -/
  widest : Nat
  deriving DecidableEq, Repr

/-- The blank lines at the front of a text; `indent` is none while it is not known yet. -/
def blankLines? (indent : Option Nat) (column : Nat) : List Char → Option BlankLines
  | [] => some ⟨[], 0, column⟩
  | c :: rest =>
    let inside := indent.all (column < ·)
    if inside && c == ' ' then
      (blankLines? indent (column + 1) rest).map fun lines =>
        { lines with length := lines.length + 1 }
    else if inside && c == '\t' then none
    else if isBreak c then
      (blankLines? indent 0 rest).map fun lines =>
        ⟨c :: lines.breaks, lines.length + 1, max lines.widest column⟩
    else some ⟨[], 0, column⟩

/-- The lines of a block so far. -/
structure BlockText where
  text : List Char
  /-- The break behind the last line, where there is a line and a break. -/
  lastBreak : List Char
  /-- The breaks of blank lines behind it. -/
  breaks : List Char
  /-- Whether the last line began with a blank. -/
  startedBlank : Bool
  deriving DecidableEq, Repr

/-- What stands between the last line of a block and one that begins with a blank or not. -/
def BlockText.joint (literal : Bool) (block : BlockText) (blank : Bool) : List Char :=
  if !literal && block.lastBreak == ['\n'] && !block.startedBlank && !blank then
    (if block.breaks.isEmpty then [' '] else []) ++ block.breaks
  else block.lastBreak ++ block.breaks

/-- Read the lines of a block that stand at column `indent`. -/
def blockLines (literal : Bool) (indent : Nat) (block : BlockText) (cursor : Cursor) :
    (fuel : Nat) → Option (BlockText × Cursor)
  | 0 => none
  | fuel + 1 =>
    if cursor.column = indent && !cursor.rest.isEmpty then do
      let blank := startsWithAny [' ', '\t'] cursor.rest
      let line := cursor.rest.takeWhile (!isBreak ·)
      let text := block.text ++ block.joint literal blank ++ line
      let behind := cursor.advance line.length
      let lastBreak := behind.rest.take 1
      let behind := behind.next
      let lines ← blankLines? (some indent) 0 behind.rest
      let behind := if lastBreak.isEmpty then behind else behind.advance lines.length
      blockLines literal indent ⟨text, lastBreak, lines.breaks, blank⟩ behind fuel
    else some (block, cursor)

/-- Read a block; the cursor stands at its indicator, and `outer` is the indentation around it. -/
def block? (outer : Option Nat) (cursor : Cursor) : Option Scalar := do
  let literal := startsWithAny ['|'] cursor.rest
  let cursor := cursor.next
  let (header, length) ← blockHeader? cursor.rest
  let cursor := cursor.advance length
  let cursor := (cursor.advance (← headerTail? cursor.rest)).next
  let least := match outer with
    | some column => column + 1
    | none => 1
  let known := header.increment.map fun digit => (outer.getD 0) + digit
  let lines ← blankLines? known 0 cursor.rest
  let indent := known.getD (max lines.widest least)
  let start : BlockText := ⟨[], [], lines.breaks, false⟩
  let (block, cursor) ←
    blockLines literal indent start (cursor.advance lines.length) (cursor.rest.length + 1)
  let ending := match header.chomping with
    | .strip => []
    | .clip => block.lastBreak
    | .keep => block.lastBreak ++ block.breaks
  return ⟨block.text ++ ending, cursor, false⟩

end SchemaOverlay.Yaml
