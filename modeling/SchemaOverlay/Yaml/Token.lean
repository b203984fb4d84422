import SchemaOverlay.Yaml.Scalar

/-!
# Tokens of a YAML text

A text is cut into scalars and indicators, and the indentation of its lines into
openings and closings of blocks.  A block of a sort opens where its indicator
stands further right than the block around it, and closes where a line begins
further left.  A key is recognised only by the colon behind it, so the place of
a possible key is remembered until the colon comes or can no longer come; only
then the key and the block that it opens are put in front of it.
-/

namespace SchemaOverlay.Yaml

/-- A piece of a YAML text. -/
inductive Token where
  | documentStart
  | documentEnd
  | openBlockList
  | openBlockMap
  | closeBlock
  | openList
  | closeList
  | openMap
  | closeMap
  /-- The dash in front of an item of a block list. -/
  | dash
  | comma
  /-- Marks that a key follows. -/
  | key
  /-- The colon between a key and its value. -/
  | colon
  /-- A scalar, and whether it was written without quotes and not as a block. -/
  | scalar (text : String) (plain : Bool)
  deriving DecidableEq, Repr

/-- A place where a key may have begun. -/
structure PossibleKey where
  /-- The number of tokens in front of it. -/
  position : Nat
  index : Nat
  line : Nat
  column : Nat
  /-- Whether nothing but a key may stand there. -/
  required : Bool
  deriving DecidableEq, Repr

/-- The tokens so far, last one first, and what the next ones depend on. -/
structure Layout where
  tokens : List Token
  /-- The columns of the open blocks, innermost first. -/
  blocks : List Nat
  /-- Whether a key may begin at the next token. -/
  keyAllowed : Bool
  /-- The possible keys of the open brackets, innermost first. -/
  bracketKeys : List (Option PossibleKey)
  /-- The possible key outside all brackets. -/
  blockKey : Option PossibleKey
  deriving DecidableEq, Repr

namespace Layout

def start : Layout := ⟨[], [], true, [], none⟩

def inBrackets (layout : Layout) : Bool := !layout.bracketKeys.isEmpty

def indent? (layout : Layout) : Option Nat := layout.blocks.head?

/-- The least column of a further line of a plain scalar. -/
def continuation (layout : Layout) : Nat :=
  match layout.indent? with
  | some column => column + 1
  | none => 0

def emit (layout : Layout) (token : Token) : Layout :=
  { layout with tokens := token :: layout.tokens }

/-- Put a token behind the first tokens of a number. -/
def insertAt (layout : Layout) (position : Nat) (token : Token) : Layout :=
  let behind := layout.tokens.length - position
  { layout with
    tokens := layout.tokens.take behind ++ token :: layout.tokens.drop behind }

/-- Close the blocks that stand further right than a column; all of them without one. -/
def closeBlocks (column : Option Nat) (layout : Layout) : Layout :=
  if layout.inBrackets then layout
  else
    let closing := layout.blocks.takeWhile fun block => column.all (· < block)
    { layout with
      tokens := List.replicate closing.length .closeBlock ++ layout.tokens
      blocks := layout.blocks.drop closing.length }

/-- Open a block at a column if it stands further right; its token goes behind `position` others. -/
def openBlock (layout : Layout) (column position : Nat) (token : Token) : Layout :=
  if !layout.inBrackets && layout.indent?.all (· < column) then
    { layout.insertAt position token with blocks := column :: layout.blocks }
  else layout

/-- The possible key of the innermost level. -/
def possibleKey (layout : Layout) : Option PossibleKey :=
  match layout.bracketKeys with
  | [] => layout.blockKey
  | key :: _ => key

/-- Replace the possible key of the innermost level. -/
def setKey (layout : Layout) (key : Option PossibleKey) : Layout :=
  match layout.bracketKeys with
  | [] => { layout with blockKey := key }
  | _ :: outer => { layout with bracketKeys := key :: outer }

/-- Give up the possible key of the innermost level; not allowed where a key has to stand. -/
def dropKey? (layout : Layout) : Option Layout :=
  if layout.possibleKey.any (·.required) then none else some (layout.setKey none)

/-- Remember that a key may begin here. -/
def saveKey? (layout : Layout) (cursor : Cursor) : Option Layout :=
  if layout.keyAllowed then do
    let required := !layout.inBrackets && layout.indent? == some cursor.column
    let key : PossibleKey :=
      ⟨layout.tokens.length, cursor.index, cursor.line, cursor.column, required⟩
    return (← layout.dropKey?).setKey (some key)
  else some layout

/-- The length in bytes of the longest key that a colon may follow. -/
def keyLimit : Nat := 1024

/-- Whether a colon at a cursor can belong to a possible key. -/
def reaches (key : PossibleKey) (cursor : Cursor) : Bool :=
  key.line == cursor.line && cursor.index ≤ key.index + keyLimit

def readColon? (layout : Layout) (cursor : Cursor) : Option Layout :=
  match layout.possibleKey with
  | some key =>
    if reaches key cursor then
      let marked := layout.insertAt key.position .key
      let keyed := marked.openBlock key.column key.position .openBlockMap
      some { (keyed.emit .colon).setKey none with keyAllowed := false }
    else if key.required then none
    else unkeyed
  | none => unkeyed
where
  /-- A colon without a key in front. -/
  unkeyed : Option Layout :=
    if layout.inBrackets then some { layout.emit .colon with keyAllowed := false }
    else if layout.keyAllowed then
      let opened := layout.openBlock cursor.column layout.tokens.length .openBlockMap
      some { opened.emit .colon with keyAllowed := true }
    else none

def readDash? (layout : Layout) (cursor : Cursor) : Option Layout :=
  if !layout.inBrackets && !layout.keyAllowed then none
  else do
    let opened := layout.openBlock cursor.column layout.tokens.length .openBlockList
    return { (← opened.dropKey?).emit .dash with keyAllowed := true }

/-- Read a question mark in front of a key. -/
def readQuestion? (layout : Layout) (cursor : Cursor) : Option Layout :=
  if !layout.inBrackets && !layout.keyAllowed then none
  else do
    let opened := layout.openBlock cursor.column layout.tokens.length .openBlockMap
    return { (← opened.dropKey?).emit .key with keyAllowed := !layout.inBrackets }

def readOpening? (layout : Layout) (cursor : Cursor) (token : Token) : Option Layout := do
  let saved ← layout.saveKey? cursor
  return { saved.emit token with keyAllowed := true, bracketKeys := none :: saved.bracketKeys }

def readClosing? (layout : Layout) (token : Token) : Option Layout := do
  let dropped ← layout.dropKey?
  return { dropped.emit token with keyAllowed := false, bracketKeys := dropped.bracketKeys.tail }

def readComma? (layout : Layout) : Option Layout := do
  return { (← layout.dropKey?).emit .comma with keyAllowed := true }

def readDocumentMark? (layout : Layout) (token : Token) : Option Layout := do
  return { (← (layout.closeBlocks none).dropKey?).emit token with keyAllowed := false }

/-- The layout of a text that has ended. -/
def finish? (layout : Layout) : Option (List Token) := do
  return (← (layout.closeBlocks none).dropKey?).tokens.reverse

end Layout

/-- How many characters stand in front of a token, and whether a new line begins among them. -/
structure Spacing where
  length : Nat
  newLine : Bool
  deriving DecidableEq, Repr

/-- What stands in front of the next token: blanks, comments and line breaks. -/
def spacing (inBrackets keyAllowed inComment : Bool) (column : Nat) : List Char → Spacing
  | [] => ⟨0, false⟩
  | c :: rest =>
    if isBreak c then
      let behind := spacing inBrackets (keyAllowed || !inBrackets) false 0 rest
      ⟨behind.length + 1, true⟩
    else if inComment || c == ' ' || c == '#' || (c == '\t' && (inBrackets || !keyAllowed))
        || (c == byteOrderMark && column == 0) then
      let behind := spacing inBrackets keyAllowed (inComment || c == '#') (column + 1) rest
      ⟨behind.length + 1, behind.newLine⟩
    else ⟨0, false⟩

/-- Whether a plain scalar may begin here. -/
def beginsPlain (inBrackets : Bool) : List Char → Bool
  | [] => false
  | c :: rest =>
    let indicators := ['-', '?', ':', ',', '[', ']', '\x7b', '\x7d', '#', '&', '*', '!', '|', '>',
      '\'', '"', '%', '@', Char.ofNat 0x60]
    !(isSpace c || indicators.contains c) || (c == '-' && !startsWithAny [' ', '\t'] rest)
      || (!inBrackets && (c == '?' || c == ':') && !startsBlank rest)

/-- The layout behind a scalar, and where reading goes on. -/
def Layout.readScalar (layout : Layout) (scalar : Scalar) (plain keyAllowed : Bool) :
    Layout × Cursor :=
  ({ layout.emit (.scalar (String.ofList scalar.text) plain) with keyAllowed }, scalar.cursor)

def readToken? (layout : Layout) (cursor : Cursor) : Option (Layout × Cursor) :=
  let layout := layout.closeBlocks (some cursor.column)
  let single (read : Option Layout) : Option (Layout × Cursor) := read.map fun l => (l, cursor.next)
  if cursor.column = 0 && startsWithAny ['%'] cursor.rest then none
  else if cursor.atMark '-' then
    (layout.readDocumentMark? .documentStart).map fun l => (l, cursor.advance 3)
  else if cursor.atMark '.' then
    (layout.readDocumentMark? .documentEnd).map fun l => (l, cursor.advance 3)
  else
    match cursor.rest with
    | [] => none
    | c :: rest =>
      let inBrackets := layout.inBrackets
      if c = '[' then single (layout.readOpening? cursor .openList)
      else if c = '\x7b' then single (layout.readOpening? cursor .openMap)
      else if c = ']' then single (layout.readClosing? .closeList)
      else if c = '\x7d' then single (layout.readClosing? .closeMap)
      else if c = ',' then single layout.readComma?
      else if c = '-' && startsBlank rest then single (layout.readDash? cursor)
      else if c = '?' && (inBrackets || startsBlank rest) then single (layout.readQuestion? cursor)
      else if c = ':' && (inBrackets || startsBlank rest) then single (layout.readColon? cursor)
      else if (c = '|' || c = '>') && !inBrackets then do
        let dropped ← layout.dropKey?
        let scalar ← block? layout.indent? cursor
        return dropped.readScalar scalar false true
      else if c = '\'' || c = '"' then do
        let saved ← layout.saveKey? cursor
        let scalar ← quoted? c cursor
        return saved.readScalar scalar false false
      else if beginsPlain inBrackets cursor.rest then do
        let saved ← layout.saveKey? cursor
        let scalar ← plain? inBrackets layout.continuation cursor
        return saved.readScalar scalar true scalar.leftLine
      else none

/-- Read tokens up to the end of the text. -/
def readTokens (layout : Layout) (cursor : Cursor) : (fuel : Nat) → Option (List Token)
  | 0 => none
  | fuel + 1 => do
    let space := spacing layout.inBrackets layout.keyAllowed false cursor.column cursor.rest
    let cursor := cursor.advance space.length
    let layout :=
      if space.newLine && !layout.inBrackets then { layout with keyAllowed := true } else layout
    if cursor.rest.isEmpty then layout.finish?
    else
      let (layout, cursor) ← readToken? layout cursor
      readTokens layout cursor fuel

def tokens? (text : List Char) : Option (List Token) :=
  if text.all isAllowed then
    let text := uniform text
    readTokens .start (.start text) (text.length + 1)
  else none

end SchemaOverlay.Yaml
