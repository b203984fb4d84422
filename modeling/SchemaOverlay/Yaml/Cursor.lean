/-!
# Cursors in YAML texts

The characters that a YAML text may hold, its line breaks, and the place where a
reader stands in it.  Line breaks are made uniform before anything else is read,
so a carriage return, a line feed, both together and the next-line character all
count as one line feed.
-/

namespace SchemaOverlay.Yaml

/-- The characters that may stand in a text. -/
def isAllowed (c : Char) : Bool :=
  let code := c.toNat
  code == 0x09 || code == 0x0A || code == 0x0D || (0x20 ≤ code && code ≤ 0x7E) || code == 0x85
    || (0xA0 ≤ code && code ≤ 0xD7FF) || (0xE000 ≤ code && code ≤ 0xFFFD) || 0x10000 ≤ code

/-- The byte order mark, skipped at the start of a line, where it takes a column like any other. -/
def byteOrderMark : Char := '\uFEFF'

def uniform : List Char → List Char
  | [] => []
  | '\r' :: '\n' :: rest => '\n' :: uniform rest
  | c :: rest => (if c = '\r' ∨ c = '\u0085' then '\n' else c) :: uniform rest

def isBlank (c : Char) : Bool := c == ' ' || c == '\t'

/-- A line break; those of Unicode keep their identity. -/
def isBreak (c : Char) : Bool := c == '\n' || c == '\u2028' || c == '\u2029'

def isSpace (c : Char) : Bool := isBlank c || isBreak c

/-- Whether a text begins with a blank or a line break, or is at its end. -/
def startsBlank : List Char → Bool
  | [] => true
  | c :: _ => isSpace c

/-- Whether a text begins with a character of a list. -/
def startsWithAny (choices : List Char) : List Char → Bool
  | [] => false
  | c :: _ => choices.contains c

/-- Where a reader stands, and what is left to read. -/
structure Cursor where
  rest : List Char
  /-- The number of bytes read, as they are in UTF-8. -/
  index : Nat
  line : Nat
  column : Nat
  deriving DecidableEq, Repr

namespace Cursor

def start (text : List Char) : Cursor := ⟨text, 0, 0, 0⟩

def next (cursor : Cursor) : Cursor :=
  match cursor.rest with
  | [] => cursor
  | c :: rest =>
    let index := cursor.index + c.utf8Size
    if isBreak c then ⟨rest, index, cursor.line + 1, 0⟩
    else ⟨rest, index, cursor.line, cursor.column + 1⟩

/-- The cursor behind a number of characters. -/
def advance (cursor : Cursor) : Nat → Cursor
  | 0 => cursor
  | count + 1 => (cursor.next).advance count

/-- Whether a line begins here with a mark of three characters that stands alone. -/
def atMark (cursor : Cursor) (mark : Char) : Bool :=
  cursor.column == 0 &&
    match cursor.rest with
    | first :: second :: third :: rest =>
      first == mark && second == mark && third == mark && startsBlank rest
    | _ => false

/-- Whether a document begins or ends here. -/
def atDocumentMark (cursor : Cursor) : Bool := cursor.atMark '-' || cursor.atMark '.'

end Cursor

end SchemaOverlay.Yaml
