import SchemaOverlay.Text.Hex

/-!
# Spelling of strings

How a string is spelled between quotation marks, and what a spelling stands for.
Writing escapes the quotation mark, the backslash and the control characters
below U+0020, the latter by their short names where they have one.  Reading
takes a spelling apart into code units and joins surrogate pairs; a surrogate on
its own stands for nothing.
-/

namespace SchemaOverlay.Json.Quoted

/-- The letter that names a character behind a backslash, where there is one. -/
def shortName? (c : Char) : Option Char :=
  if c = '"' then some '"'
  else if c = '\\' then some '\\'
  else if c = '\x08' then some 'b'
  else if c = '\x0C' then some 'f'
  else if c = '\n' then some 'n'
  else if c = '\r' then some 'r'
  else if c = '\t' then some 't'
  else none

def encodeChar (c : Char) : List Char :=
  match shortName? c with
  | some name => ['\\', name]
  | none =>
    if c.toNat < 0x20 then
      ['\\', 'u', '0', '0', Text.hexDigit (c.toNat / 16), Text.hexDigit (c.toNat % 16)]
    else [c]

def encode (text : List Char) : List Char :=
  text.flatMap encodeChar

/-- The code that a letter behind a backslash names. -/
def namedCode? (c : Char) : Option Nat :=
  match c with
  | '"' => some 0x22
  | '\\' => some 0x5C
  | '/' => some 0x2F
  | 'b' => some 0x08
  | 'f' => some 0x0C
  | 'n' => some 0x0A
  | 'r' => some 0x0D
  | 't' => some 0x09
  | _ => none

/-- The codes of a spelling: of the characters that stand for themselves and of the escapes. -/
def codes? : List Char → Option (List Nat)
  | [] => some []
  | '\\' :: 'u' :: a :: b :: c :: d :: rest => do
    let code := [a, b, c, d].foldl (fun code digit => 16 * code + Text.hexValue digit) 0
    (codes? rest).map (code :: ·)
  | '\\' :: name :: rest => do
    let code ← namedCode? name
    (codes? rest).map (code :: ·)
  | ['\\'] => none
  | c :: rest => (codes? rest).map (c.toNat :: ·)

/-- The first half of a surrogate pair. -/
def isHighSurrogate (code : Nat) : Bool := 0xD800 ≤ code && code < 0xDC00

/-- The second half of a surrogate pair. -/
def isLowSurrogate (code : Nat) : Bool := 0xDC00 ≤ code && code < 0xE000

/-- The characters of a list of codes; none when a surrogate has no partner. -/
def join? : List Nat → Option (List Char)
  | [] => some []
  | code :: rest =>
    if isHighSurrogate code then
      match rest with
      | [] => none
      | low :: rest =>
        if isLowSurrogate low then
          (join? rest).map
            (Char.ofNat (0x10000 + 1024 * (code - 0xD800) + (low - 0xDC00)) :: ·)
        else none
    else if isLowSurrogate code then none
    else (join? rest).map (Char.ofNat code :: ·)

/-- The text that a spelling stands for. -/
def decode? (spelling : List Char) : Option String :=
  ((codes? spelling).bind join?).map String.ofList

end SchemaOverlay.Json.Quoted
