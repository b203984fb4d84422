import SchemaOverlay.Text.Hex

/-!
# Tokens of a JSON text

A JSON text is read character by character into brackets, separators, quoted
strings and bare words.  Strings and words keep their spelling.  A string may
hold no control character, and a backslash in it has to begin one of the known
escapes; what a four-digit escape stands for is not looked at here.
-/

namespace SchemaOverlay.Json

/-- A piece of a JSON text. -/
inductive Token where
  | openBracket
  | closeBracket
  | openBrace
  | closeBrace
  | comma
  | colon
  /-- What stands between two quotation marks. -/
  | string (spelling : List Char)
  /-- A run of the characters that numbers and the three names are made of. -/
  | word (spelling : List Char)
  deriving DecidableEq, Repr

namespace Token

/-- The four characters that may stand between tokens. -/
def isSpace (c : Char) : Bool :=
  c == ' ' || c == '\t' || c == '\n' || c == '\r'

/-- The characters of numbers and of the three names. -/
def isWordChar (c : Char) : Bool :=
  c.isAlphanum || c == '-' || c == '+' || c == '.'

/-- The token that one character makes up. -/
def punctuation? (c : Char) : Option Token :=
  match c with
  | '[' => some .openBracket
  | ']' => some .closeBracket
  | '\x7b' => some .openBrace
  | '\x7d' => some .closeBrace
  | ',' => some .comma
  | ':' => some .colon
  | _ => none

/-- The characters that may follow a backslash, apart from the mark of a four-digit escape. -/
def isShortEscape (c : Char) : Bool :=
  c == '"' || c == '\\' || c == '/' || c == 'b' || c == 'f' || c == 'n' || c == 'r' || c == 't'

end Token

/-- Where the next character stands; spellings are kept in reverse. -/
inductive LexState where
  | between
  | inWord (spelling : List Char)
  | inString (spelling : List Char)
  | afterBackslash (spelling : List Char)
  | inHexEscape (missing : Nat) (spelling : List Char)
  deriving DecidableEq, Repr

/-- The tokens found so far, last one first, and where the next character stands. -/
structure Lexer where
  tokens : List Token
  state : LexState
  deriving DecidableEq, Repr

namespace Lexer

def start : Lexer := ⟨[], .between⟩

/-- Read a character that stands between tokens. -/
def begin (tokens : List Token) (c : Char) : Option Lexer :=
  if Token.isSpace c then some ⟨tokens, .between⟩
  else if c = '"' then some ⟨tokens, .inString []⟩
  else if Token.isWordChar c then some ⟨tokens, .inWord [c]⟩
  else (Token.punctuation? c).map fun token => ⟨token :: tokens, .between⟩

def step (lexer : Lexer) (c : Char) : Option Lexer :=
  match lexer.state with
  | .between => begin lexer.tokens c
  | .inWord spelling =>
    if Token.isWordChar c then some ⟨lexer.tokens, .inWord (c :: spelling)⟩
    else begin (.word spelling.reverse :: lexer.tokens) c
  | .inString spelling =>
    if c = '"' then some ⟨.string spelling.reverse :: lexer.tokens, .between⟩
    else if c = '\\' then some ⟨lexer.tokens, .afterBackslash (c :: spelling)⟩
    else if c.toNat < 0x20 then none
    else some ⟨lexer.tokens, .inString (c :: spelling)⟩
  | .afterBackslash spelling =>
    if c = 'u' then some ⟨lexer.tokens, .inHexEscape 4 (c :: spelling)⟩
    else if Token.isShortEscape c then some ⟨lexer.tokens, .inString (c :: spelling)⟩
    else none
  | .inHexEscape missing spelling =>
    if !Text.isHexDigit c then none
    else if missing ≤ 1 then some ⟨lexer.tokens, .inString (c :: spelling)⟩
    else some ⟨lexer.tokens, .inHexEscape (missing - 1) (c :: spelling)⟩

/-- The tokens of a text that has ended. -/
def finish (lexer : Lexer) : Option (List Token) :=
  match lexer.state with
  | .between => some lexer.tokens.reverse
  | .inWord spelling => some (.word spelling.reverse :: lexer.tokens).reverse
  | _ => none

end Lexer

def tokens? (text : List Char) : Option (List Token) :=
  (text.foldlM Lexer.step Lexer.start).bind Lexer.finish

end SchemaOverlay.Json
