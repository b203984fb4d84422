import SchemaOverlay.Json.Token
import SchemaOverlay.Number.Literal

/-!
# Syntax trees of JSON texts

A tree keeps everything a text says: the order of fields, repeated keys, and the
spelling of every string and number.  Reading folds over the tokens with the
list of the containers that are still open, so a text may nest as deep as it
likes.  Writing is the compact form, or the indented one for editors.
-/

namespace SchemaOverlay.Json

/-- A JSON text as it is spelled. -/
inductive Tree where
  | null
  | bool (value : Bool)
  /-- A number by its literal. -/
  | number (spelling : List Char)
  /-- A string by what stands between its quotation marks. -/
  | string (spelling : List Char)
  | array (items : List Tree)
  | object (fields : List (List Char × Tree))

namespace Tree

/-- The value that a bare word spells. -/
def ofWord? (spelling : List Char) : Option Tree :=
  if spelling = "null".toList then some .null
  else if spelling = "true".toList then some (.bool true)
  else if spelling = "false".toList then some (.bool false)
  else (NumberLiteral.ofChars? spelling).map fun _ => .number spelling

end Tree

/-- A container that is still open around a value, with what came before the value, last first. -/
inductive Frame where
  | array (front : List Tree)
  | member (front : List (List Char × Tree)) (key : List Char)

/-- What the next token has to be, inside the open containers. -/
inductive Reader where
  /-- A value. -/
  | value (frames : List Frame)
  /-- A first value or the end of an array. -/
  | items (frames : List Frame)
  /-- A key, or the end of the object where `mayClose` holds. -/
  | key (front : List (List Char × Tree)) (mayClose : Bool) (frames : List Frame)
  /-- The colon behind a key. -/
  | colon (front : List (List Char × Tree)) (key : List Char) (frames : List Frame)
  /-- A separator or an end, behind a complete value. -/
  | after (tree : Tree) (frames : List Frame)

namespace Reader

/-- Read the first token of a value. -/
def begin (frames : List Frame) : Token → Option Reader
  | .openBracket => some (.items frames)
  | .openBrace => some (.key [] true frames)
  | .string spelling => some (.after (.string spelling) frames)
  | .word spelling => (Tree.ofWord? spelling).map fun tree => .after tree frames
  | _ => none

def step : Reader → Token → Option Reader
  | .value frames, token => begin frames token
  | .items frames, .closeBracket => some (.after (.array []) frames)
  | .items frames, token => begin (.array [] :: frames) token
  | .key front _ frames, .string name => some (.colon front name frames)
  | .key front true frames, .closeBrace => some (.after (.object front.reverse) frames)
  | .colon front name frames, .colon => some (.value (.member front name :: frames))
  | .after tree (.array front :: frames), .comma => some (.value (.array (tree :: front) :: frames))
  | .after tree (.array front :: frames), .closeBracket =>
    some (.after (.array (tree :: front).reverse) frames)
  | .after tree (.member front name :: frames), .comma =>
    some (.key ((name, tree) :: front) false frames)
  | .after tree (.member front name :: frames), .closeBrace =>
    some (.after (.object ((name, tree) :: front).reverse) frames)
  | _, _ => none

/-- The tree of a text that has ended. -/
def finish : Reader → Option Tree
  | .after tree [] => some tree
  | _ => none

end Reader

namespace Tree

/-- The tree that a list of tokens spells. -/
def ofTokens? (tokens : List Token) : Option Tree :=
  (tokens.foldlM Reader.step (.value [])).bind Reader.finish

/-- The tree of a text; none when it is not one JSON value with blanks around it. -/
def ofText? (text : String) : Option Tree :=
  (tokens? text.toList).bind ofTokens?

def quoted (spelling : List Char) : List Char :=
  '"' :: (spelling ++ ['"'])

/-- The parts with a separator between them. -/
def separated (separator : List Char) : List (List Char) → List Char
  | [] => []
  | [part] => part
  | part :: rest => part ++ separator ++ separated separator rest

mutual
def compact : Tree → List Char
  | .null => "null".toList
  | .bool value => if value then "true".toList else "false".toList
  | .number spelling => spelling
  | .string spelling => quoted spelling
  | .array items => '[' :: (separated [','] (compactItems items) ++ [']'])
  | .object fields => '\x7b' :: (separated [','] (compactFields fields) ++ ['\x7d'])

def compactItems : List Tree → List (List Char)
  | [] => []
  | item :: items => compact item :: compactItems items

def compactFields : List (List Char × Tree) → List (List Char)
  | [] => []
  | (key, tree) :: fields => (quoted key ++ ':' :: compact tree) :: compactFields fields
end

/-- A line break and the indentation of a level. -/
def newLine (level : Nat) : List Char :=
  '\n' :: List.replicate (2 * level) ' '

/-- Parts on lines of their own between brackets; nothing in between when there are none. -/
def block (level : Nat) (opening closing : Char) (parts : List (List Char)) : List Char :=
  if parts.isEmpty then [opening, closing]
  else
    opening :: (newLine (level + 1) ++ separated (',' :: newLine (level + 1)) parts
      ++ newLine level ++ [closing])

mutual
/-- The text with one item a line, indented by two blanks a level. -/
def indented (level : Nat) : Tree → List Char
  | .array items => block level '[' ']' (indentedItems (level + 1) items)
  | .object fields => block level '\x7b' '\x7d' (indentedFields (level + 1) fields)
  | .null => compact .null
  | .bool value => compact (.bool value)
  | .number spelling => compact (.number spelling)
  | .string spelling => compact (.string spelling)

def indentedItems (level : Nat) : List Tree → List (List Char)
  | [] => []
  | item :: items => indented level item :: indentedItems level items

def indentedFields (level : Nat) : List (List Char × Tree) → List (List Char)
  | [] => []
  | (key, tree) :: fields =>
    (quoted key ++ ':' :: ' ' :: indented level tree) :: indentedFields level fields
end

end Tree

end SchemaOverlay.Json
