import SchemaOverlay.Yaml.Token

/-!
# Documents of YAML

What the tokens of a text say: scalars, lists and maps inside one another.  A
value that is left out is an empty plain scalar.  A text holds at most one
document.  Anchors, aliases, tags and directives are not part of the language.
-/

namespace SchemaOverlay.Yaml

/-- A value of a document; the entries of a map keep their order. -/
inductive Node where
  | scalar (text : String) (plain : Bool)
  | list (items : List Node)
  | map (entries : List (Node × Node))

namespace Node

def missing : Node := .scalar "" true

/-- Whether the value is left out, or spelled like one that is. -/
def isMissing : Node → Bool
  | .scalar text plain => plain && text.isEmpty
  | _ => false

/-- Where an optional value may be left out. -/
inductive Place where
  /-- Behind the dash of a block list. -/
  | item
  /-- Behind the dash of a list that stands no further right than its key. -/
  | flatItem
  /-- Beside the colon of a block map. -/
  | blockEntry
  /-- Beside a colon inside square brackets. -/
  | listEntry
  /-- Beside a colon inside braces. -/
  | mapEntry
  deriving DecidableEq, Repr

/-- Whether a token shows that the value at a place is left out. -/
def Place.endsAt : Place → Token → Bool
  | .item, token => token == .dash || token == .closeBlock
  | .flatItem, token => token == .dash || token == .key || token == .colon || token == .closeBlock
  | .blockEntry, token => token == .key || token == .colon || token == .closeBlock
  | .listEntry, token => token == .colon || token == .comma || token == .closeList
  | .mapEntry, token => token == .colon || token == .comma || token == .closeMap

/-- Whether block lists and maps may begin at a place. -/
def Place.allowsBlocks : Place → Bool
  | .listEntry | .mapEntry => false
  | _ => true

mutual
/-- Read a value; `flat` says whether a list may begin at once with a dash. -/
def read? (blocks flat : Bool) : (fuel : Nat) → List Token → Option (Node × List Token)
  | 0, _ => none
  | fuel + 1, tokens =>
    match tokens with
    | .scalar text plain :: rest => some (.scalar text plain, rest)
    | .openList :: .closeList :: rest => some (.list [], rest)
    | .openList :: rest => (readBrackets? fuel rest).map fun read => (.list read.1, read.2)
    | .openMap :: .closeMap :: rest => some (.map [], rest)
    | .openMap :: rest => (readBraces? fuel rest).map fun read => (.map read.1, read.2)
    | .openBlockList :: rest =>
      if blocks then (readItems? fuel rest).map fun read => (.list read.1, read.2) else none
    | .openBlockMap :: rest =>
      if blocks then (readEntries? fuel rest).map fun read => (.map read.1, read.2) else none
    | .dash :: _ =>
      if flat then (readFlatItems? fuel tokens).map fun read => (.list read.1, read.2) else none
    | _ => none

/-- Read a value that may be left out. -/
def readOptional? (place : Place) (fuel : Nat) (tokens : List Token) : Option (Node × List Token) :=
  match fuel, tokens with
  | 0, _ => none
  | _ + 1, [] => none
  | fuel + 1, token :: rest =>
    if place.endsAt token then some (missing, token :: rest)
    else read? place.allowsBlocks (place == .blockEntry) fuel (token :: rest)

/-- Read the items of a block list. -/
def readItems? : (fuel : Nat) → List Token → Option (List Node × List Token)
  | 0, _ => none
  | fuel + 1, tokens =>
    match tokens with
    | .closeBlock :: rest => some ([], rest)
    | .dash :: rest => do
      let (item, rest) ← readOptional? .item fuel rest
      let (items, rest) ← readItems? fuel rest
      return (item :: items, rest)
    | _ => none

/-- Read the items of a list that stands no further right than its key. -/
def readFlatItems? : (fuel : Nat) → List Token → Option (List Node × List Token)
  | 0, _ => none
  | fuel + 1, tokens =>
    match tokens with
    | .dash :: rest => do
      let (item, rest) ← readOptional? .flatItem fuel rest
      let (items, rest) ← readFlatItems? fuel rest
      return (item :: items, rest)
    | _ => some ([], tokens)

/-- Read the value behind a key at a place. -/
def readValue? (place : Place) : (fuel : Nat) → List Token → Option (Node × List Token)
  | 0, _ => none
  | fuel + 1, tokens =>
    match tokens with
    | .colon :: rest => readOptional? place fuel rest
    | _ => some (missing, tokens)

/-- Read the entries of a block map. -/
def readEntries? : (fuel : Nat) → List Token → Option (List (Node × Node) × List Token)
  | 0, _ => none
  | fuel + 1, tokens =>
    match tokens with
    | .closeBlock :: rest => some ([], rest)
    | .key :: rest => do
      let (key, rest) ← readOptional? .blockEntry fuel rest
      let (value, rest) ← readValue? .blockEntry fuel rest
      let (entries, rest) ← readEntries? fuel rest
      return ((key, value) :: entries, rest)
    | _ => none

/-- Read a key inside square brackets; one that is left out swallows the token in its place. -/
def readBracketKey? : (fuel : Nat) → List Token → Option (Node × List Token)
  | 0, _ => none
  | _ + 1, [] => none
  | fuel + 1, token :: rest =>
    if Place.listEntry.endsAt token then some (missing, rest)
    else read? false false fuel (token :: rest)

/-- Read an item inside square brackets, which may be a single entry of a map. -/
def readBracketItem? : (fuel : Nat) → List Token → Option (Node × List Token)
  | 0, _ => none
  | fuel + 1, tokens =>
    match tokens with
    | .key :: rest => do
      let (key, rest) ← readBracketKey? fuel rest
      let (value, rest) ← readValue? .listEntry fuel rest
      return (.map [(key, value)], rest)
    | _ => read? false false fuel tokens

/-- Read the items inside square brackets, of which there is one at least. -/
def readBrackets? : (fuel : Nat) → List Token → Option (List Node × List Token)
  | 0, _ => none
  | fuel + 1, tokens => do
    let (item, rest) ← readBracketItem? fuel tokens
    match rest with
    | .closeList :: rest => return ([item], rest)
    | .comma :: .closeList :: rest => return ([item], rest)
    | .comma :: rest => do
      let (items, rest) ← readBrackets? fuel rest
      return (item :: items, rest)
    | _ => none

/-- Read an entry inside braces, whose value may be left out. -/
def readBraceEntry? : (fuel : Nat) → List Token → Option ((Node × Node) × List Token)
  | 0, _ => none
  | fuel + 1, tokens =>
    match tokens with
    | .key :: rest => do
      let (key, rest) ← readOptional? .mapEntry fuel rest
      let (value, rest) ← readValue? .mapEntry fuel rest
      return ((key, value), rest)
    | _ => do
      let (key, rest) ← read? false false fuel tokens
      return ((key, missing), rest)

/-- Read the entries inside braces, of which there is one at least. -/
def readBraces? : (fuel : Nat) → List Token → Option (List (Node × Node) × List Token)
  | 0, _ => none
  | fuel + 1, tokens => do
    let (entry, rest) ← readBraceEntry? fuel tokens
    match rest with
    | .closeMap :: rest => return ([entry], rest)
    | .comma :: .closeMap :: rest => return ([entry], rest)
    | .comma :: rest => do
      let (entries, rest) ← readBraces? fuel rest
      return (entry :: entries, rest)
    | _ => none
end

/-- Read the value of a document, behind which nothing but marks of its end may stand. -/
def readDocument? (tokens : List Token) : Option Node := do
  let (node, rest) ← read? true false (3 * tokens.length + 3) tokens
  if rest.all (· == .documentEnd) then return node else none

/--
The document that a list of tokens spells.  Its value is left out where there is
no token at all, or where only marks of its end follow the mark of its start.
-/
def ofTokens? (tokens : List Token) : Option Node :=
  match tokens with
  | [] => some missing
  | .documentStart :: rest =>
    if rest.all (· == .documentEnd) then some missing else readDocument? rest
  | rest => readDocument? rest

def ofText? (text : String) : Option Node :=
  (tokens? text.toList).bind ofTokens?

end Node

end SchemaOverlay.Yaml
