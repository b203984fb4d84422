import SchemaOverlay.Text.Blank
import SchemaOverlay.Text.Case
import SchemaOverlay.Text.Fields

/-!
# Kinds of values

The coarse category of a column's values, read off the name of its type.  The
name is trimmed and put in lower case.  Array types are structures whatever
their elements are; otherwise the part in front of the first parenthesis, the
base, and its first word decide, and the first rule that applies wins.
-/

namespace SchemaOverlay

/-- The category of a value. -/
inductive DataKind where
  | boolean
  | numeric
  | string
  | datetime
  | binary
  | structured
  deriving DecidableEq, Repr, Inhabited

namespace DataKind

def integerWords : List String :=
  ["int", "int2", "int4", "int8", "integer", "smallint", "bigint", "tinyint", "mediumint",
    "serial", "serial2", "serial4", "serial8", "smallserial", "bigserial"]

/-- First words of the other exact or approximate numbers. -/
def numberWords : List String := ["numeric", "decimal", "real", "money", "number"]

def geometryWords : List String :=
  ["point", "line", "lseg", "box", "path", "polygon", "circle", "geometry"]

/-- Whether the text is one of the words. -/
def isOneOf (words : List String) (text : List Char) : Bool :=
  words.any fun word => word.toList == text

/-- Whether the word stands in the text. -/
def mentions (text : List Char) (word : String) : Bool :=
  Text.holds word.toList text

/-- Whether the text begins with the word. -/
def beginsWith (text : List Char) (word : String) : Bool :=
  Text.startsWith word.toList text

/-- Whether a trimmed name in lower case names an array type. -/
def isArray (name : List Char) : Bool :=
  Text.startsWith "][".toList name.reverse || name.head? == some '_' || mentions name "array"

/-- The type name without what follows the first parenthesis. -/
def base (name : List Char) : List Char :=
  Text.trim (name.takeWhile (· != '('))

def ofBase (base : List Char) : DataKind :=
  let first := Text.firstWord base
  if mentions base "bool" then .boolean
  else if isOneOf integerWords first || isOneOf numberWords first || beginsWith base "float"
      || beginsWith base "double" then .numeric
  else if mentions base "date" || mentions base "time" || isOneOf ["interval"] first then .datetime
  else if mentions base "bytea" || mentions base "blob" || mentions base "binary" then .binary
  else if mentions base "json" || isOneOf geometryWords first then .structured
  else .string

/-- The type name as the rules see it: trimmed and in lower case. -/
def normalized (typeName : List Char) : List Char :=
  Text.lower (Text.trim typeName)

/-- The kind of the values of a type. -/
def ofTypeName (typeName : String) : DataKind :=
  let name := normalized typeName.toList
  if isArray name then .structured else ofBase (base name)

end DataKind

end SchemaOverlay
