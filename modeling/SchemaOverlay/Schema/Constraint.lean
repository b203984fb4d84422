import SchemaOverlay.Schema.ObjectId

/-!
# Constraints and associations

What a schema declares about the columns of its entities: keys and checks of one
entity, and foreign keys that lead from an owner to a referenced entity.
-/

namespace SchemaOverlay

/-- What a constraint demands. -/
inductive ConstraintKind where
  | primaryKey
  | uniqueKey
  | check
  deriving DecidableEq, Repr, Inhabited

/-- A constraint on the columns of one entity. -/
structure Constraint where
  name : String
  kind : ConstraintKind
  columns : List String
  deriving DecidableEq, Repr, Inhabited

/-- A column of a referencing entity and the column it refers to. -/
structure ColumnPair where
  column : String
  referencedColumn : String
  deriving DecidableEq, Repr, Inhabited

/-- A foreign key that leads from its owner to a referenced entity. -/
structure Association where
  name : String
  owner : ObjectId
  referenced : ObjectId
  columns : List ColumnPair
  deriving DecidableEq, Repr, Inhabited

end SchemaOverlay
