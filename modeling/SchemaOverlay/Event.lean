import SchemaOverlay.Schema.ObjectId

/-!
# Events

What the library reports while it works.  An event has a level, a message, and
fields that say what it is about.
-/

namespace SchemaOverlay

/-- How serious an event is. -/
inductive Level where
  | debug
  | warn
  | error
  deriving DecidableEq, Repr

/-- Something worth reporting. -/
inductive Event where
  /-- The model of a data source was registered. -/
  | registeredModel (dataSource : String)
  /-- A look-up needed a model that is not registered. -/
  | missingModel (dataSource : String)
  /-- A model was asked about an object of another data source. -/
  | foreignObject (dataSource : String) (object : ObjectId)
  /-- An entity got its overlay. -/
  | createdEntity (id : ObjectId)
  /-- A container got its overlay. -/
  | createdContainer (id : ObjectId)
  /-- A detached container got its overlay. -/
  | createdOrphan (key name : String)
  /-- An attribute got settings of its own. -/
  | createdAttributeSettings (name : String)
  /-- A dictionary scan was stopped after a number of rows. -/
  | canceledScan (dataSource : String) (rows : Nat)
  /-- The real entity behind a reference was not found. -/
  | unresolvedEntity (entity reason : String)
  deriving DecidableEq, Repr

namespace Event

def level : Event → Level
  | .missingModel _ | .foreignObject _ _ => .warn
  | .unresolvedEntity _ _ => .error
  | _ => .debug

def message : Event → String
  | .registeredModel _ => "Registered virtual model"
  | .missingModel _ => "No virtual model registered for data source"
  | .foreignObject _ _ => "Entity belongs to another data source"
  | .createdEntity _ => "Created virtual entity"
  | .createdContainer _ => "Created virtual container"
  | .createdOrphan _ _ => "Created orphan virtual entity"
  | .createdAttributeSettings _ => "Created attribute transform settings"
  | .canceledScan _ _ => "Dictionary scan canceled"
  | .unresolvedEntity _ _ => "Failed to resolve real entity"

/-- What the event is about, by field names. -/
def fields : Event → List (String × String)
  | .registeredModel dataSource => [("data_source", dataSource)]
  | .missingModel dataSource => [("data_source", dataSource)]
  | .foreignObject dataSource object => [("data_source", dataSource), ("object", object.display)]
  | .createdEntity id => [("entity", id.display)]
  | .createdContainer id => [("container", id.display)]
  | .createdOrphan key name => [("key", key), ("entity", name)]
  | .createdAttributeSettings name => [("attribute", name)]
  | .canceledScan dataSource rows => [("data_source", dataSource), ("rows", toString rows)]
  | .unresolvedEntity entity reason => [("entity", entity), ("error", reason)]

/-- Whether the event reports that something came into being. -/
def isCreation : Event → Bool
  | .createdEntity _ | .createdContainer _ | .createdOrphan _ _
  | .createdAttributeSettings _ => true
  | _ => false

end Event

end SchemaOverlay
