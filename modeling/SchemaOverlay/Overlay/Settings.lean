import SchemaOverlay.Overlay.Action

/-!
# Owned settings

An object owns settings from the first time they are created for it or
installed on it, and never changes them for others.  Settings may be shared: an
edit is seen by everyone who holds them.
-/

namespace SchemaOverlay

namespace SettingsId

/-- New settings with the given contents, held by the caller. -/
def create (contents : TransformSettings) : Action SettingsId := do
  let id : SettingsId := ⟨← Action.freshNumber⟩
  Action.change (·.updateContents id contents)
  Action.change (·.retain (.settings id))
  return id

/-- Carry out a change of the contents. -/
def edit (id : SettingsId) (edit : TransformSettings.Edit) : Action Unit :=
  Action.change fun store => store.updateContents id ((store.contents id).apply edit)

end SettingsId

namespace OverlayObject

def fillSlot (object : OverlayObject) (id : SettingsId) : Action Unit :=
  Action.change fun store => { store with slots := store.slots ++ [(object, id)] }

/-- Settings of an object come into being; reported for columns alone. -/
def reportSettings : OverlayObject → Action Unit
  | .column overlay => Action.report (.createdAttributeSettings overlay.name)
  | _ => return ()

/-- The object's own settings; new ones in which nothing was decided when it has none. -/
def createSettings (object : OverlayObject) : Action SettingsId := do
  match ← Action.read (·.ownSettings? object) with
  | some id => return id
  | none =>
    object.reportSettings
    let id : SettingsId := ⟨← Action.freshNumber⟩
    Action.change (·.updateContents id .empty)
    object.fillSlot id
    return id

/-- Make settings the object's own unless it has some; yields those that it has then. -/
def installSettings (object : OverlayObject) (id : SettingsId) : Action SettingsId := do
  match ← Action.read (·.ownSettings? object) with
  | some own => return own
  | none =>
    object.fillSlot id
    return id

end OverlayObject

end SchemaOverlay
