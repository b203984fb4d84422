import SchemaOverlay.Event
import SchemaOverlay.Overlay.Store

/-!
# Actions on the store

An action reads and changes the store, reports events and yields a value.  One
action after another passes the store on and lists the events of both in order.
-/

namespace SchemaOverlay

/-- What an action leaves behind. -/
structure Outcome (α : Type) where
  value : α
  store : Store
  events : List Event

/-- Something that is done to the store. -/
def Action (α : Type) : Type := Store → Outcome α

namespace Action

variable {α β γ : Type}

/-- Yield a value and do nothing. -/
def done (value : α) : Action α := fun store => ⟨value, store, []⟩

/-- Do one action, then the one that its value leads to. -/
def followedBy (first : Action α) (second : α → Action β) : Action β := fun store =>
  let before := first store
  let after := second before.value before.store
  ⟨after.value, after.store, before.events ++ after.events⟩

instance : Monad Action where
  pure := done
  bind := followedBy

def read (view : Store → α) : Action α := fun store => ⟨view store, store, []⟩

def change (update : Store → Store) : Action Unit := fun store => ⟨(), update store, []⟩

def report (event : Event) : Action Unit := fun store => ⟨(), store, [event]⟩

/-- Yield a number that was not used before. -/
def freshNumber : Action Nat := fun store =>
  ⟨store.fresh, { store with fresh := store.fresh + 1 }, []⟩

@[simp] theorem pure_apply (value : α) (store : Store) :
    (pure value : Action α) store = ⟨value, store, []⟩ := rfl

@[simp] theorem bind_apply (first : Action α) (second : α → Action β) (store : Store) :
    (first >>= second) store =
      ⟨(second (first store).value (first store).store).value,
        (second (first store).value (first store).store).store,
        (first store).events ++ (second (first store).value (first store).store).events⟩ := rfl

@[simp] theorem read_apply (view : Store → α) (store : Store) :
    read view store = ⟨view store, store, []⟩ := rfl

@[simp] theorem change_apply (update : Store → Store) (store : Store) :
    change update store = ⟨(), update store, []⟩ := rfl

@[simp] theorem report_apply (event : Event) (store : Store) :
    report event store = ⟨(), store, [event]⟩ := rfl

@[simp] theorem freshNumber_apply (store : Store) :
    freshNumber store = ⟨store.fresh, { store with fresh := store.fresh + 1 }, []⟩ := rfl

end Action

end SchemaOverlay
