/-!
# Cancellation

A scan asks its monitor before every row whether it should stop.  A monitor is
described by how many of its next answers are still "go on", and counts how
often it was asked.
-/

namespace SchemaOverlay

/-- Answers a scan's question whether to stop. -/
structure Monitor where
  /-- How many more times it lets a scan go on; without a number, always. -/
  allowance : Option Nat
  /-- How often it was asked. -/
  polls : Nat
  deriving DecidableEq, Repr, Inhabited

namespace Monitor

def never : Monitor := ⟨none, 0⟩

def canceled : Monitor := ⟨some 0, 0⟩

/-- Lets a scan go on a number of times. -/
def after (count : Nat) : Monitor := ⟨some count, 0⟩

/-- Whether the next answer is to stop. -/
def isCanceled (monitor : Monitor) : Bool := monitor.allowance == some 0

def polled (monitor : Monitor) : Monitor :=
  ⟨monitor.allowance.map (· - 1), monitor.polls + 1⟩

end Monitor

end SchemaOverlay
