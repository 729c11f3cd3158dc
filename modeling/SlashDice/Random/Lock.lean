import SlashDice.Random.Script

/-!
# A script behind a lock

The users of one script take turns: each of them holds the lock of the script for one
draw.  A draw between crossed bounds stops its user in the middle, when the script has
turned already, and leaves the lock poisoned.  Whoever meets a poisoned lock takes the
script as it was left.
-/

namespace SlashDice

/-- Something that one user at a time may hold.  It is poisoned when a user has been
stopped while holding it. -/
structure Locked (α : Type) where
  content : α
  isPoisoned : Bool := false
  deriving DecidableEq, Repr

namespace Locked

variable {α β : Type}

/-- What a user gets who takes the lock: the content, as an error if it is poisoned. -/
def take (locked : Locked α) : Except α α :=
  if locked.isPoisoned then .error locked.content else .ok locked.content

/-- The content for a user who goes on with what is behind a poisoned lock. -/
def enter (locked : Locked α) : α :=
  match locked.take with
  | .ok content => content
  | .error content => content

/-- Does a step while holding the lock.  A step without a result stops the user: what
it has changed so far stays, and the lock is poisoned. -/
def hold (step : α → Option β × α) (locked : Locked α) : Option β × Locked α :=
  let (result, content) := step locked.enter
  (result, ⟨content, locked.isPoisoned || result.isNone⟩)

@[simp]
theorem enter_eq (locked : Locked α) : locked.enter = locked.content := by
  unfold enter take
  cases locked.isPoisoned <;> rfl

end Locked

namespace Script

def drawLocked (low high : UInt32) (locked : Locked Script) :
    Option UInt32 × Locked Script :=
  locked.hold (draw low high)

/-- The answers to some draws in order, and what is behind the lock after them. -/
def drawAllLocked : List (UInt32 × UInt32) → Locked Script →
    List (Option UInt32) × Locked Script
  | [], locked => ([], locked)
  | (low, high) :: rest, locked =>
    let (answer, next) := drawLocked low high locked
    let (answers, last) := drawAllLocked rest next
    (answer :: answers, last)

end Script
end SlashDice
