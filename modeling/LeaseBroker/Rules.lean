import LeaseBroker.Search

/-!
# Rules

A rule waits for events of one kind whose text holds a given part. It lets some
of them pass, acts on the next few and is spent. Of all the rules that an event
concerns, the oldest that is not spent is the only one to notice it.
-/

namespace LeaseBroker

/-- What to do (`α`) on events of a kind (`ε`). -/
structure Rule (ε α : Type) where
  event : ε
  /-- The part that the text of an event must hold. -/
  part : String := ""
  /-- How many events still pass. -/
  skip : Nat := 0
  /-- How often the rule still acts. -/
  times : Nat := 1
  action : α
  deriving DecidableEq, Repr

namespace Rule

variable {ε α : Type} [DecidableEq ε]

def concerns (r : Rule ε α) (event : ε) (text : String) : Bool :=
  decide (r.event = event) && 0 < r.times && Search.contains text r.part

/-- The action of a rule on an event that it notices, and the rule afterwards. -/
def notice (r : Rule ε α) : Option α × Rule ε α :=
  if 0 < r.skip then (none, { r with skip := r.skip - 1 }) else (some r.action, { r with times := r.times - 1 })

/-- What the rules do on an event, and the rules afterwards. -/
def consult (event : ε) (text : String) : List (Rule ε α) → Option α × List (Rule ε α)
  | [] => (none, [])
  | r :: rs =>
    if r.concerns event text then (r.notice.1, r.notice.2 :: rs)
    else ((consult event text rs).1, r :: (consult event text rs).2)

/-- How often rules can still act. -/
def remaining : List (Rule ε α) → Nat
  | [] => 0
  | r :: rs => r.times + remaining rs

end Rule

end LeaseBroker
