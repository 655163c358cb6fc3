/-!
# Debounce timers

A timer holds at most one deadline, which every new change puts off. Time is counted in
milliseconds and always comes from the caller; it may run backwards.
-/

namespace TemplateInspector

/-- A point in time, in milliseconds. -/
abbrev Time := Nat

/-- A timer that is armed with a deadline or not armed. -/
structure DebounceTimer where
  /-- The deadline, if the timer is armed. -/
  deadline : Option Time := none
  deriving DecidableEq, Repr

namespace DebounceTimer

/-- Starts the timer anew, to be due after an interval. -/
def arm (_ : DebounceTimer) (now : Time) (interval : Nat) : DebounceTimer :=
  ⟨some (now + interval)⟩

/-- Stops the timer. -/
def cancel (_ : DebounceTimer) : DebounceTimer :=
  ⟨none⟩

/-- Whether the timer is armed. -/
def isArmed (timer : DebounceTimer) : Bool :=
  timer.deadline.isSome

/-- Whether the deadline of the timer has come. -/
def isDue (timer : DebounceTimer) (now : Time) : Bool :=
  timer.deadline.any fun deadline => deadline ≤ now

end DebounceTimer

end TemplateInspector
