/-!
Sleeping.  However long a sleep is asked to take, it is over after thirty years; and a client that
only ever sleeps for no time at all gives way now and then all the same.
-/

namespace IssuanceClient

/-- The longest time that a sleep takes, in milliseconds: thirty years of 365 days. -/
def longestSleep : Nat := 30 * 365 * 24 * 60 * 60 * 1000

/-- How long a sleep takes that is asked to take `span` milliseconds. -/
def sleepTime (span : Nat) : Nat := min span longestSleep

/-- How many sleeps may end in one turn of a client.  A turn begins when the client is woken after
some time has passed; with one more sleep that takes no time, the client gives way and begins a new
turn at the same time. -/
def sleepsPerTurn : Nat := 128

/-- A sleep takes no time only where none is asked for. -/
theorem sleepTime_eq_zero_iff {span : Nat} : sleepTime span = 0 ↔ span = 0 := by
  rw [sleepTime, longestSleep]
  omega

end IssuanceClient
