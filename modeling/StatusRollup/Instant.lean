import StatusRollup.Calendar

/-!
# Instants and lengths of time

An instant is a day, a second of that day and nanoseconds. A leap second is the 60th second of a
minute: it is written with the second before it and nanoseconds from a thousand million on, so it
comes after that second and before the next minute in the lexicographic order.

The time elapsed between two instants is exact. A leap second that starts or ends the stretch is
counted as the comment on `Instant.leapCorrection` says.
-/

namespace StatusRollup

/-- Nanoseconds in a second. -/
def nanosPerSecond : Nat := 1000000000

/-- A length of time, in nanoseconds. -/
structure Duration where
  /-- The nanoseconds. -/
  nanos : Nat
  deriving DecidableEq

namespace Duration

/-- So many whole seconds. -/
def ofSeconds (seconds : Nat) : Duration := ⟨seconds * nanosPerSecond⟩

/-- Seconds and nanoseconds together. -/
def ofParts (seconds nanos : Nat) : Duration := ⟨seconds * nanosPerSecond + nanos⟩

/-- The whole seconds. -/
def seconds (d : Duration) : Nat := d.nanos / nanosPerSecond

/-- The nanoseconds beyond the whole seconds. -/
def subsec (d : Duration) : Nat := d.nanos % nanosPerSecond

/-- No time at all. -/
def zero : Duration := ⟨0⟩

instance : LE Duration := ⟨fun a b ↦ a.nanos ≤ b.nanos⟩

instance (a b : Duration) : Decidable (a ≤ b) := inferInstanceAs (Decidable (a.nanos ≤ b.nanos))

end Duration

/-- The bounds of an instant's parts: the day is representable, the second lies in the day, and only
the last second of a minute may be followed by a leap second. -/
abbrev Instant.InRange (day : Int) (second nano : Nat) : Prop :=
  Date.firstDay ≤ day ∧ day ≤ Date.lastDay ∧ second < 86400 ∧ nano < 2 * nanosPerSecond ∧
    (nanosPerSecond ≤ nano → second % 60 = 59)

/-- A point in time. -/
structure Instant where
  /-- Days since 1970-01-01. -/
  day : Int
  /-- The second of the day. -/
  second : Nat
  /-- The nanoseconds, from a thousand million on inside a leap second. -/
  nano : Nat
  /-- The parts are within their bounds. -/
  inRange : Instant.InRange day second nano
  deriving DecidableEq

namespace Instant

/-- The instant with these parts, if they are within their bounds. -/
def ofParts? (day : Int) (second nano : Nat) : Option Instant :=
  if h : InRange day second nano then some ⟨day, second, nano, h⟩ else none

instance : LT Instant where
  lt a b := a.day < b.day ∨
    (a.day = b.day ∧ (a.second < b.second ∨ (a.second = b.second ∧ a.nano < b.nano)))

instance : LE Instant where
  le a b := a.day < b.day ∨
    (a.day = b.day ∧ (a.second < b.second ∨ (a.second = b.second ∧ a.nano ≤ b.nano)))

instance (a b : Instant) : Decidable (a < b) := inferInstanceAs (Decidable (_ ∨ _))

instance (a b : Instant) : Decidable (a ≤ b) := inferInstanceAs (Decidable (_ ∨ _))

instance : Max Instant := ⟨fun a b ↦ if a ≤ b then b else a⟩

/-- The latest of some instants. -/
def latest (ts : List Instant) : Option Instant := ts.max?

/-- Seconds to add for a leap second at one end of a stretch of time. Its nanoseconds already carry
a second. When the stretch starts in a leap second and ends later in a day, that second has passed
too, so one is added; when it ends in a leap second and starts later in a day, one is taken away.
Later is asked of the times of day alone, whatever the days. -/
def leapCorrection (since now : Instant) : Int :=
  if since.second < now.second ∧ nanosPerSecond ≤ since.nano then 1
  else if now.second < since.second ∧ nanosPerSecond ≤ now.nano then -1
  else 0

/-- Nanoseconds from one instant to another, negative when the second one is earlier. -/
def nanosBetween (since now : Instant) : Int :=
  ((now.day - since.day) * 86400 + (now.second - since.second) + leapCorrection since now)
    * nanosPerSecond + (now.nano - since.nano)

/-- How long ago `since` was at `now`; nothing, if it is still to come. -/
def age (since now : Instant) : Duration := ⟨(nanosBetween since now).toNat⟩

theorem le_def {a b : Instant} : a ≤ b ↔ a.day < b.day ∨
    (a.day = b.day ∧ (a.second < b.second ∨ (a.second = b.second ∧ a.nano ≤ b.nano))) :=
  Iff.rfl

theorem le_total (a b : Instant) : a ≤ b ∨ b ≤ a := by
  rw [le_def, le_def]
  omega

end Instant

end StatusRollup
