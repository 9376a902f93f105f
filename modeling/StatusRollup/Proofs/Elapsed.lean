import StatusRollup.Policy

/-!
# Time elapsed

How long ago an instant was, set against one scale of nanoseconds (`Instant.epochNanos`). Outside
leap seconds the scale is exact: elapsed time is the distance of two places on it
(`nanosBetween_of_not_isLeap`), and the place moves on with the instant.

A leap second has no place of its own. It lies over the second that follows it, and whether it is
counted depends on the times of day at both ends. So the elapsed time may shrink while the clock
goes on, but only between instants less than a second apart on the scale:

* `nanosBetween_le_of_not_isLeap` — outside leap seconds elapsed time never shrinks.
* `nanosBetween_le_of_second_later` — it never shrinks either from one instant to another that is at
  least a second further on the scale, wherever leap seconds lie.

`Policy.outlasted_iff` reads a hold on this scale, and `Policy.outlasted_of_le` carries both facts
over to it.
-/

namespace StatusRollup

theorem Duration.eq_zero_iff {d : Duration} : d = .zero ↔ d.nanos = 0 := by
  cases d
  simp [zero]

namespace Instant

variable {a b since now now' : Instant}

/-! ### The order of instants -/

theorem le_refl (a : Instant) : a ≤ a := by
  rw [le_def]
  omega

theorem le_trans {c : Instant} (hab : a ≤ b) (hbc : b ≤ c) : a ≤ c := by
  rw [le_def] at hab hbc ⊢
  omega

theorem le_antisymm (hab : a ≤ b) (hba : b ≤ a) : a = b := by
  rw [le_def] at hab hba
  cases a
  cases b
  simp only [mk.injEq] at hab hba ⊢
  omega

instance : Std.IsLinearOrder Instant where
  le_refl := le_refl
  le_trans _ _ _ := le_trans
  le_antisymm _ _ := le_antisymm
  le_total := le_total

theorem max_def (a b : Instant) : max a b = if a ≤ b then b else a := rfl

instance : Std.LawfulOrderMax Instant where
  max_eq_or a b := by
    rw [max_def]
    split
    · exact .inr rfl
    · exact .inl rfl
  max_le_iff a b c := by
    rw [max_def]
    split
    · next hab => exact ⟨fun hbc ↦ ⟨le_trans hab hbc, hbc⟩, And.right⟩
    · next hab =>
      have hba : b ≤ a := (le_total a b).resolve_left hab
      exact ⟨fun hac ↦ ⟨hac, le_trans hba hac⟩, And.left⟩

/-- The latest instant is one of them and none is later. -/
theorem latest_eq_some_iff {ts : List Instant} {t : Instant} :
    latest ts = some t ↔ t ∈ ts ∧ ∀ u ∈ ts, u ≤ t :=
  List.max?_eq_some_iff

theorem exists_latest {ts : List Instant} (hts : ts ≠ []) : ∃ t, latest ts = some t := by
  refine Option.isSome_iff_exists.1 ?_
  rw [latest, List.isSome_max?_iff]
  exact hts

/-! ### A scale of nanoseconds -/

/-- The instant lies in a leap second. -/
def IsLeap (t : Instant) : Prop := nanosPerSecond ≤ t.nano

instance (t : Instant) : Decidable t.IsLeap := inferInstanceAs (Decidable (_ ≤ _))

/-- Nanoseconds since 1970-01-01T00:00:00, no leap second counted. A leap second lies over the
second after it. -/
def epochNanos (t : Instant) : Int := (t.day * 86400 + t.second) * nanosPerSecond + t.nano

/-- Elapsed time is the distance on the scale, put right for leap seconds at its ends. -/
theorem nanosBetween_eq :
    nanosBetween since now =
      now.epochNanos - since.epochNanos + leapCorrection since now * nanosPerSecond := by
  simp only [nanosBetween, epochNanos, nanosPerSecond]
  omega

theorem leapCorrection_of_not_isLeap (hsince : ¬since.IsLeap) (hnow : ¬now.IsLeap) :
    leapCorrection since now = 0 := by
  rw [leapCorrection, if_neg fun h ↦ hsince h.2, if_neg fun h ↦ hnow h.2]

/-- **Outside leap seconds elapsed time is exact.** -/
theorem nanosBetween_of_not_isLeap (hsince : ¬since.IsLeap) (hnow : ¬now.IsLeap) :
    nanosBetween since now = now.epochNanos - since.epochNanos := by
  rw [nanosBetween_eq, leapCorrection_of_not_isLeap hsince hnow]
  omega

/-- Later instants are further on the scale, as long as the earlier one is not in a leap second. -/
theorem epochNanos_le_of_le (h : a ≤ b) (ha : ¬a.IsLeap) : a.epochNanos ≤ b.epochNanos := by
  rw [le_def] at h
  obtain ⟨-, -, hsecond, -, -⟩ := a.inRange
  simp only [IsLeap, epochNanos, nanosPerSecond] at ha ⊢
  omega

/-! ### Elapsed time as the clock goes on -/

/-- **Outside leap seconds elapsed time never shrinks.** -/
theorem nanosBetween_le_of_not_isLeap (h : now ≤ now') (hsince : ¬since.IsLeap)
    (hnow : ¬now.IsLeap) (hnow' : ¬now'.IsLeap) :
    nanosBetween since now ≤ nanosBetween since now' := by
  rw [nanosBetween_of_not_isLeap hsince hnow, nanosBetween_of_not_isLeap hsince hnow']
  have hscale := epochNanos_le_of_le h hnow
  omega

/-- What the correction can be, and when. -/
theorem leapCorrection_cases (since now : Instant) :
    (leapCorrection since now = 1 ∧ since.second < now.second ∧ since.IsLeap) ∨
      (leapCorrection since now = -1 ∧ now.second < since.second ∧ now.IsLeap) ∨
      leapCorrection since now = 0 := by
  rw [leapCorrection]
  split
  · next h => exact .inl ⟨rfl, h⟩
  · split
    · next h => exact .inr (.inl ⟨rfl, h⟩)
    · exact .inr (.inr rfl)

/-- A second on the scale makes up for any fall of the correction. It falls by one at most, except
into a leap second of a later day: there it may fall by two, but a leap second ends its minute, so
the clock has gone on for far longer. -/
theorem leapCorrection_le (since : Instant)
    (hfar : now.epochNanos + nanosPerSecond ≤ now'.epochNanos) :
    leapCorrection since now * nanosPerSecond + now.epochNanos ≤
      leapCorrection since now' * nanosPerSecond + now'.epochNanos := by
  rcases leapCorrection_cases since now' with ⟨h', -, -⟩ | ⟨h', hback, hleap⟩ | h' <;>
    rcases leapCorrection_cases since now with ⟨h, hforth, -⟩ | ⟨h, -, -⟩ | h <;>
    rw [h, h']
  case inr.inl.inl =>
    -- the fall by two: the time of day went back, so `now'` is a minute into a later day
    obtain ⟨-, -, hsecond, hnano, -⟩ := now.inRange
    obtain ⟨-, -, -, hnano', hminute⟩ := now'.inRange
    have hlast : now'.second % 60 = 59 := hminute hleap
    simp only [epochNanos, nanosPerSecond] at hfar hnano hnano' ⊢
    omega
  all_goals
    simp only [nanosPerSecond] at hfar ⊢
    omega

/-- **From one second to the next elapsed time never shrinks**, wherever leap seconds lie. -/
theorem nanosBetween_le_of_second_later
    (hfar : now.epochNanos + nanosPerSecond ≤ now'.epochNanos) :
    nanosBetween since now ≤ nanosBetween since now' := by
  have hcorrection := leapCorrection_le since hfar
  rw [nanosBetween_eq, nanosBetween_eq]
  omega

end Instant

namespace Policy

variable {p : Policy} {now now' : Instant} {x : Condition}

/-- A hold has been outlasted when there is none, or when the elapsed time is as long. A time that
is still to come counts as none, so it outlasts no positive hold. -/
theorem outlasted_iff :
    p.outlasted now x = true ↔
      p.holdFor x.type = .zero ∨ (p.holdFor x.type).nanos ≤ Instant.nanosBetween x.since now := by
  have hle : p.outlasted now x = true ↔
      (p.holdFor x.type).nanos ≤ (Instant.nanosBetween x.since now).toNat :=
    decide_eq_true_iff
  rw [hle, Duration.eq_zero_iff]
  omega

/-- **A hold that has been outlasted stays so**, outside leap seconds or from one second to the
next. -/
theorem outlasted_of_le (h : now ≤ now')
    (hleap : now.epochNanos + nanosPerSecond ≤ now'.epochNanos ∨
      ¬now.IsLeap ∧ ¬now'.IsLeap ∧ ¬x.since.IsLeap)
    (hout : p.outlasted now x = true) : p.outlasted now' x = true := by
  have helapsed : Instant.nanosBetween x.since now ≤ Instant.nanosBetween x.since now' := by
    rcases hleap with hfar | ⟨hnow, hnow', hsince⟩
    · exact Instant.nanosBetween_le_of_second_later hfar
    · exact Instant.nanosBetween_le_of_not_isLeap h hsince hnow hnow'
  rw [outlasted_iff] at hout ⊢
  rcases hout with hnone | hlong
  · exact .inl hnone
  · exact .inr (Int.le_trans hlong helapsed)

end Policy

end StatusRollup
