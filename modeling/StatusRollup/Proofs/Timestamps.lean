import StatusRollup.Instant.Text
import StatusRollup.Proofs.Calendar
import StatusRollup.Proofs.Digits

/-!
# The written form of an instant is read as that instant

Every instant, in a year of any sign and length, with any fraction of a second and inside a leap
second or not, is read back from its written form (`Instant.read?_write`).

The reader accepts more than what is written: blanks, numbers of fewer digits, other offsets. So
each of its steps gets one lemma that says what it does on the written part followed by any text
that cannot continue the part. For a number this is a text that does not begin with a digit, for a
fraction one that begins with neither a digit nor a point. What is left then is about the calendar
(`Date.dayNumber_ofDayNumber`, `Date.exists_ofDayNumber`).
-/

namespace StatusRollup.Instant

open Text

variable {n width : Nat} {ds rest : List Char}

/-! ### Numbers and marks -/

/-- As many digits as there are, up to the width, are read and valued. -/
theorem readDigits_append (hds : ∀ c ∈ ds, c.isDigit = true) (hne : ds ≠ [])
    (hwidth : ds.length ≤ width) (hrest : ∀ c ∈ rest.head?, c.isDigit = false) :
    readDigits width (ds ++ rest) = some (valueOf ds, rest) := by
  have hstops : ∀ c ∈ (rest.take (width - ds.length)).head?, c.isDigit = false := by
    intro c hc
    rw [List.head?_take] at hc
    split at hc
    · exact absurd hc (Option.not_mem_none c)
    · exact hrest c hc
  have htaken : ((ds ++ rest).take width).takeWhile Char.isDigit = ds := by
    rw [List.take_append, List.take_of_length_le hwidth]
    exact takeWhile_append_of_stops hds hstops
  rw [readDigits, htaken, List.drop_left]
  simp [hne]

theorem readNumber_append (hds : ∀ c ∈ ds, c.isDigit = true) (hne : ds ≠ [])
    (hwidth : ds.length ≤ width) (hrest : ∀ c ∈ rest.head?, c.isDigit = false) :
    readNumber width (ds ++ rest) = some (valueOf ds, rest) := by
  rw [readNumber, skipBlank_digits_append hds hne, readDigits_append hds hne hwidth hrest]

/-- Two digits are read as the number that they write. -/
theorem readNumber_fixed (hn : n < 100) (hrest : ∀ c ∈ rest.head?, c.isDigit = false) :
    readNumber 2 (fixed 2 n ++ rest) = some (n, rest) := by
  have hne : fixed 2 n ≠ [] := List.ne_nil_of_length_pos (by simp)
  rw [readNumber_append (fun _ ↦ isDigit_of_mem_fixed) hne (by simp) hrest, valueOf_fixed hn]

theorem readMark_cons {mark : Char} (h : isBlank mark = false) :
    readMark mark (mark :: rest) = some rest := by
  rw [readMark, skipBlank_eq_self (stops_cons h)]
  exact if_pos rfl

/-! ### The parts of an instant -/

/-- A year is read with the sign that it was written with. -/
theorem readYear_writeYear (year : Int) (hrest : ∀ c ∈ rest.head?, c.isDigit = false) :
    readYear (writeYear year ++ rest) = some (year, rest) := by
  rw [writeYear]
  split
  · next hrange =>
    have hdigits : ∀ c ∈ fixed 4 year.toNat, c.isDigit = true := fun _ ↦ isDigit_of_mem_fixed
    have hne : fixed 4 year.toNat ≠ [] := List.ne_nil_of_length_pos (by simp)
    have hsmall : year.toNat < Nat.pow 10 4 := show year.toNat < 10000 by omega
    have hread : readDigits 4 (fixed 4 year.toNat ++ rest) = some (year.toNat, rest) := by
      rw [readDigits_append hdigits hne (Nat.le_of_eq length_fixed) hrest, valueOf_fixed hsmall]
    rw [readYear, skipBlank_digits_append hdigits hne]
    split
    -- a digit is no sign
    · next hminus => exact absurd (isDigit_of_digits_append hdigits hne hminus) (by decide)
    · next hplus => exact absurd (isDigit_of_digits_append hdigits hne hplus) (by decide)
    · rw [hread, Option.map_some]
      show some ((year.toNat : Int), rest) = _
      rw [Int.toNat_of_nonneg hrange.1]
  · have hread : readDigits (padded 4 year.natAbs ++ rest).length (padded 4 year.natAbs ++ rest) =
        some (year.natAbs, rest) := by
      rw [readDigits_append (fun _ ↦ isDigit_of_mem_padded) padded_ne_nil (by simp) hrest,
        valueOf_padded]
    by_cases hneg : year < 0
    · rw [if_pos hneg, List.cons_append, readYear, skipBlank_eq_self (stops_cons (by decide))]
      show Option.map _ (readDigits _ _) = _
      rw [hread, Option.map_some]
      show some (-(year.natAbs : Int), rest) = _
      rw [show -(year.natAbs : Int) = year by omega]
    · rw [if_neg hneg, List.cons_append, readYear, skipBlank_eq_self (stops_cons (by decide))]
      show Option.map _ (readDigits _ _) = _
      rw [hread, Option.map_some]
      show some ((year.natAbs : Int), rest) = _
      rw [show (year.natAbs : Int) = year by omega]

/-- A fraction of so many digits is read in nanoseconds. -/
theorem readFraction_fixed (hn : n < Nat.pow 10 width) (hpos : 0 < width) (hwidth : width ≤ 9)
    (hrest : ∀ c ∈ rest.head?, c.isDigit = false) :
    readFraction ('.' :: fixed width n ++ rest) = some (n * Nat.pow 10 (9 - width), rest) := by
  have htaken : (fixed width n ++ rest).takeWhile Char.isDigit = fixed width n :=
    takeWhile_append_of_stops (fun _ ↦ isDigit_of_mem_fixed) hrest
  have hne : fixed width n ≠ [] := List.ne_nil_of_length_pos (by simpa using hpos)
  have hkept : (fixed width n).take 9 = fixed width n :=
    List.take_of_length_le (by simpa using hwidth)
  rw [List.cons_append, readFraction, htaken, List.drop_left, hkept, valueOf_fixed hn, length_fixed]
  simp [hne]

/-- A fraction is read as it was written, in whatever number of digits. -/
theorem readFraction_writeFraction (hn : n < nanosPerSecond)
    (hrest : ∀ c ∈ rest.head?, c.isDigit = false ∧ c ≠ '.') :
    readFraction (writeFraction n ++ rest) = some (n, rest) := by
  have hdigit : ∀ c ∈ rest.head?, c.isDigit = false := fun c hc ↦ (hrest c hc).1
  have hbound : n < 1000000000 := hn
  rw [writeFraction]
  split
  · next hzero =>
    subst hzero
    cases rest with
    | nil => rfl
    | cons c rest =>
      have hpoint : c ≠ '.' := (hrest c rfl).2
      show readFraction (c :: rest) = _
      unfold readFraction
      split
      · next h => exact absurd (List.cons.inj h).1 hpoint
      · rfl
  split
  · have hsmall : n / 1000000 < Nat.pow 10 3 := show n / 1000000 < 1000 by omega
    rw [readFraction_fixed hsmall (by decide) (by decide) hdigit]
    show some (n / 1000000 * 1000000, rest) = _
    rw [Nat.div_mul_cancel (by omega)]
  split
  · have hsmall : n / 1000 < Nat.pow 10 6 := show n / 1000 < 1000000 by omega
    rw [readFraction_fixed hsmall (by decide) (by decide) hdigit]
    show some (n / 1000 * 1000, rest) = _
    rw [Nat.div_mul_cancel (by omega)]
  · rw [readFraction_fixed (show n < Nat.pow 10 9 from hbound) (by decide) (by decide) hdigit]
    show some (n * 1, rest) = _
    rw [Nat.mul_one]

/-! ### Date and time of day -/

/-- The month and the day of a date that exists have at most two digits. -/
theorem month_day_lt_of_exists {date : Date} (h : date.Exists) :
    date.month < 100 ∧ date.day < 100 := by
  obtain ⟨-, hmonth, -, hday⟩ := h
  have hlength : Date.daysInMonth date.year date.month ≤ 31 := by
    unfold Date.daysInMonth
    split
    · split <;> decide
    all_goals decide
  omega

/-- A date is read as it was written. -/
theorem readDate_append {date : Date} (hdate : date.Exists) (tail : List Char) :
    readDate (writeYear date.year ++
      '-' :: (fixed 2 date.month ++ '-' :: (fixed 2 date.day ++ 'T' :: tail))) =
      some (date, 'T' :: tail) := by
  obtain ⟨hmonth, hday⟩ := month_day_lt_of_exists hdate
  have hdash : isBlank '-' = false := by decide
  simp only [readDate, readYear_writeYear date.year (stops_cons (c := '-') rfl),
    Option.bind_eq_bind, Option.bind_some, readMark_cons hdash,
    readNumber_fixed hmonth (stops_cons (c := '-') rfl),
    readNumber_fixed hday (stops_cons (c := 'T') rfl)]

/-- A time of day is read as it was written. In a leap second the written second is the 60th of its
minute, and only the last second of a minute can be followed by one. -/
theorem readTime_append {second nano : Nat} (hsecond : second < 86400)
    (hnano : nano < 2 * nanosPerSecond) (hleap : nanosPerSecond ≤ nano → second % 60 = 59) :
    readTime (fixed 2 (second / 3600) ++ ':' :: (fixed 2 (second / 60 % 60) ++
      ':' :: (fixed 2 (second % 60 + nano / nanosPerSecond) ++
        (writeFraction (nano % nanosPerSecond) ++ ['Z'])))) = some (second, nano, ['Z']) := by
  have hcolon : isBlank ':' = false := by decide
  have hsub : nano % nanosPerSecond < nanosPerSecond := Nat.mod_lt _ (by decide)
  have hfraction : readFraction (writeFraction (nano % nanosPerSecond) ++ ['Z']) =
      some (nano % nanosPerSecond, ['Z']) := readFraction_writeFraction hsub (by simp)
  have hdigit : ∀ c ∈ (writeFraction (nano % nanosPerSecond) ++ ['Z']).head?,
      c.isDigit = false := by
    rw [writeFraction]
    split
    · exact stops_cons rfl
    split
    · exact stops_cons rfl
    split
    · exact stops_cons rfl
    · exact stops_cons rfl
  -- outside a leap second the nanoseconds are all fraction; inside one they hold a second, too
  have hparts : nano / nanosPerSecond = 0 ∧ nano % nanosPerSecond = nano ∨
      nano / nanosPerSecond = 1 ∧ nano % nanosPerSecond + nanosPerSecond = nano ∧
        second % 60 = 59 := by
    simp only [nanosPerSecond] at hnano hleap ⊢
    omega
  simp only [readTime, readNumber_fixed (show second / 3600 < 100 by omega)
      (stops_cons (c := ':') rfl), Option.bind_eq_bind, Option.bind_some, readMark_cons hcolon,
    readNumber_fixed (show second / 60 % 60 < 100 by omega) (stops_cons (c := ':') rfl),
    readNumber_fixed (show second % 60 + nano / nanosPerSecond < 100 by omega) hdigit,
    hfraction]
  rw [if_pos (by omega)]
  rcases hparts with ⟨hzero, hnanos⟩ | ⟨hone, hnanos, hlast⟩
  · rw [if_neg (by omega), hzero, hnanos,
      show second / 3600 * 3600 + second / 60 % 60 * 60 + (second % 60 + 0) = second by omega]
  · rw [if_pos (by omega), hnanos,
      show second / 3600 * 3600 + second / 60 % 60 * 60 + 59 = second by omega]

/-! ### Whole instants -/

/-- Without an offset the local date and time are those of the instant. -/
theorem ofLocal?_zero (t : Instant) :
    ofLocal? (Date.ofDayNumber t.day) t.second t.nano 0 = some t := by
  obtain ⟨hfirst, hlast, hsecond, -, -⟩ := t.inRange
  have hday : (Date.ofDayNumber t.day).dayNumber = t.day := Date.dayNumber_ofDayNumber t.day
  simp only [ofLocal?, hday, Int.sub_zero]
  rw [if_pos ⟨Date.exists_ofDayNumber t.day, hfirst, hlast, by decide⟩,
    show t.day + (t.second : Int) / 86400 = t.day by omega,
    show ((t.second : Int) % 86400).toNat = t.second by omega]
  exact dif_pos t.inRange

/-- **An instant is read back from its written form.** -/
theorem read?_write (t : Instant) : read? t.write = some t := by
  obtain ⟨-, -, hsecond, hnano, hleap⟩ := t.inRange
  have hdate := readDate_append (Date.exists_ofDayNumber t.day)
  have htime := readTime_append hsecond hnano hleap
  rw [read?, write, String.toList_ofList]
  simp only [chars, List.append_assoc, List.cons_append, readChars?, hdate, Option.bind_eq_bind,
    Option.bind_some, htime]
  exact ofLocal?_zero t

/-- A leap second of the year before the year 0, written with its sign and its fraction. -/
example : read? "-0001-12-31T23:59:60.25Z" = ofParts? (-719529) 86399 1250000000 := by decide

end StatusRollup.Instant
