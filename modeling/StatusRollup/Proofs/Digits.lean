import StatusRollup.Text.Blank
import StatusRollup.Text.Digits

/-!
# Numbers are read back from their digits

What a reader needs to know of a written number: it consists of digits, it stops where the next
character is none, and the digits have the number as their value.

* `valueOf_fixed` — so many last digits hold a number that is small enough for them.
* `valueOf_toDigits`, `valueOf_padded` — all digits of a number, with zeros in front or without.
* `toDigits_valueOf_iff` — and digits without zeros in front are those of the number.
* `takeWhile_append_of_stops` — a reader that takes digits as long as there are any takes exactly
  the written ones.
-/

namespace StatusRollup.Text

variable {c : Char} {w n : Nat} {ds : List Char}

/-! ### One digit -/

theorem isDigit_digit : ∀ {n : Nat}, n < 10 → (digit n).isDigit = true := by
  decide

theorem digitValue_digit : ∀ {n : Nat}, n < 10 → digitValue (digit n) = n := by
  decide

/-- The digits stand in a row. -/
theorem toNat_of_isDigit (h : c.isDigit = true) : 48 ≤ c.toNat ∧ c.toNat ≤ 57 := by
  simp only [Char.isDigit, Bool.and_eq_true, decide_eq_true_eq, ge_iff_le, UInt32.le_iff_toNat_le]
    at h
  exact h

theorem digitValue_lt (h : c.isDigit = true) : digitValue c < 10 := by
  have hvalue : digitValue c = c.toNat - 48 := rfl
  obtain ⟨-, hhigh⟩ := toNat_of_isDigit h
  omega

/-- A digit is the one that its value is written with. -/
theorem digitChar_digitValue (h : c.isDigit = true) : (digitValue c).digitChar = c := by
  have hdigit : ∀ n < 10, n.digitChar = digit n := by decide
  have hplace : '0'.toNat + digitValue c = c.toNat := Nat.add_sub_of_le (toNat_of_isDigit h).1
  rw [hdigit _ (digitValue_lt h), digit, hplace, Char.ofNat_toNat]

/-- A digit is not blank. -/
theorem isBlank_of_isDigit (h : c.isDigit = true) : isBlank c = false := by
  obtain ⟨hlow, hhigh⟩ := toNat_of_isDigit h
  rw [Char.toNat] at hlow hhigh
  simp only [isBlank, Bool.or_eq_false_iff, Bool.and_eq_false_iff, decide_eq_false_iff_not,
    Char.le_def, UInt32.le_iff_toNat_le, beq_eq_false_iff_ne, ne_eq, Char.ext_iff,
    ← UInt32.toNat_inj, Char.reduceVal, UInt32.reduceToNat]
  omega

/-! ### Runs of digits -/

theorem valueOf_concat (ds : List Char) (c : Char) :
    valueOf (ds ++ [c]) = 10 * valueOf ds + digitValue c := by
  simp [valueOf]

@[simp] theorem length_fixed : (fixed w n).length = w := by
  induction w generalizing n with
  | zero => rfl
  | succ w ih => simp [fixed, ih]

theorem isDigit_of_mem_fixed (h : c ∈ fixed w n) : c.isDigit = true := by
  induction w generalizing n with
  | zero => exact absurd h List.not_mem_nil
  | succ w ih =>
    rcases List.mem_append.1 h with h | h
    · exact ih h
    · rw [List.mem_singleton.1 h]
      exact isDigit_digit (Nat.mod_lt n (by decide))

/-- **As many digits as a number needs hold it.** The induction is on the count of digits; the last
one holds the remainder by ten and the others the quotient. -/
theorem valueOf_fixed (h : n < Nat.pow 10 w) : valueOf (fixed w n) = n := by
  induction w generalizing n with
  | zero =>
    have hzero : n < 1 := h
    rw [show n = 0 by omega]
    rfl
  | succ w ih =>
    have hquotient : n / 10 < Nat.pow 10 w :=
      Nat.div_lt_of_lt_mul (by rw [Nat.mul_comm]; exact h)
    rw [fixed, valueOf_concat, ih hquotient, digitValue_digit (Nat.mod_lt n (by decide))]
    omega

theorem isDigit_of_mem_toDigits (h : c ∈ Nat.toDigits 10 n) : c.isDigit = true :=
  Nat.isDigit_of_mem_toDigits (by decide) (by decide) h

theorem valueOf_toDigits (n : Nat) : valueOf (Nat.toDigits 10 n) = n :=
  Nat.ofDigitChars_toDigits (by decide) (by decide)

/-- A number that is not zero is written without a zero in front. -/
theorem head?_toDigits {n : Nat} (h : n ≠ 0) : (Nat.toDigits 10 n).head? ≠ some '0' := by
  induction n using Nat.strongRecOn with
  | ind n ih =>
    rcases Nat.lt_or_ge n 10 with hlt | hge
    · have hdigit : ∀ n < 10, n ≠ 0 → n.digitChar ≠ '0' := by decide
      rw [Nat.toDigits_of_lt_base hlt, List.head?_cons]
      exact fun heq ↦ hdigit n hlt h (Option.some.inj heq)
    · have hquotient := ih (n / 10) (by omega) (by omega)
      have hne : Nat.toDigits 10 (n / 10) ≠ [] := Nat.toDigits_ne_nil
      obtain ⟨d, ds, hds⟩ := List.exists_cons_of_ne_nil hne
      rw [hds] at hquotient
      rw [Nat.toDigits_of_base_le (by decide) hge, hds]
      exact hquotient

/-- Digits that go on after a number that is not zero are the last digits of the whole. The
induction is on what follows; each digit in turn becomes the last one of the number before it. -/
theorem toDigits_foldl (hn : n ≠ 0) (hds : ∀ c ∈ ds, c.isDigit = true) :
    Nat.toDigits 10 (ds.foldl (fun n c ↦ 10 * n + digitValue c) n) = Nat.toDigits 10 n ++ ds := by
  induction ds generalizing n with
  | nil => exact (List.append_nil _).symm
  | cons c ds ih =>
    obtain ⟨hc, hds⟩ := List.forall_mem_cons.1 hds
    have hlt := digitValue_lt hc
    have hquotient : (10 * n + digitValue c) / 10 = n := by omega
    have hlast : (10 * n + digitValue c) % 10 = digitValue c := by omega
    rw [List.foldl_cons, ih (by omega) hds, Nat.toDigits_of_base_le (by decide) (by omega),
      hquotient, hlast, digitChar_digitValue hc, List.append_assoc, List.singleton_append]

/-- **A number has one way of being written**: digits are those of their value, unless there are
zeros in front. -/
theorem toDigits_valueOf_iff (hne : ds ≠ []) (hds : ∀ c ∈ ds, c.isDigit = true) :
    Nat.toDigits 10 (valueOf ds) = ds ↔ ds = ['0'] ∨ ds.head? ≠ some '0' := by
  obtain ⟨d, ds, rfl⟩ := List.exists_cons_of_ne_nil hne
  obtain ⟨hd, hrest⟩ := List.forall_mem_cons.1 hds
  have hvalue : valueOf (d :: ds) = ds.foldl (fun n c ↦ 10 * n + digitValue c) (digitValue d) := by
    rw [valueOf, List.foldl_cons, Nat.mul_zero, Nat.zero_add]
  constructor
  · intro h
    by_cases hzero : valueOf (d :: ds) = 0
    · exact .inl (by rw [← h, hzero]; rfl)
    · exact .inr (h ▸ head?_toDigits hzero)
  · rintro (h | h)
    · rw [h]
      rfl
    · have hpos : digitValue d ≠ 0 := by
        intro hzero
        have hd' := digitChar_digitValue hd
        rw [hzero] at hd'
        exact h (congrArg some hd'.symm)
      rw [hvalue, toDigits_foldl hpos hrest, Nat.toDigits_of_lt_base (digitValue_lt hd),
        digitChar_digitValue hd, List.singleton_append]

/-- Zeros in front do not change the value. -/
theorem valueOf_zeros_append (k : Nat) (ds : List Char) :
    valueOf (List.replicate k '0' ++ ds) = valueOf ds := by
  induction k with
  | zero => rfl
  | succ k ih => exact ih

theorem isDigit_of_mem_padded (h : c ∈ padded w n) : c.isDigit = true := by
  rcases List.mem_append.1 h with h | h
  · rw [List.eq_of_mem_replicate h]
    rfl
  · exact isDigit_of_mem_toDigits h

theorem valueOf_padded : valueOf (padded w n) = n := by
  rw [padded, valueOf_zeros_append, valueOf_toDigits]

theorem padded_ne_nil : padded w n ≠ [] :=
  List.append_ne_nil_of_right_ne_nil _ Nat.toDigits_ne_nil

/-! ### Where a run stops -/

/-- A run of characters of a kind is taken whole, if the text after it does not go on with another
one of them. -/
theorem takeWhile_append_of_stops {p : Char → Bool} {cs rest : List Char}
    (hcs : ∀ c ∈ cs, p c = true) (hrest : ∀ c ∈ rest.head?, p c = false) :
    (cs ++ rest).takeWhile p = cs := by
  rw [List.takeWhile_append_of_pos hcs]
  cases rest with
  | nil => simp
  | cons c rest => simp [hrest c rfl]

/-- A character stops a run that it is not of the kind of. -/
theorem stops_cons {p : Char → Bool} {rest : List Char} (h : p c = false) :
    ∀ x ∈ (c :: rest).head?, p x = false := by
  intro x hx
  rwa [← Option.mem_some.1 hx]

/-- What does not begin with a blank is left as it is. -/
theorem skipBlank_eq_self {cs : List Char} (h : ∀ c ∈ cs.head?, isBlank c = false) :
    skipBlank cs = cs := by
  cases cs with
  | nil => rfl
  | cons c cs => simp [skipBlank, h c rfl]

/-- A text that starts with a run of digits starts with a digit. -/
theorem isDigit_of_digits_append {rest tail : List Char} (hds : ∀ c ∈ ds, c.isDigit = true)
    (hne : ds ≠ []) (h : ds ++ rest = c :: tail) : c.isDigit = true := by
  obtain ⟨d, ds, rfl⟩ := List.exists_cons_of_ne_nil hne
  obtain ⟨rfl, -⟩ := List.cons.inj h
  exact hds d List.mem_cons_self

/-- No blanks stand before a run of digits. -/
theorem skipBlank_digits_append {rest : List Char} (hds : ∀ c ∈ ds, c.isDigit = true)
    (hne : ds ≠ []) : skipBlank (ds ++ rest) = ds ++ rest := by
  refine skipBlank_eq_self fun c hc ↦ isBlank_of_isDigit ?_
  obtain ⟨tail, htail⟩ := List.head?_eq_some_iff.1 hc
  exact isDigit_of_digits_append hds hne htail

end StatusRollup.Text
