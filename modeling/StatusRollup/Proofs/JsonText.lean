import StatusRollup.Json.Reader
import StatusRollup.Json.Writer
import StatusRollup.Proofs.Digits

/-!
# JSON text is read as the value it was written from

A value whose numbers are integers is read back from its text (`Json.read?_write`). Such are all
wire forms: no field holds a fraction. Strings may hold any characters.

The reader meets a written value in the middle of a text, so the statement about one value is about
the value followed by any text that cannot continue a number (`ReadsValues`). Values, items and
fields are read through each other, each with one unit of fuel less, so all three are shown together
by induction on the fuel (`reads_all`). Twice the length of what is written is enough of it, which
is where the bound of `Json.read?` comes from.
-/

namespace StatusRollup.Json

open Text (takeWhile_append_of_stops stops_cons)

mutual

/-- Every part has a value and every number is an integer. -/
def integral : Json → Bool
  | num (.int _) => true
  | num (.decimal ..) => false
  | arr items => itemsIntegral items
  | obj fields => fieldsIntegral fields
  | unreadable => false
  | null => true
  | bool _ => true
  | str _ => true

/-- Every item is integral. -/
def itemsIntegral : List Json → Bool
  | [] => true
  | j :: js => integral j && itemsIntegral js

/-- Every value is integral. -/
def fieldsIntegral : List (String × Json) → Bool
  | [] => true
  | (_, j) :: rest => integral j && fieldsIntegral rest

end

/-! ### Strings -/

section Strings

variable {c : Char} {cs rest : List Char} {units : List Nat}

theorem escaped?_escapeLetter? {letter : Char} (h : escapeLetter? c = some letter) :
    escaped? letter = some c ∧ letter ≠ 'u' := by
  unfold escapeLetter? at h
  split at h <;> first
    | obtain rfl := Option.some.inj h
      decide
    | exact absurd h nofun

theorem hexValueOf?_control : ∀ {n : Nat}, n < 0x20 →
    Text.hexValueOf? ['0', '0', hexDigit (n / 16), hexDigit (n % 16)] = some n := by
  decide

/-- A character that is written as itself is neither a quote nor a backslash. -/
theorem ne_of_escapeLetter?_eq_none (h : escapeLetter? c = none) : c ≠ '"' ∧ c ≠ '\\' := by
  constructor <;> (rintro rfl; exact absurd h nofun)

/-- A character inside quotes is one code unit again, however it was escaped. -/
theorem readUnits?_writeChar (h : readUnits? cs = some (units, rest)) :
    readUnits? (writeChar c ++ cs) = some (c.toNat :: units, rest) := by
  rw [writeChar]
  split
  · next letter hletter =>
    -- an escape of one letter, so not the one with four digits
    obtain ⟨hescaped, hu⟩ := escaped?_escapeLetter? hletter
    show readUnits? ('\\' :: letter :: cs) = _
    rw [readUnits?, hescaped, h]
    · rfl
    · exact fun _ _ _ _ _ hletter _ ↦ hu hletter
  · next hletter =>
    obtain ⟨hquote, hbackslash⟩ := ne_of_escapeLetter?_eq_none hletter
    split
    · next hcontrol =>
      show readUnits? ('\\' :: 'u' :: '0' :: '0' :: hexDigit _ :: hexDigit _ :: cs) = _
      rw [readUnits?, hexValueOf?_control hcontrol, h]
      rfl
    · next hcontrol =>
      show readUnits? (c :: cs) = _
      rw [readUnits?, if_neg (by simp [hcontrol, hbackslash]), h]
      · rfl
      · exact hquote
      · exact fun _ _ _ _ _ hc _ ↦ hbackslash hc
      · exact fun _ _ hc _ ↦ hbackslash hc

/-- The code units of written text, up to the closing quote. -/
theorem readUnits?_flatMap (cs rest : List Char) :
    readUnits? (cs.flatMap writeChar ++ '"' :: rest) = some (cs.map Char.toNat, rest) := by
  induction cs with
  | nil => rfl
  | cons c cs ih =>
    rw [List.flatMap_cons, List.append_assoc]
    exact readUnits?_writeChar ih

/-- A character is no half of a surrogate pair. -/
theorem not_surrogate (c : Char) : ¬(0xD800 ≤ c.toNat ∧ c.toNat < 0xE000) := by
  have hvalid : c.toNat < 0xD800 ∨ 0xDFFF < c.toNat ∧ c.toNat < 0x110000 := c.valid
  omega

/-- The code units of characters stand for these characters. -/
theorem pairUnits?_map (cs : List Char) : pairUnits? (cs.map Char.toNat) = some cs := by
  induction cs with
  | nil => rfl
  | cons c cs ih =>
    have hc := not_surrogate c
    cases cs with
    | nil =>
      show (if _ then none else some [Char.ofNat c.toNat]) = _
      rw [if_neg hc, Char.ofNat_toNat]
    | cons d ds =>
      rw [List.map_cons] at ih
      rw [List.map_cons, List.map_cons, pairUnits?, if_neg fun h ↦ hc ⟨h.1, by omega⟩, if_neg hc,
        ih, Char.ofNat_toNat]
      rfl

/-- **A string is read back**, whatever its characters are. -/
theorem readString?_write (s : String) (rest : List Char) :
    readString? (s.toList.flatMap writeChar ++ '"' :: rest) = some (some s, rest) := by
  rw [readString?, readUnits?_flatMap, Option.map_some]
  show some ((pairUnits? (s.toList.map Char.toNat)).map String.ofList, rest) = _
  rw [pairUnits?_map, Option.map_some, String.ofList_toList]

theorem toList_writeString (s : String) :
    (writeString s).toList = '"' :: (s.toList.flatMap writeChar ++ ['"']) := by
  rw [writeString, String.toList_ofList]
  rfl

end Strings

/-! ### Numbers -/

section Numbers

variable {rest : List Char}

/-- A character that would go on with a number. -/
def continuesNumber (c : Char) : Bool := c.isDigit || c == '.' || c == 'e' || c == 'E'

/-- The digits of a natural number have no zero in front. -/
theorem not_leading_zero (n : Nat) : ¬((Nat.toDigits 10 n).isEmpty ∨
    (1 < (Nat.toDigits 10 n).length ∧ (Nat.toDigits 10 n).head? = some '0')) := by
  rintro (hempty | ⟨hlength, hhead⟩)
  · exact Nat.toDigits_ne_nil (List.isEmpty_iff.1 hempty)
  · by_cases hn : n = 0
    · subst hn
      exact absurd hlength (by decide)
    · exact Text.head?_toDigits hn hhead

theorem readFractionDigits?_of_stops (hrest : ∀ c ∈ rest.head?, continuesNumber c = false) :
    readFractionDigits? rest = some ([], rest) := by
  unfold readFractionDigits?
  split
  · exact absurd (hrest '.' rfl) (by decide)
  · rfl

theorem readExponent?_of_stops (hrest : ∀ c ∈ rest.head?, continuesNumber c = false) :
    readExponent? rest = some (none, rest) := by
  unfold readExponent?
  split
  · next c rest =>
    have hc := hrest c rfl
    rw [if_neg]
    rintro (rfl | rfl)
    · exact absurd hc (by decide)
    · exact absurd hc (by decide)
  · rfl

theorem toList_writeNumeral_ofNat (m : Nat) :
    (writeNumeral (.int (.ofNat m))).toList = Nat.toDigits 10 m :=
  String.toList_ofList

theorem toList_writeNumeral_negSucc (m : Nat) :
    (writeNumeral (.int (.negSucc m))).toList = '-' :: Nat.toDigits 10 (m + 1) := by
  show ("-" ++ String.ofList (Nat.toDigits 10 (m + 1))).toList = _
  rw [String.toList_append]
  exact congrArg ('-' :: ·) String.toList_ofList

/-- A written integer begins with a digit or a sign. -/
theorem exists_cons_writeNumeral (n : Int) :
    ∃ c cs, (writeNumeral (.int n)).toList = c :: cs ∧ (c.isDigit = true ∨ c = '-') := by
  cases n with
  | ofNat m =>
    obtain ⟨c, cs, hcs⟩ := List.exists_cons_of_ne_nil (Nat.toDigits_ne_nil (n := m) (b := 10))
    have hc : c ∈ Nat.toDigits 10 m := by simp [hcs]
    exact ⟨c, cs, (toList_writeNumeral_ofNat m).trans hcs, .inl (Text.isDigit_of_mem_toDigits hc)⟩
  | negSucc m => exact ⟨_, _, toList_writeNumeral_negSucc m, .inr rfl⟩

/-- An integer is read back. It has neither a fraction nor an exponent, and if it has a sign it is
not zero. -/
theorem readNumber?_write (n : Int) (hrest : ∀ c ∈ rest.head?, continuesNumber c = false) :
    readNumber? ((writeNumeral (.int n)).toList ++ rest) = some (.int n, rest) := by
  have hdigit : ∀ c ∈ rest.head?, c.isDigit = false := by
    intro c hc
    have hstop := hrest c hc
    simp only [continuesNumber, Bool.or_eq_false_iff] at hstop
    exact hstop.1.1.1
  have hwhole (m : Nat) : (Nat.toDigits 10 m ++ rest).takeWhile Char.isDigit = Nat.toDigits 10 m :=
    takeWhile_append_of_stops (fun _ ↦ Text.isDigit_of_mem_toDigits) hdigit
  cases n with
  | ofNat m =>
    rw [toList_writeNumeral_ofNat, readNumber?]
    · simp only [hwhole, List.drop_left, readFractionDigits?_of_stops hrest, Option.bind_eq_bind,
        Option.bind_some, readExponent?_of_stops hrest, Text.valueOf_toDigits]
      rw [if_neg (not_leading_zero m), if_pos (by simp)]
      rfl
    -- a digit is no sign
    · intro tail htail
      exact absurd (Text.isDigit_of_digits_append (fun _ ↦ Text.isDigit_of_mem_toDigits)
        Nat.toDigits_ne_nil htail) (by decide)
  | negSucc m =>
    have hzero : Nat.toDigits 10 (m + 1) ≠ ['0'] := fun h ↦
      Text.head?_toDigits (Nat.succ_ne_zero m) (by rw [h]; rfl)
    rw [toList_writeNumeral_negSucc, List.cons_append, readNumber?]
    simp only [hwhole, List.drop_left, readFractionDigits?_of_stops hrest, Option.bind_eq_bind,
      Option.bind_some, readExponent?_of_stops hrest, Text.valueOf_toDigits]
    rw [if_neg (not_leading_zero (m + 1)), if_pos (by simp [hzero])]
    rfl

end Numbers

/-! ### Values -/

section Values

variable {rest : List Char} {fuel : Nat}

theorem toList_write_arr (items : List Json) :
    (write (.arr items)).toList = '[' :: ((writeItems items).toList ++ [']']) := by
  rw [write, String.toList_append, String.toList_append]
  rfl

theorem toList_write_obj (fields : List (String × Json)) :
    (write (.obj fields)).toList = '\x7b' :: ((writeFields fields).toList ++ ['\x7d']) := by
  rw [write, String.toList_append, String.toList_append]
  rfl

theorem toList_writeItems_cons (j j' : Json) (js : List Json) :
    (writeItems (j :: j' :: js)).toList =
      (write j).toList ++ ',' :: (writeItems (j' :: js)).toList := by
  rw [writeItems, String.toList_append, String.toList_append, List.append_assoc]
  · rfl
  · exact List.cons_ne_nil _ _

theorem toList_writeFields_singleton (key : String) (j : Json) :
    (writeFields [(key, j)]).toList = (writeString key).toList ++ ':' :: (write j).toList := by
  rw [writeFields, String.toList_append, String.toList_append, List.append_assoc]
  rfl

theorem toList_writeFields_cons (key : String) (j : Json) (field : String × Json)
    (fields : List (String × Json)) :
    (writeFields ((key, j) :: field :: fields)).toList =
      (writeString key).toList ++ ':' :: ((write j).toList ++
        ',' :: (writeFields (field :: fields)).toList) := by
  rw [writeFields, String.toList_append, String.toList_append, String.toList_append,
    String.toList_append]
  · simp only [List.append_assoc]
    rfl
  · exact List.cons_ne_nil _ _

/-- A character that may begin a number begins nothing else. -/
theorem ne_of_beginsNumber {c d : Char} (h : c.isDigit = true ∨ c = '-') (hd : d.isDigit = false)
    (hsign : d ≠ '-') : c ≠ d := by
  rintro rfl
  rcases h with h | h
  · exact Bool.false_ne_true (hd.symm.trans h)
  · exact hsign h

/-- A written value begins with a character that is no space and ends no array. -/
theorem exists_cons_write {j : Json} (h : j.integral = true) :
    ∃ c cs, (write j).toList = c :: cs ∧ isSpace c = false ∧ c ≠ ']' := by
  cases j with
  | null => exact ⟨_, _, rfl, by decide⟩
  | bool b => cases b <;> exact ⟨_, _, rfl, by decide⟩
  | num n =>
    cases n with
    | decimal => exact absurd h Bool.false_ne_true
    | int n =>
      obtain ⟨c, cs, hcs, hc⟩ := exists_cons_writeNumeral n
      have hne := fun d hd hsign ↦ ne_of_beginsNumber (d := d) hc hd hsign
      refine ⟨c, cs, by rw [write, hcs], ?_, hne ']' rfl (by decide)⟩
      simp [isSpace, hne ' ' rfl (by decide), hne '\t' rfl (by decide), hne '\n' rfl (by decide),
        hne '\r' rfl (by decide)]
  | str s => exact ⟨_, _, toList_writeString s, by decide⟩
  | arr items => exact ⟨_, _, toList_write_arr items, by decide⟩
  | obj fields => exact ⟨_, _, toList_write_obj fields, by decide⟩
  | unreadable => exact absurd h Bool.false_ne_true

theorem readValue?_write_int (fuel : Nat) (n : Int)
    (hrest : ∀ c ∈ rest.head?, continuesNumber c = false) :
    readValue? (fuel + 1) ((write (.num (.int n))).toList ++ rest) =
      some (.num (.int n), rest) := by
  have hread := readNumber?_write n hrest
  obtain ⟨c, cs, hcs, hc⟩ := exists_cons_writeNumeral n
  have hne := fun d hd hsign ↦ ne_of_beginsNumber (d := d) hc hd hsign
  rw [write]
  rw [hcs, List.cons_append] at hread ⊢
  rw [readValue?, hread, Option.map_some]
  · exact fun _ h ↦ hne 'n' rfl (by decide) (List.cons.inj h).1
  · exact fun _ h ↦ hne 't' rfl (by decide) (List.cons.inj h).1
  · exact fun _ h ↦ hne 'f' rfl (by decide) (List.cons.inj h).1
  · exact fun _ h ↦ hne '"' rfl (by decide) (List.cons.inj h).1
  · exact fun _ h ↦ hne '[' rfl (by decide) (List.cons.inj h).1
  · exact fun _ h ↦ hne '\x7b' rfl (by decide) (List.cons.inj h).1

theorem readValue?_write_str (fuel : Nat) (s : String) (rest : List Char) :
    readValue? (fuel + 1) ((write (.str s)).toList ++ rest) = some (.str s, rest) := by
  rw [write, toList_writeString, List.cons_append, readValue?, List.append_assoc,
    List.singleton_append, readString?_write]
  rfl

theorem skipSpace_cons {c : Char} {cs : List Char} (h : isSpace c = false) :
    skipSpace (c :: cs) = c :: cs := by
  simp [skipSpace, h]

/-- Written items begin as the first of them does. -/
theorem exists_cons_writeItems {j : Json} {js : List Json} (h : itemsIntegral (j :: js) = true) :
    ∃ c cs, (writeItems (j :: js)).toList = c :: cs ∧ isSpace c = false ∧ c ≠ ']' := by
  obtain ⟨hj, -⟩ := Bool.and_eq_true_iff.1 h
  obtain ⟨c, cs, hcs, hc⟩ := exists_cons_write hj
  cases js with
  | nil => exact ⟨c, cs, by rw [writeItems, hcs], hc⟩
  | cons j' js => exact ⟨c, _, by rw [toList_writeItems_cons, hcs, List.cons_append], hc⟩

/-- Written fields begin with the quote of the first key. -/
theorem exists_cons_writeFields (field : String × Json) (fields : List (String × Json)) :
    ∃ cs, (writeFields (field :: fields)).toList = '"' :: cs := by
  obtain ⟨key, j⟩ := field
  cases fields with
  | nil => exact ⟨_, by rw [toList_writeFields_singleton, toList_writeString, List.cons_append]⟩
  | cons field fields =>
    exact ⟨_, by rw [toList_writeFields_cons, toList_writeString, List.cons_append]⟩

/-- An array that does not end at once has items. -/
theorem readValue?_bracket {c : Char} {cs : List Char} (hspace : isSpace c = false)
    (hend : c ≠ ']') :
    readValue? (fuel + 1) ('[' :: c :: cs) =
      (readItems? fuel (c :: cs)).map fun (items, rest) ↦ (.arr items, rest) := by
  rw [readValue?, skipSpace_cons hspace]
  split
  · next heq => exact absurd (List.cons.inj heq).1 hend
  · rfl

/-- An object that begins with a key has fields. -/
theorem readValue?_brace (cs : List Char) :
    readValue? (fuel + 1) ('\x7b' :: '"' :: cs) =
      (readFields? fuel ('"' :: cs)).map fun (fields, rest) ↦
        ((fields.map Json.obj).getD .unreadable, rest) := by
  rw [readValue?, skipSpace_cons (by decide)]
  rfl

/-- With so much fuel, values that it suffices for are **read back**, whatever text follows that
does not go on with a number. -/
def ReadsValues (fuel : Nat) : Prop :=
  ∀ {j : Json} {rest : List Char}, j.integral = true → 2 * (write j).toList.length ≤ fuel →
    (∀ c ∈ rest.head?, continuesNumber c = false) →
    readValue? fuel ((write j).toList ++ rest) = some (j, rest)

/-- The same of items with the bracket that closes them. -/
def ReadsItems (fuel : Nat) : Prop :=
  ∀ {j : Json} {js : List Json} (rest : List Char), itemsIntegral (j :: js) = true →
    2 * (writeItems (j :: js)).toList.length + 1 ≤ fuel →
    readItems? fuel ((writeItems (j :: js)).toList ++ ']' :: rest) = some (j :: js, rest)

/-- The same of fields with the brace that closes them. -/
def ReadsFields (fuel : Nat) : Prop :=
  ∀ {field : String × Json} {fields : List (String × Json)} (rest : List Char),
    fieldsIntegral (field :: fields) = true →
    2 * (writeFields (field :: fields)).toList.length + 1 ≤ fuel →
    readFields? fuel ((writeFields (field :: fields)).toList ++ '\x7d' :: rest) =
      some (some (field :: fields), rest)

theorem readsValues_succ (hitems : ReadsItems fuel) (hfields : ReadsFields fuel) :
    ReadsValues (fuel + 1) := by
  intro j rest h hfuel hrest
  cases j with
  | null => rfl
  | bool b => cases b <;> rfl
  | num n =>
    cases n with
    | int n => exact readValue?_write_int fuel n hrest
    | decimal => exact absurd h Bool.false_ne_true
  | str s => exact readValue?_write_str fuel s rest
  | arr items =>
    cases items with
    | nil => rfl
    | cons j js =>
      rw [toList_write_arr, List.length_cons, List.length_append, List.length_singleton] at hfuel
      have hread := hitems rest h (by omega)
      -- the first character of the items tells them from the end of an empty array
      obtain ⟨c, cs, htext, hspace, hend⟩ := exists_cons_writeItems h
      rw [toList_write_arr, List.cons_append, List.append_assoc, List.singleton_append]
      rw [htext, List.cons_append] at hread ⊢
      rw [readValue?_bracket hspace hend, hread]
      rfl
  | obj fields =>
    cases fields with
    | nil => rfl
    | cons field fields =>
      rw [toList_write_obj, List.length_cons, List.length_append, List.length_singleton] at hfuel
      have hread := hfields rest h (by omega)
      obtain ⟨cs, htext⟩ := exists_cons_writeFields field fields
      rw [toList_write_obj, List.cons_append, List.append_assoc, List.singleton_append]
      rw [htext, List.cons_append] at hread ⊢
      rw [readValue?_brace, hread]
      rfl
  | unreadable => exact absurd h Bool.false_ne_true

theorem readsItems_succ (hvalues : ReadsValues fuel) (hitems : ReadsItems fuel) :
    ReadsItems (fuel + 1) := by
  intro j js rest h hfuel
  obtain ⟨hj, hjs⟩ := Bool.and_eq_true_iff.1 h
  cases js with
  | nil =>
    rw [writeItems] at hfuel ⊢
    rw [readItems?, hvalues hj (by omega) (stops_cons rfl)]
    rfl
  | cons j' js =>
    rw [toList_writeItems_cons, List.length_append, List.length_cons] at hfuel
    have hread := hitems rest hjs (by omega)
    obtain ⟨c, cs, htext, hspace, -⟩ := exists_cons_writeItems hjs
    rw [toList_writeItems_cons, List.append_assoc, List.cons_append, readItems?,
      hvalues hj (by omega) (stops_cons rfl)]
    show (readItems? fuel (skipSpace _)).bind _ = _
    rw [htext, List.cons_append] at hread ⊢
    rw [skipSpace_cons hspace, hread]
    rfl

/-- The key of a field is read back, and then the field's value is read. -/
theorem readFields?_key {key : String} {c : Char} {cs : List Char} (hspace : isSpace c = false) :
    readFields? (fuel + 1) ((writeString key).toList ++ ':' :: c :: cs) =
      (readValue? fuel (c :: cs)).bind fun (value, rest) ↦
        match skipSpace rest with
        | '\x7d' :: rest => some (some [(key, value)], rest)
        | ',' :: rest => (readFields? fuel (skipSpace rest)).bind fun (fields, rest) ↦
            some (fields.map ((key, value) :: ·), rest)
        | _ => none := by
  rw [toList_writeString, List.cons_append, List.append_assoc, List.singleton_append, readFields?,
    readString?_write, Option.bind_eq_bind, Option.bind_some]
  show (some (skipSpace (c :: cs))).bind _ = _
  rw [skipSpace_cons hspace]
  rfl

theorem readsFields_succ (hvalues : ReadsValues fuel) (hfields : ReadsFields fuel) :
    ReadsFields (fuel + 1) := by
  rintro ⟨key, j⟩ fields rest h hfuel
  obtain ⟨hj, hfs⟩ := Bool.and_eq_true_iff.1 h
  obtain ⟨c, cs, htext, hspace, -⟩ := exists_cons_write hj
  cases fields with
  | nil =>
    rw [toList_writeFields_singleton, List.length_append, List.length_cons] at hfuel
    have hread : readValue? fuel ((write j).toList ++ '\x7d' :: rest) = some (j, '\x7d' :: rest) :=
      hvalues hj (by omega) (stops_cons rfl)
    rw [toList_writeFields_singleton, List.append_assoc, List.cons_append]
    rw [htext, List.cons_append] at hread ⊢
    rw [readFields?_key hspace, hread]
    rfl
  | cons field fields =>
    rw [toList_writeFields_cons] at hfuel ⊢
    simp only [List.length_append, List.length_cons] at hfuel
    have hfield := hfields rest hfs (by omega)
    have hread : readValue? fuel ((write j).toList ++
        ',' :: ((writeFields (field :: fields)).toList ++ '\x7d' :: rest)) = some (j, _) :=
      hvalues hj (by omega) (stops_cons rfl)
    -- the reader skips blanks before the next key, and there are none: the key begins with a quote
    obtain ⟨ds, hnext⟩ := exists_cons_writeFields field fields
    rw [List.append_assoc, List.cons_append, List.append_assoc, List.cons_append]
    rw [htext, List.cons_append] at hread ⊢
    rw [readFields?_key hspace, hread]
    show (readFields? fuel (skipSpace _)).bind _ = _
    rw [hnext, List.cons_append] at hfield ⊢
    rw [skipSpace_cons (by decide), hfield]
    rfl

/-- **What is written is read back**, with any fuel. The induction is on the fuel, as every step of
the reader takes one from it; each kind of text is read through the others with the fuel that is
left. -/
theorem reads_all (fuel : Nat) : ReadsValues fuel ∧ ReadsItems fuel ∧ ReadsFields fuel := by
  induction fuel with
  | zero =>
    refine ⟨fun {j rest} h hfuel _ ↦ ?_, fun _ _ hfuel ↦ ?_, fun _ _ hfuel ↦ ?_⟩
    · obtain ⟨c, cs, hcs, -⟩ := exists_cons_write h
      rw [hcs, List.length_cons] at hfuel
      omega
    · omega
    · omega
  | succ fuel ih =>
    obtain ⟨hvalues, hitems, hfields⟩ := ih
    exact ⟨readsValues_succ hitems hfields, readsItems_succ hvalues hitems,
      readsFields_succ hvalues hfields⟩

/-- **JSON text is read as the value it was written from.** -/
theorem read?_write {j : Json} (h : j.integral = true) : read? j.write = some j := by
  obtain ⟨c, cs, hcs, hspace, -⟩ := exists_cons_write h
  have hskip : skipSpace j.write.toList = j.write.toList := by rw [hcs, skipSpace_cons hspace]
  have hread : readValue? (2 * j.write.toList.length + 2) (j.write.toList ++ []) = some (j, []) :=
    (reads_all _).1 h (by omega) fun c hc ↦ absurd hc (Option.not_mem_none c)
  rw [List.append_nil] at hread
  simp only [read?, hskip, hread]
  rfl

end Values

end StatusRollup.Json
