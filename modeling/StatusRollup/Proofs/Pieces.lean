import Mathlib.Data.List.Basic

/-!
# Texts put together and taken apart

Pieces that are joined by a separator come back when the text is split at the separator, each one of
them and in their order, empty ones included. It is enough that no piece has the separator's first
character: then no occurrence of the separator begins inside a piece, neither across its end nor
within it (`not_matchesAt`), and every occurrence that is found is one that was put there.

* `toStringList_split_intercalate` — for any separator, by induction on the pieces. What is carried
  along is the position that the splitting has reached and the text that is still to come from
  there.
* `lines_intercalate` — for lines, where core has the law already; `length_lines` says how many
  lines a text has, and `not_mem_of_mem_lines` that a line is one line.
-/

namespace StatusRollup.Text

open String.Slice.Pattern String.Slice.Pattern.Model

variable {sep : String} {d : Char} {s : String.Slice} {pos : s.Pos}
  {before piece rest line text : String} {pieces : List String}

/-! ### Any separator -/

/-- No occurrence of a separator begins inside a piece that does not have the separator's first
character. -/
theorem not_matchesAt (hd : sep.toList.head? = some d) (hpiece : d ∉ piece.toList)
    (h : pos.Splits before (piece ++ rest)) {q : s.Pos} (hq : pos ≤ q) (hlt : q < h.rotateRight) :
    ¬MatchesAt sep q := by
  rw [ForwardStringSearcher.matchesAt_iff_splits]
  rintro ⟨passed, after, hmatch⟩
  -- the piece is what lies between its start and the match, and then what lies before its end
  obtain ⟨left, -, hleft⟩ := (h.le_iff_exists_eq_append hmatch).1 hq
  obtain ⟨right, hne, -, hright⟩ := (hmatch.lt_iff_exists_eq_append h.splits_rotateRight).1 hlt
  have hsplit : piece = left ++ right := by
    rw [hright, ← String.append_assoc] at hleft
    exact (String.append_left_inj _).1 hleft
  obtain ⟨c, cs, hcs⟩ := List.exists_cons_of_ne_nil (mt String.toList_eq_nil_iff.1 hne)
  have hfirst : d = c := by
    have hhead := congrArg (fun t ↦ t.toList.head?) hright
    simpa [hcs, hd] using hhead
  refine hpiece ?_
  rw [hsplit, String.toList_append, hcs, hfirst]
  exact List.mem_append_right _ List.mem_cons_self

theorem le_rotateRight (h : pos.Splits before (piece ++ rest)) : pos ≤ h.rotateRight :=
  (h.le_iff_exists_eq_append h.splits_rotateRight).2 ⟨piece, rfl, rfl⟩

/-- What lies between the two ends of a piece is the piece. -/
theorem copy_subslice (h : pos.Splits before (piece ++ rest)) :
    (s.subslice pos h.rotateRight (le_rotateRight h)).copy = piece := by
  obtain ⟨_, hcopy⟩ :=
    String.Slice.copy_slice_eq_iff_splits.2 ⟨before, rest, h, h.splits_rotateRight⟩
  exact hcopy

/-- Wherever the splitting stands, it finds the pieces that are still to come. -/
theorem split_of_splits [StrictPatternModel sep] (hd : sep.toList.head? = some d)
    (hpieces : pieces ≠ []) (h : ∀ piece ∈ pieces, d ∉ piece.toList)
    (hpos : pos.Splits before (sep.intercalate pieces)) :
    (Model.split sep pos pos (Std.le_refl pos)).map String.Slice.Subslice.copy = pieces := by
  induction pieces generalizing pos before with
  | nil => exact absurd rfl hpieces
  | cons piece pieces ih =>
    obtain ⟨hpiece, hlater⟩ := List.forall_mem_cons.1 h
    rcases eq_or_ne pieces [] with rfl | hne
    · rw [String.intercalate_singleton, ← String.append_empty (s := piece)] at hpos
      have hend : hpos.rotateRight = s.endPos := hpos.splits_rotateRight.eq_endPos_iff.2 rfl
      have hcopy := copy_subslice hpos
      rw [split_eq_of_not_matchesAt hpos.rotateRight (le_rotateRight hpos) fun q ↦
        not_matchesAt hd hpiece hpos]
      simp only [hend] at hcopy ⊢
      rw [split_endPos, List.map_singleton, hcopy]
    · rw [String.intercalate_cons_of_ne_nil hne, String.append_assoc] at hpos
      have hsep := hpos.splits_rotateRight
      rw [split_eq_of_not_matchesAt hpos.rotateRight (le_rotateRight hpos) fun q ↦
          not_matchesAt hd hpiece hpos,
        split_eq_of_isLongestMatchAt (ForwardStringSearcher.isLongestMatchAt_iff_splits.2
          ⟨_, _, hsep, hsep.splits_rotateRight⟩),
        List.map_cons, copy_subslice hpos, ih hne hlater hsep.splits_rotateRight]

/-- **Joined pieces come back**, if none of them has the separator's first character. -/
theorem toStringList_split_intercalate (hd : sep.toList.head? = some d) (hpieces : pieces ≠ [])
    (h : ∀ piece ∈ pieces, d ∉ piece.toList) :
    ((sep.intercalate pieces).split sep).toStringList = pieces := by
  have hsep : sep ≠ "" := by
    rintro rfl
    exact absurd hd nofun
  have := ForwardStringSearcher.strictPatternModel hsep
  have := ForwardStringSearcher.lawfulToForwardSearcherModel hsep
  have hstart := String.Slice.splits_startPos (sep.intercalate pieces).toSlice
  rw [String.copy_toSlice] at hstart
  have hsplit := split_of_splits hd hpieces h hstart
  rw [String.Slice.Subslice.copy_eq] at hsplit
  rw [Std.Iter.toStringList, Std.Iter.toList_map, String.split_eq_split_toSlice,
    String.Slice.toList_split_eq_splitToSubslice, toList_splitToSubslice_eq_modelSplit,
    List.map_map]
  exact hsplit

/-! ### Lines -/

/-- The lines of a text. -/
def lines (text : String) : List String := (text.split '\n').toStringList

theorem lines_eq : lines text = (text.toList.splitOn '\n').map String.ofList := by
  rw [lines, Std.Iter.toStringList, Std.Iter.toList_map]
  exact String.toList_split_char

/-- Joined lines come back. -/
theorem lines_intercalate (hpieces : pieces ≠ []) (h : ∀ line ∈ pieces, '\n' ∉ line.toList) :
    lines ("\n".intercalate pieces) = pieces := by
  rw [lines, Std.Iter.toStringList, Std.Iter.toList_map]
  exact (String.toList_split_intercalate h).trans (if_neg hpieces)

/-- A text has one line more than it has newlines. -/
theorem length_lines : (lines text).length = text.toList.count '\n' + 1 := by
  rw [lines_eq, List.length_map]
  induction text.toList with
  | nil => rfl
  | cons c cs ih =>
    rw [List.splitOn_cons_eq_if_modifyHead, List.count_cons, ← Nat.add_right_comm, ← ih]
    split
    · rfl
    · rw [List.length_modifyHead, Nat.add_zero]

/-- What lies between two occurrences of a character does not have it. -/
theorem not_mem_of_mem_splitOn {cs part : List Char} (h : part ∈ cs.splitOn d) : d ∉ part := by
  induction cs generalizing part with
  | nil =>
    obtain rfl := List.mem_singleton.1 h
    exact List.not_mem_nil
  | cons c cs ih =>
    obtain ⟨first, later, hsplit⟩ := List.exists_cons_of_ne_nil (List.splitOn_ne_nil d cs)
    rw [hsplit] at ih
    rw [List.splitOn_cons_eq_if_modifyHead, hsplit] at h
    split at h
    · rcases List.mem_cons.1 h with rfl | hmem
      · exact List.not_mem_nil
      · exact ih hmem
    · next hne =>
      rcases List.mem_cons.1 h with rfl | hmem
      · rw [List.mem_cons, not_or]
        exact ⟨fun heq ↦ hne (beq_iff_eq.2 heq.symm), ih List.mem_cons_self⟩
      · exact ih (List.mem_cons_of_mem first hmem)

/-- A line is one line. -/
theorem not_mem_of_mem_lines (h : line ∈ lines text) : '\n' ∉ line.toList := by
  rw [lines_eq] at h
  obtain ⟨cs, hcs, rfl⟩ := List.mem_map.1 h
  rw [String.toList_ofList]
  exact not_mem_of_mem_splitOn hcs

end StatusRollup.Text
