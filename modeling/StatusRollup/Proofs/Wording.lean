import StatusRollup.Proofs.Categories
import StatusRollup.Proofs.Pieces

/-!
# Reasons and messages taken apart

The texts of a composite are put together from the conditions that it lists, and nothing gets lost
on the way: they can be taken apart again.

* A reason is a list of tokens, one for each condition that is not healthy, those still held back
  included (`Category.tokens_of_escalated`). No reason and no type may have a colon, for then a
  token has none either (`Condition.not_mem_reasonToken`).
* A message is a list of lines, each with the type of the condition that it comes from
  (`Category.lines_of_message`). No type may have a newline; the messages may have any, since their
  lines are what is put together.

In both cases the texts to join are those of a selection of the conditions, in their order, and it
is the selection that `Composite.SumsUp` speaks of. A token may be empty, as that of a type which is
nothing but the suffix; so it matters that splitting keeps empty pieces. A message line is never
empty, so an empty message is one without lines.
-/

namespace StatusRollup

variable {k : Category} {policy : Option Policy} {now : Instant} {xs ys : List Condition}
  {c : Composite}

namespace Condition

variable {x : Condition} {d : Char}

/-! ### Tokens and lines of one condition -/

/-- What a token says after the type: an underscore and the reason, if there is a reason. -/
def cause (x : Condition) : String := if x.reason = "" then "" else "_" ++ x.reason

/-- A token **names** a condition: by its type, without the category's suffix, and its reason. -/
structure IsNamedBy (x : Condition) (k : Category) (token : String) : Prop where
  /-- A type that has the suffix is named without it. -/
  stem : ∀ stem, x.type = stem ++ k.suffix → token = stem ++ x.cause
  /-- A type that does not have the suffix is named in full. -/
  whole : (∀ stem, x.type ≠ stem ++ k.suffix) → token = x.type ++ x.cause

theorem reasonToken_eq : x.reasonToken k = (k.stem x.type).getD x.type ++ x.cause := by
  rw [reasonToken, cause]
  split
  · rw [String.append_empty]
  · rw [String.append_assoc]

theorem isNamedBy_reasonToken : x.IsNamedBy k (x.reasonToken k) where
  stem stem hstem := by
    rw [reasonToken_eq, Category.stem_eq_some_iff.2 hstem, Option.getD_some]
  whole hnone := by
    have hstem : k.stem x.type = none :=
      Option.eq_none_iff_forall_ne_some.2 fun stem h ↦ hnone stem (Category.stem_eq_some_iff.1 h)
    rw [reasonToken_eq, hstem, Option.getD_none]

/-- A token has no character that neither the type nor the reason has, but for the underscore. -/
theorem not_mem_reasonToken (hd : d ≠ '_') (htype : d ∉ x.type.toList)
    (hreason : d ∉ x.reason.toList) : d ∉ (x.reasonToken k).toList := by
  have hstem : d ∉ ((k.stem x.type).getD x.type).toList := by
    rcases hstem : k.stem x.type with - | stem
    · exact htype
    · rw [Category.stem_eq_some_iff.1 hstem, String.toList_append] at htype
      exact fun h ↦ htype (List.mem_append_left _ h)
  have hcause : d ∉ x.cause.toList := by
    rw [cause]
    split
    · exact List.not_mem_nil
    · rw [String.toList_append, List.mem_append, not_or]
      exact ⟨fun h ↦ hd (List.mem_singleton.1 h), hreason⟩
  rw [reasonToken_eq, String.toList_append, List.mem_append, not_or]
  exact ⟨hstem, hcause⟩

/-- The lines of a message, each with the condition's type in front. -/
def attributed (x : Condition) : List String :=
  (Text.lines x.message).map fun line ↦ x.type ++ ": " ++ line

theorem messageLines_eq : x.messageLines = if x.message = "" then [] else x.attributed := by
  rw [messageLines, attributed, Text.lines_eq, List.map_map]
  rfl

theorem messageLines_eq_nil_iff : x.messageLines = [] ↔ x.message = "" := by
  rw [messageLines_eq]
  split
  · next h => exact iff_of_true rfl h
  · next h =>
    refine iff_of_false (fun hnil ↦ ?_) h
    have hlength := congrArg List.length hnil
    rw [attributed, List.length_map, Text.length_lines] at hlength
    exact absurd hlength (Nat.succ_ne_zero _)

/-- An attributed line is one line, if the type is. -/
theorem not_mem_of_mem_messageLines {line : String} (htype : '\n' ∉ x.type.toList)
    (h : line ∈ x.messageLines) : '\n' ∉ line.toList := by
  rw [messageLines_eq] at h
  split at h
  · exact absurd h List.not_mem_nil
  obtain ⟨rest, hrest, rfl⟩ := List.mem_map.1 h
  simp only [String.toList_append, List.mem_append, not_or]
  exact ⟨⟨htype, by decide⟩, Text.not_mem_of_mem_lines hrest⟩

end Condition

namespace Composite

/-! ### Reasons -/

/-- The tokens of a composite's reason. -/
def tokens (c : Composite) : List String := (c.reason.split "::").toStringList

/-- The tokens of a composite that has escalated name what is not healthy. -/
theorem SumsUp.tokens_eq (h : c.SumsUp k xs (k.escalating policy now xs))
    (hfailing : c.isHealthy = false)
    (hcolon : ∀ x ∈ xs, ':' ∉ x.type.toList ∧ ':' ∉ x.reason.toList) :
    c.tokens = (k.nonHealthy xs).map (Condition.reasonToken k) := by
  have hescalating := h.isHealthy_eq_false_iff.1 hfailing
  have hlisted : (k.nonHealthy xs).map (Condition.reasonToken k) ≠ [] :=
    mt List.map_eq_nil_iff.1 (Category.nonHealthy_ne_nil hescalating)
  rw [tokens, h.reason hescalating, joinReasons]
  refine Text.toStringList_split_intercalate (d := ':') rfl hlisted fun token htoken ↦ ?_
  obtain ⟨x, hx, rfl⟩ := List.mem_map.1 htoken
  obtain ⟨htype, hreason⟩ := hcolon x (List.mem_filter.1 hx).1
  exact Condition.not_mem_reasonToken (by decide) htype hreason

/-! ### Messages -/

theorem joinMessages_eq_empty_iff_forall :
    joinMessages xs = "" ↔ ∀ x ∈ xs, x.message = "" := by
  simp only [joinMessages_eq_empty_iff, List.flatMap_eq_nil_iff, Condition.messageLines_eq_nil_iff]

/-- Conditions without a message have no lines. -/
theorem flatMap_messageLines : xs.flatMap Condition.messageLines =
    (xs.filter fun x ↦ x.message ≠ "").flatMap Condition.attributed := by
  induction xs with
  | nil => rfl
  | cons x xs ih =>
    rw [List.flatMap_cons, ih, Condition.messageLines_eq, List.filter_cons]
    by_cases h : x.message = "" <;> simp [h]

/-- **Joined messages come back**, line by line. -/
theorem lines_joinMessages (hline : ∀ x ∈ xs, '\n' ∉ x.type.toList) (h : joinMessages xs ≠ "") :
    Text.lines (joinMessages xs) =
      (xs.filter fun x ↦ x.message ≠ "").flatMap Condition.attributed := by
  rw [← flatMap_messageLines, joinMessages]
  refine Text.lines_intercalate (mt joinMessages_eq_empty_iff.2 h) fun line hmem ↦ ?_
  obtain ⟨x, hx, hmessage⟩ := List.mem_flatMap.1 hmem
  exact Condition.not_mem_of_mem_messageLines (hline x hx) hmessage

end Composite

open Composite

/-- **A reason is a list of the conditions that are not healthy.** Split at its separator, the
reason of a composite that has escalated gives one token for each of them, in their order, which
names the condition; conditions that are still held back have theirs too. So the tokens of
conditions in another order are the same tokens in that order: rearranging the conditions moves each
token with its condition, and turning them round turns the tokens round. -/
theorem Category.tokens_of_escalated (k : Category) (policy : Option Policy) (now : Instant)
    (xs : List Condition) (hxs : xs ≠ [])
    (hcolon : ∀ x ∈ xs, ':' ∉ x.type.toList ∧ ':' ∉ x.reason.toList) (c : Composite)
    (hc : k.composite? policy now xs = some c) (hfailing : c.isHealthy = false) :
    c.tokens = (k.nonHealthy xs).map (Condition.reasonToken k) ∧
    (∀ x : Condition, x.IsNamedBy k (x.reasonToken k)) ∧
    ∀ ys : List Condition, ys.Perm xs → ∃ d, k.composite? policy now ys = some d ∧
      d.isHealthy = false ∧ d.tokens = (k.nonHealthy ys).map (Condition.reasonToken k) ∧
      ((k.nonHealthy ys).zip d.tokens).Perm ((k.nonHealthy xs).zip c.tokens) ∧
      (ys = xs.reverse → d.tokens = c.tokens.reverse) := by
  have hsum := sumsUp_of_composite? hxs hc
  have htokens := hsum.tokens_eq hfailing hcolon
  refine ⟨htokens, fun x ↦ Condition.isNamedBy_reasonToken, fun ys hperm ↦ ?_⟩
  have hys : ys ≠ [] := by
    rintro rfl
    exact hxs (List.nil_perm.1 hperm)
  obtain ⟨d, hd, hdsum⟩ := exists_sumsUp k policy now hys
  -- what escalates is the same, so this composite has escalated too
  have hdfailing : d.isHealthy = false := by
    obtain ⟨x, hx⟩ := List.exists_mem_of_ne_nil _ (hsum.isHealthy_eq_false_iff.1 hfailing)
    have hxys := mem_escalating_of_mem hx (hperm.mem_iff.2 (mem_of_mem_escalating hx))
    exact hdsum.isHealthy_eq_false_iff.2 (List.ne_nil_of_mem hxys)
  have hdtokens := hdsum.tokens_eq hdfailing fun x hx ↦ hcolon x (hperm.mem_iff.1 hx)
  refine ⟨d, hd, hdfailing, hdtokens, ?_, ?_⟩
  · have hpairs (zs : List Condition) : (k.nonHealthy zs).zip
        ((k.nonHealthy zs).map (Condition.reasonToken k)) =
          (k.nonHealthy zs).map fun x ↦ (x, x.reasonToken k) := by
      simpa using List.zip_map' (f := id) (g := Condition.reasonToken k) (l := k.nonHealthy zs)
    rw [htokens, hdtokens, hpairs, hpairs]
    exact (hperm.filter _).map _
  · rintro rfl
    rw [htokens, hdtokens, nonHealthy, List.filter_reverse, List.map_reverse]
    rfl

/-- A type that is nothing but the suffix, one without the suffix and one that is still held back,
around a healthy condition. The first token is empty, and the tokens of the conditions turned round
are the tokens turned round. -/
theorem Category.tokens_of_escalated_bare :
    let bare : Condition := ⟨"Degraded", .yes, ⟨19783, 43000, 0, by decide⟩, "", ""⟩
    let tape : Condition := ⟨"Tape", .unknown, ⟨19783, 43190, 0, by decide⟩, "Lost", ""⟩
    let net : Condition := ⟨"NetDegraded", .no, ⟨19783, 43000, 0, by decide⟩, "Fine", ""⟩
    let disk : Condition := ⟨"DiskDegraded", .yes, ⟨19783, 43190, 0, by decide⟩, "Full", ""⟩
    let now : Instant := ⟨19783, 43200, 0, by decide⟩
    let policy : Policy := ⟨.ofSeconds 120, []⟩
    let c : Composite := ⟨.degraded, .yes, "::Tape_Lost::Disk_Full", "", some bare.since⟩
    Category.degraded.composite? (some policy) now [bare, tape, net, disk] = some c ∧
      c.tokens = ["", "Tape_Lost", "Disk_Full"] ∧
      ∃ d, Category.degraded.composite? (some policy) now [disk, net, tape, bare] = some d ∧
        d.tokens = ["Disk_Full", "Tape_Lost", ""] := by
  intro bare tape net disk now policy c
  have hc : Category.degraded.composite? (some policy) now [bare, tape, net, disk] = some c := by
    decide
  obtain ⟨htokens, -, hperm⟩ := Category.tokens_of_escalated .degraded (some policy) now
    [bare, tape, net, disk] (by decide) (by decide) c hc (by decide)
  have htokens' : c.tokens = ["", "Tape_Lost", "Disk_Full"] := htokens.trans (by decide)
  obtain ⟨d, hd, -, -, -, hreverse⟩ :=
    hperm [disk, net, tape, bare] (List.reverse_perm [bare, tape, net, disk])
  refine ⟨hc, htokens', d, hd, ?_⟩
  rw [hreverse rfl, htokens']
  rfl

/-- **A message is a list of attributed lines.** It is empty exactly if all the conditions that it
is about are silent: all conditions while the composite is healthy, and those that are not healthy
once it has escalated. Otherwise its lines are, condition by condition and in their order, the lines
of what each of them has to say, with its type in front; an empty line is kept, also at the end. A
message has one line more than it has newlines. -/
theorem Category.lines_of_message (k : Category) (policy : Option Policy) (now : Instant)
    (xs : List Condition) (hxs : xs ≠ []) (hline : ∀ x ∈ xs, '\n' ∉ x.type.toList) :
    ∃ c, k.composite? policy now xs = some c ∧
      let selected := if c.isHealthy then xs else k.nonHealthy xs
      (c.message = "" ↔ ∀ x ∈ selected, x.message = "") ∧
      (c.message ≠ "" → Text.lines c.message = (selected.filter fun x ↦ x.message ≠ "").flatMap
        fun x ↦ (Text.lines x.message).map fun line ↦ x.type ++ ": " ++ line) ∧
      ∀ x : Condition, (Text.lines x.message).length = x.message.toList.count '\n' + 1 := by
  obtain ⟨c, hc, hsum⟩ := exists_sumsUp k policy now hxs
  refine ⟨c, hc, ?_⟩
  intro selected
  have hmessage : c.message = joinMessages selected := by
    rw [hsum.message]
    simp only [selected, hsum.isHealthy_iff]
  have hselected : ∀ x ∈ selected, '\n' ∉ x.type.toList := by
    intro x hx
    refine hline x ?_
    by_cases h : c.isHealthy = true
    · simpa only [selected, if_pos h] using hx
    · simp only [selected, if_neg h] at hx
      exact (List.mem_filter.1 hx).1
  rw [hmessage]
  exact ⟨joinMessages_eq_empty_iff_forall, lines_joinMessages hselected,
    fun x ↦ Text.length_lines⟩

/-- A message that ends in a newline, one that begins with a newline and is still held back, and an
empty one between them; what a healthy condition says is left out. Each line has the type of its
condition in front, those without text too. -/
theorem Category.lines_of_message_trailing :
    let disk : Condition := ⟨"DiskDegraded", .yes, ⟨19783, 43000, 0, by decide⟩, "", "sda\n"⟩
    let tape : Condition := ⟨"TapeDegraded", .unknown, ⟨19783, 43190, 0, by decide⟩, "", ""⟩
    let net : Condition := ⟨"NetDegraded", .no, ⟨19783, 43000, 0, by decide⟩, "", "fine"⟩
    let fan : Condition := ⟨"FanDegraded", .yes, ⟨19783, 43190, 0, by decide⟩, "", "\nslow"⟩
    let now : Instant := ⟨19783, 43200, 0, by decide⟩
    let policy : Policy := ⟨.ofSeconds 120, []⟩
    ∃ c, Category.degraded.composite? (some policy) now [disk, tape, net, fan] = some c ∧
      c.isHealthy = false ∧ Text.lines c.message =
        ["DiskDegraded: sda", "DiskDegraded: ", "FanDegraded: ", "FanDegraded: slow"] := by
  intro disk tape net fan now policy
  obtain ⟨c, hc, -, hlines, -⟩ := Category.lines_of_message .degraded (some policy) now
    [disk, tape, net, fan] (by decide) (by decide)
  have hc' : c = ⟨.degraded, .yes, "Disk::Tape::Fan",
      "DiskDegraded: sda\nDiskDegraded: \nFanDegraded: \nFanDegraded: slow", some disk.since⟩ :=
    Option.some.inj (hc.symm.trans (by decide))
  subst hc'
  refine ⟨_, hc, by decide, ?_⟩
  rw [hlines (by decide)]
  simp only [Text.lines_eq]
  decide

end StatusRollup
