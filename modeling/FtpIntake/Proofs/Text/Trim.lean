import FtpIntake.Text.Blank
import Mathlib.Data.List.DropRight
import Mathlib.Data.List.TakeWhile

/-!
# Trimming

White space comes off at the front and at the end of a text. What is left has none around it, and it is the same however
much white space there was.

* **`IsTrimmed`** says that there is no white space around a text. **`isTrimmed_trim`** holds of everything that was
  trimmed, and **`trim_append`** takes off again what is put around such a text.
* **`exists_dropLineEnd_append`**: with its line end, a line may lose white space in front of it, and nothing else.
-/

namespace FtpIntake.Text

variable {p : Char → Bool} {s t w : List Char}

/-- The characters of a line end are white space. -/
theorem isBlank_of_isLineEnd {c : Char} (h : isLineEnd c = true) : isBlank c = true := by
  rw [isLineEnd, Bool.or_eq_true, beq_iff_eq, beq_iff_eq] at h
  rcases h with rfl | rfl <;> decide

/-! ## The end of a text

Trimming drops a class of characters from the end. It is described by what was put there. -/

/-- What is dropped at the end is of the class. -/
theorem dropEndWhile_append (p : Char → Bool) (s : List Char) :
    ∃ dropped, (∀ c ∈ dropped, p c = true) ∧ s = dropEndWhile p s ++ dropped :=
  ⟨s.rtakeWhile p, fun _ => List.mem_rtakeWhile_imp, (List.rdropWhile_append_rtakeWhile).symm⟩

/-- A tail of the class is dropped as a whole, with what is of the class before it. -/
theorem dropEndWhile_append_of_forall (h : ∀ c ∈ w, p c = true) : dropEndWhile p (s ++ w) = dropEndWhile p s := by
  rw [dropEndWhile, List.reverse_append, List.dropWhile_append_of_pos fun c hc => h c (List.mem_reverse.1 hc)]
  rfl

/-- If something is left of the tail, then what stands before it is left as well. -/
theorem dropEndWhile_append_of_ne (h : dropEndWhile p t ≠ []) : dropEndWhile p (s ++ t) = s ++ dropEndWhile p t := by
  have hleft : ¬(t.reverse.dropWhile p).isEmpty = true := by
    rw [List.isEmpty_iff, ← List.reverse_eq_nil_iff]
    exact h
  rw [dropEndWhile, List.reverse_append, List.dropWhile_append, if_neg hleft, List.reverse_append, List.reverse_reverse]
  rfl

/-! ## White space around a text

What is left after trimming has no white space around it, and what has none is left as it is. -/

/-- There is no white space at the front of a text, and none at its end. -/
def IsTrimmed (s : List Char) : Prop :=
  trimStart s = s ∧ trimEnd s = s

instance (s : List Char) : Decidable (IsTrimmed s) :=
  inferInstanceAs (Decidable (_ ∧ _))

/-- **A trimmed text has no white space around it.** -/
theorem isTrimmed_trim (s : List Char) : IsTrimmed (trim s) := by
  refine ⟨?_, List.rdropWhile_idempotent isBlank (trimStart s)⟩
  obtain ⟨dropped, -, hsplit⟩ := dropEndWhile_append isBlank (trimStart s)
  cases hleft : trim s with
  | nil => rfl
  | cons c rest =>
    -- the first character was there before the end was trimmed
    have hstart : s.dropWhile isBlank = c :: (rest ++ dropped) := by
      rw [← List.cons_append, ← hleft]
      exact hsplit
    have hc := List.head?_dropWhile_not isBlank s
    rw [hstart] at hc
    exact List.dropWhile_cons_of_neg (Bool.eq_false_iff.1 hc)

/-- A text is trimmed just if it neither begins nor ends with white space. -/
theorem isTrimmed_iff : IsTrimmed s ↔ (∀ c ∈ s.head?, isBlank c = false) ∧ ∀ c ∈ s.getLast?, isBlank c = false := by
  have hstart : trimStart s = s ↔ ∀ c ∈ s.head?, isBlank c = false := by
    cases s with
    | nil => simp [trimStart]
    | cons c rest => simp [trimStart, List.dropWhile_eq_self_iff]
  have hend : trimEnd s = s ↔ ∀ c ∈ s.getLast?, isBlank c = false := by
    rw [show trimEnd s = s.rdropWhile isBlank from rfl, List.rdropWhile_eq_self_iff]
    cases s using List.reverseRecOn with
    | nil => simp
    | append_singleton rest c => simp
  exact and_congr hstart hend

/-- Trimming it once more does nothing. -/
theorem IsTrimmed.trim_eq (h : IsTrimmed s) : trim s = s := by
  rw [trim, h.1, h.2]

/-- A text without white space has none in front. -/
theorem trimStart_of_forall (h : ∀ c ∈ s, isBlank c = false) : trimStart s = s := by
  cases s with
  | nil => rfl
  | cons c s => rw [trimStart, List.dropWhile_cons_of_neg (by simp [h c List.mem_cons_self])]

/-- There is nothing to trim where there is no white space. -/
theorem trim_of_forall (h : ∀ c ∈ s, isBlank c = false) : trim s = s := by
  have hend : trimEnd s = s := by
    refine List.rdropWhile_eq_self_iff.2 fun hne => ?_
    simp [h _ (List.getLast_mem hne)]
  rw [trim, trimStart_of_forall h, hend]

/-- A text that begins with something keeps its front whatever is put behind it. -/
theorem trimStart_append (h : trimStart s = s) (hs : s ≠ []) (t : List Char) : trimStart (s ++ t) = s ++ t := by
  have hleft : ¬(s.dropWhile isBlank).isEmpty = true := by
    rw [List.isEmpty_iff]
    exact fun hnil => hs (h.symm.trans hnil)
  rw [trimStart, List.dropWhile_append, if_neg hleft]
  exact congrArg (· ++ t) h

/-- What stands before a text that ends in no white space is kept. -/
theorem trimEnd_append (h : trimEnd t = t) (ht : t ≠ []) (s : List Char) : trimEnd (s ++ t) = s ++ t := by
  have hleft : dropEndWhile isBlank t ≠ [] := fun hnil => ht (h.symm.trans hnil)
  rw [trimEnd, dropEndWhile_append_of_ne hleft]
  exact congrArg (s ++ ·) h

/-- **White space around a text comes off again**, if there is something in the text and none around it already. -/
theorem trim_append (h : IsTrimmed s) (hs : s ≠ []) {before after : List Char}
    (hbefore : ∀ c ∈ before, isBlank c = true) (hafter : ∀ c ∈ after, isBlank c = true) :
    trim (before ++ (s ++ after)) = s := by
  have hstart : trimStart (before ++ (s ++ after)) = s ++ after := by
    rw [trimStart, List.dropWhile_append_of_pos hbefore]
    exact trimStart_append h.1 hs after
  rw [trim, hstart, trimEnd, dropEndWhile_append_of_forall hafter]
  exact h.2

/-- The line end takes white space in front of it along only as far as this consists of line ends, too. -/
theorem exists_dropLineEnd_append (h : trimEnd s = s) (hw : ∀ c ∈ w, isBlank c = true) :
    ∃ w', (∀ c ∈ w', isBlank c = true) ∧ dropLineEnd (s ++ w) = s ++ w' := by
  by_cases hleft : dropLineEnd w = []
  · have hends : ∀ c ∈ w, isLineEnd c = true := List.rdropWhile_eq_nil_iff.1 hleft
    have hlast : ∀ hs : s ≠ [], ¬isBlank (s.getLast hs) = true := List.rdropWhile_eq_self_iff.1 h
    refine ⟨[], nofun, ?_⟩
    rw [dropLineEnd, dropEndWhile_append_of_forall hends, List.append_nil]
    exact List.rdropWhile_eq_self_iff.2 fun hs hend => hlast hs (isBlank_of_isLineEnd hend)
  · refine ⟨dropLineEnd w, fun c hc => ?_, dropEndWhile_append_of_ne hleft⟩
    exact hw c ((List.rdropWhile_prefix isLineEnd w).subset hc)

end FtpIntake.Text
