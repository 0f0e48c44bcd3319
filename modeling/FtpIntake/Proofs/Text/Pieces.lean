import FtpIntake.Text.Pieces
import Mathlib.Data.List.Forall2

/-!
# Putting a text together and taking it apart

A text falls apart into the pieces that it was put together from, if none of them holds the separator, and into no
others.

* **`splitAt_eq_cons_iff`** says which pieces a text has, and **`mapM_eq_some_iff`** what it is to read them one by one.
* **`replaceAll_append_left`** and **`replaceAll_append_right`**: what a pattern cannot reach comes off both ends of a
  text in which it is replaced.
* **`replaceAll_eq_self_iff`** says when a replacement leaves no trace.
-/

namespace FtpIntake.Text

theorem joinWith_eq_intercalate (d : Char) (pieces : List (List Char)) :
    joinWith d pieces = [d].intercalate pieces := by
  match pieces with
  | [] => rfl
  | [p] => simp [joinWith]
  | p :: q :: rest =>
    rw [joinWith, joinWith_eq_intercalate d (q :: rest), List.intercalate_cons_cons]
    simp

/-- Pieces that are put together come apart again if the separator is in none of them. Induction on the pieces. -/
theorem splitAt_intercalate {d : Char} {piece : List Char} {pieces : List (List Char)}
    (h : ∀ p ∈ piece :: pieces, d ∉ p) : splitAt d ([d].intercalate (piece :: pieces)) = piece :: pieces := by
  induction pieces generalizing piece with
  | nil =>
    rw [List.intercalate_singleton]
    exact splitAt_of_notMem (h piece List.mem_cons_self)
  | cons next pieces ih =>
    obtain ⟨hpiece, hrest⟩ := List.forall_mem_cons.1 h
    rw [List.intercalate_cons_cons, List.append_assoc, List.singleton_append, splitAt_append hpiece, ih hrest]

/-- The pieces of a text are the only ones without the separator that the text can be put together from. -/
theorem splitAt_eq_cons_iff {d : Char} {s piece : List Char} {pieces : List (List Char)} :
    splitAt d s = piece :: pieces ↔ s = [d].intercalate (piece :: pieces) ∧ ∀ p ∈ piece :: pieces, d ∉ p := by
  constructor
  · intro h
    refine ⟨?_, fun p hp => notMem_of_mem_splitAt (h ▸ hp)⟩
    rw [← h, ← joinWith_eq_intercalate, joinWith_splitAt]
  · rintro ⟨rfl, h⟩
    exact splitAt_intercalate h

/-- Nothing but the separator and the pieces gets into a text that is put together. -/
theorem mem_intercalate {α : Type} {separator : List α} {pieces : List (List α)} {a : α}
    (h : a ∈ separator.intercalate pieces) : a ∈ separator ∨ ∃ piece ∈ pieces, a ∈ piece := by
  induction pieces with
  | nil => exact absurd h List.not_mem_nil
  | cons piece pieces ih =>
    -- a separator stands between two pieces, so there is none behind the last one
    cases pieces with
    | nil => exact .inr ⟨piece, List.mem_cons_self, by simpa using h⟩
    | cons next pieces =>
      rw [List.intercalate_cons_cons, List.mem_append, List.mem_append] at h
      rcases h with (h | h) | h
      · exact .inr ⟨piece, List.mem_cons_self, h⟩
      · exact .inl h
      · rcases ih h with h | ⟨piece', hmem, h⟩
        · exact .inl h
        · exact .inr ⟨piece', List.mem_cons_of_mem _ hmem, h⟩

/-- Reading one by one succeeds where each reading does. -/
theorem mapM_eq_some_iff {α β : Type} {read : α → Option β} {as : List α} {bs : List β} :
    as.mapM read = some bs ↔ List.Forall₂ (fun a b => read a = some b) as bs := by
  induction as generalizing bs with
  | nil => cases bs <;> simp
  | cons a as ih =>
    cases bs with
    | nil => simp [List.mapM_cons, Option.bind_eq_some_iff]
    | cons b bs => simp [List.mapM_cons, ← ih, Option.bind_eq_some_iff]

/-! ## Replacing a pattern

A replacement goes through the text from the left: at an occurrence it goes on behind the occurrence, and everywhere
else by one character. `scan_induction` is the induction that follows it. -/

section Replace

variable {pattern replacement s : List Char}

theorem replaceAll_pattern_append (h : pattern ≠ []) :
    replaceAll pattern replacement (pattern ++ s) = replacement ++ replaceAll pattern replacement s := by
  obtain ⟨first, rest, rfl⟩ := List.exists_cons_of_ne_nil h
  rw [List.cons_append, replaceAll, if_pos (by simp)]
  simp

theorem replaceAll_cons {c : Char} (h : ¬pattern <+: c :: s) :
    replaceAll pattern replacement (c :: s) = c :: replaceAll pattern replacement s := by
  rw [replaceAll, if_neg (by simp [h])]

/-- A text has ended, or it begins with the pattern, or with a character that is passed over. -/
theorem scan_induction (h : pattern ≠ []) {motive : List Char → Prop} (ended : motive [])
    (found : ∀ s, motive s → motive (pattern ++ s))
    (passed : ∀ c s, ¬pattern <+: c :: s → motive s → motive (c :: s)) (s : List Char) : motive s := by
  by_cases hbegins : pattern <+: s
  · obtain ⟨rest, hrest⟩ := hbegins
    -- a pattern that was found is stepped over as a whole, and it is not empty
    have hpattern : 0 < pattern.length := List.length_pos_iff.2 h
    have hlength : pattern.length + rest.length = s.length := by rw [← hrest, List.length_append]
    exact hrest ▸ found rest (scan_induction h ended found passed rest)
  · cases s with
    | nil => exact ended
    | cons c rest => exact passed c rest hbegins (scan_induction h ended found passed rest)
termination_by s.length
decreasing_by
  · omega
  · exact Nat.lt_succ_self _

theorem replaceAll_of_not_isInfix (h : ¬pattern <:+: s) : replaceAll pattern replacement s = s := by
  induction s with
  | nil => rw [replaceAll]
  | cons c rest ih =>
    have hrest : ¬pattern <:+: rest := fun hoccurs => h (List.infix_cons hoccurs)
    rw [replaceAll_cons fun hbegins => h hbegins.isInfix, ih hrest]

/-- A text without the first character of the pattern comes off the front. -/
theorem replaceAll_append_left {first : Char} {before : List Char} (hfirst : pattern.head? = some first)
    (h : first ∉ before) :
    replaceAll pattern replacement (before ++ s) = before ++ replaceAll pattern replacement s := by
  obtain ⟨rest, rfl⟩ := List.head?_eq_some_iff.1 hfirst
  induction before with
  | nil => rfl
  | cons c before ih =>
    rw [List.mem_cons, not_or] at h
    have hbegins : ¬first :: rest <+: c :: (before ++ s) := fun hbegins => h.1 (List.cons_prefix_cons.1 hbegins).1
    rw [List.cons_append, replaceAll_cons hbegins, ih h.2, List.cons_append]

/-- An occurrence that begins in front of a text without the last character of the pattern does not reach into it. -/
theorem prefix_of_prefix_append {last : Char} {after : List Char} (hlast : pattern.getLast? = some last)
    (h : last ∉ after) (hbegins : pattern <+: s ++ after) : pattern <+: s := by
  rcases List.prefix_or_prefix_of_prefix hbegins (List.prefix_append s after) with hshort | ⟨more, rfl⟩
  · exact hshort
  · rw [List.prefix_append_right_inj] at hbegins
    cases hmore : more.getLast? with
    | none => simp [List.getLast?_eq_none_iff.1 hmore]
    | some c =>
      obtain rfl : c = last := by simpa [hmore] using hlast
      exact absurd (hbegins.subset (List.mem_of_getLast? hmore)) h

/-- A text without the last character of the pattern comes off the end. -/
theorem replaceAll_append_right {last : Char} {after : List Char} (hlast : pattern.getLast? = some last)
    (h : last ∉ after) : replaceAll pattern replacement (s ++ after) = replaceAll pattern replacement s ++ after := by
  have hpattern : pattern ≠ [] := by
    rintro rfl
    cases hlast
  induction s using scan_induction hpattern with
  | ended =>
    -- each occurrence has the last character of the pattern in it, and the text behind has none
    have hoccurs : ¬pattern <:+: after := fun hoccurs => h (hoccurs.subset (List.mem_of_getLast? hlast))
    rw [List.nil_append, replaceAll_of_not_isInfix hoccurs, replaceAll, List.nil_append]
  | found s ih =>
    rw [List.append_assoc, replaceAll_pattern_append hpattern, replaceAll_pattern_append hpattern, ih,
      List.append_assoc]
  | passed c s hbegins ih =>
    -- an occurrence that begins in front cannot reach into the text behind
    have hbegins' : ¬pattern <+: c :: (s ++ after) := fun hlong => hbegins (prefix_of_prefix_append hlast h hlong)
    rw [List.cons_append, replaceAll_cons hbegins', replaceAll_cons hbegins, ih, List.cons_append]

/-- A text is made of occurrences of the pattern and of a rest, for whatever adds up over a text. -/
theorem exists_occurrences (h : pattern ≠ []) (replacement : List Char) {size : List Char → Nat}
    (hsize : ∀ a b, size (a ++ b) = size a + size b) (s : List Char) :
    ∃ rest k, size s = rest + k * size pattern ∧
      size (replaceAll pattern replacement s) = rest + k * size replacement ∧ (pattern <:+: s → 0 < k) := by
  induction s using scan_induction h with
  | ended => exact ⟨size [], 0, by simp, by rw [replaceAll]; simp, fun hoccurs => absurd (List.infix_nil.1 hoccurs) h⟩
  -- one more occurrence
  | found s ih =>
    obtain ⟨rest, k, hs, hreplaced, -⟩ := ih
    refine ⟨rest, k + 1, ?_, ?_, fun _ => Nat.succ_pos k⟩
    · rw [hsize, hs, Nat.succ_mul]
      omega
    · rw [replaceAll_pattern_append h, hsize, hreplaced, Nat.succ_mul]
      omega
  | passed c s hbegins ih =>
    obtain ⟨rest, k, hs, hreplaced, hpos⟩ := ih
    refine ⟨size [c] + rest, k, ?_, ?_, fun hoccurs => hpos ((List.infix_cons_iff.1 hoccurs).resolve_left hbegins)⟩
    · rw [← List.singleton_append, hsize, hs]
      omega
    · rw [replaceAll_cons hbegins, ← List.singleton_append, hsize, hreplaced]
      omega

/-- Taking a pattern out leaves fewer of its characters. -/
theorem count_replaceAll_nil_lt {c : Char} (hc : c ∈ pattern) (h : pattern <:+: s) :
    (replaceAll pattern [] s).count c < s.count c := by
  have hpattern : 0 < pattern.count c := List.count_pos_iff.2 hc
  obtain ⟨rest, k, hs, hreplaced, hpos⟩ :=
    exists_occurrences (List.ne_nil_of_mem hc) [] (fun a b => List.count_append) s
  rw [hs, hreplaced, List.count_nil, Nat.mul_zero]
  exact Nat.lt_add_of_pos_right (Nat.mul_pos (hpos h) hpattern)

/-- **A replacement leaves a text as it was** just if there was nothing to replace or nothing to replace it with. -/
theorem replaceAll_eq_self_iff (h : pattern ≠ []) :
    replaceAll pattern replacement s = s ↔ ¬pattern <:+: s ∨ replacement = pattern := by
  constructor
  · intro heq
    by_cases hoccurs : pattern <:+: s
    · obtain ⟨rest, k, hs, hreplaced, hpos⟩ := exists_occurrences h replacement (fun a b => List.length_append) s
      have hlength : replacement.length = pattern.length := by
        rw [heq, hs] at hreplaced
        exact Nat.eq_of_mul_eq_mul_left (hpos hoccurs) (Nat.add_left_cancel hreplaced).symm
      -- the first occurrence is where the two can be compared
      refine .inr ?_
      clear hs hreplaced hpos
      induction s using scan_induction h with
      | ended => exact absurd (List.infix_nil.1 hoccurs) h
      | found s _ =>
        rw [replaceAll_pattern_append h] at heq
        exact (List.append_inj heq hlength).1
      | passed c s hbegins ih =>
        rw [replaceAll_cons hbegins] at heq
        exact ih (List.cons.inj heq).2 ((List.infix_cons_iff.1 hoccurs).resolve_left hbegins)
    · exact .inl hoccurs
  · rintro (hoccurs | rfl)
    · exact replaceAll_of_not_isInfix hoccurs
    · induction s using scan_induction h with
      | ended => rw [replaceAll]
      | found s ih => rw [replaceAll_pattern_append h, ih]
      | passed c s hbegins ih => rw [replaceAll_cons hbegins, ih]

end Replace

end FtpIntake.Text
