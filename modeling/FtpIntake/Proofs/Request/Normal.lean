import FtpIntake.Proofs.Command
import FtpIntake.Proofs.Request

/-!
# Requests in normal form

Every line is read as a request, and these requests have one form: the verb is in upper case and has no white space in
it, and an argument is not empty and has no white space around it. A request of this form can be written as a line and
read again, and no other request can.

* **`Request.IsNormal`** is the form.
* **`ofLine_line_iff`** says that it is just the form of the requests that survive being written and read.
* **`ofLine_laws`** has what a line is read as in both directions: what comes out of any line, and what has to be in a
  line for a given verb and argument to come out.

The line end may be missing, or be a line feed alone, and there may be white space before the verb. None of this is in
the request, so different lines may be the same request.
-/

namespace FtpIntake

namespace Text

/-! ## Blanks, words and capitals

What raising letters and cutting off white space do to each other: nothing. -/

/-- Raising a letter makes no white space and takes none away. -/
theorem isBlank_toUpper (c : Char) : isBlank c.toUpper = isBlank c := by
  have hnumber := toNat_toUpper c
  -- a letter is no blank before it is raised, and none afterwards
  by_cases hletter : 97 ≤ c.toNat ∧ c.toNat ≤ 122
  · rw [if_pos hletter] at hnumber
    have hbefore : isBlank c = false := by simp [isBlank]; omega
    have hafter : isBlank c.toUpper = false := by simp [isBlank, hnumber]; omega
    rw [hbefore, hafter]
  · rw [if_neg hletter] at hnumber
    rw [Char.toNat_inj.1 hnumber]

/-- The lower case letters are those from 97 to 122. -/
theorem isLower_iff {c : Char} : c.isLower = true ↔ 97 ≤ c.toNat ∧ c.toNat ≤ 122 := by
  show (decide (c.val ≥ 97) && decide (c.val ≤ 122)) = true ↔ _
  rw [Bool.and_eq_true, decide_eq_true_iff, decide_eq_true_iff]
  exact and_congr UInt32.le_iff_toNat_le UInt32.le_iff_toNat_le

/-- A raised letter is not in lower case. -/
theorem isLower_toUpper (c : Char) : c.toUpper.isLower = false := by
  have hnumber := toNat_toUpper c
  rw [Bool.eq_false_iff, ne_eq, isLower_iff]
  split at hnumber <;> omega

/-- A word has no white space in it. -/
theorem isBlank_of_mem_firstWord {s : List Char} {c : Char} (h : c ∈ firstWord s) : isBlank c = false := by
  simpa using List.mem_takeWhile_imp h

/-- Nothing is left of a text that is trimmed only if there was nothing but white space in it. -/
theorem trimStart_eq_nil_iff {s : List Char} : trimStart s = [] ↔ ∀ c ∈ s, isBlank c = true := by
  simp [trimStart, List.dropWhile_eq_nil_iff]

/-- A text that does not begin with white space begins with a word. -/
theorem firstWord_trimStart_eq_nil_iff {s : List Char} : firstWord (trimStart s) = [] ↔ trimStart s = [] := by
  refine ⟨fun h => ?_, fun h => by rw [h]; rfl⟩
  cases hleft : trimStart s with
  | nil => rfl
  | cons c rest =>
    have hc := List.head?_dropWhile_not isBlank s
    rw [show s.dropWhile isBlank = c :: rest from hleft] at hc
    rw [hleft] at h
    simp [firstWord] at h hc
    simp [h] at hc

/-- A line is all white space just if it is so without its end. -/
theorem forall_isBlank_dropLineEnd {s : List Char} :
    (∀ c ∈ dropLineEnd s, isBlank c = true) ↔ ∀ c ∈ s, isBlank c = true := by
  obtain ⟨ends, hends, hsplit⟩ := dropEndWhile_append isLineEnd s
  have hblank : ∀ c ∈ ends, isBlank c = true := fun c hc => isBlank_of_isLineEnd (hends c hc)
  constructor
  · intro h
    rw [hsplit]
    exact List.forall_mem_append.2 ⟨h, hblank⟩
  · intro h
    rw [hsplit] at h
    exact (List.forall_mem_append.1 h).1

/-- Raising leaves a text without small letters alone. -/
theorem toUpper_of_isLower_eq_false {c : Char} (h : c.isLower = false) : c.toUpper = c := by
  refine dif_neg fun hrange => ?_
  rw [Bool.eq_false_iff, ne_eq, isLower_iff] at h
  exact h ⟨UInt32.le_iff_toNat_le.1 hrange.1, UInt32.le_iff_toNat_le.1 hrange.2⟩

end Text

open Text

namespace Request

/-! ## Normal form

A verb in upper case without white space, and an argument without white space around it. The second cannot be there
without the first, because the first word of a line is its verb. -/

/-- There is something in a text, and no white space around it. -/
structure IsArgument (s : List Char) : Prop where
  nonempty : s ≠ []
  first : ∀ c ∈ s.head?, isBlank c = false
  last : ∀ c ∈ s.getLast?, isBlank c = false

/-- The form of the requests that are read off lines. Where there is no verb there is no argument either. -/
structure IsNormal (r : Request) : Prop where
  word : ∀ c ∈ r.verb.toList, isBlank c = false
  upper : ∀ c ∈ r.verb.toList, c.isLower = false
  argument : ∀ a ∈ r.argument, IsArgument a.toList
  bare : r.verb = "" → r.argument = none

/-- An argument is a trimmed text that is not empty. -/
theorem isArgument_iff {s : List Char} : IsArgument s ↔ s ≠ [] ∧ IsTrimmed s := by
  rw [isTrimmed_iff]
  constructor
  · intro h
    exact ⟨h.nonempty, h.first, h.last⟩
  · rintro ⟨hnonempty, hfirst, hlast⟩
    exact ⟨hnonempty, hfirst, hlast⟩

/-- Only a line of white space has no verb. -/
theorem verbOf_eq_nil_iff {s : List Char} : verbOf s = [] ↔ ∀ c ∈ s, isBlank c = true := by
  rw [verbOf, upperCase, List.map_eq_nil_iff, firstWord_trimStart_eq_nil_iff, trimStart_eq_nil_iff,
    forall_isBlank_dropLineEnd]

/-- Such a line has no argument either. -/
theorem argumentOf_eq_none {s : List Char} (h : ∀ c ∈ s, isBlank c = true) : argumentOf s = none := by
  rw [argumentOf, trimStart_eq_nil_iff.2 (forall_isBlank_dropLineEnd.2 h)]
  rfl

/-- **Every line is read as a request in normal form.** -/
theorem isNormal_ofLine (raw : String) : (ofLine raw).IsNormal where
  word := by
    intro c hc
    simp only [ofLine, String.toList_ofList, verbOf, upperCase, List.mem_map] at hc
    obtain ⟨d, hd, rfl⟩ := hc
    rw [isBlank_toUpper]
    exact isBlank_of_mem_firstWord hd
  upper := by
    intro c hc
    simp only [ofLine, String.toList_ofList, verbOf, upperCase, List.mem_map] at hc
    obtain ⟨d, -, rfl⟩ := hc
    exact isLower_toUpper d
  argument := by
    intro a ha
    obtain ⟨htrimmed, hnonempty⟩ := isTrimmed_of_argument ha
    exact isArgument_iff.2 ⟨by simpa using hnonempty, htrimmed⟩
  bare := by
    intro hverb
    have hnothing : verbOf raw.toList = [] := by simpa [ofLine] using hverb
    simp [ofLine, argumentOf_eq_none (verbOf_eq_nil_iff.1 hnothing)]

/-! ## Writing a request and reading it again

The form is not too wide: each request in it is what is read of its own line. So the requests that lines give are just
these. -/

/-- A text without lower case letters is its own upper case. -/
theorem upperCase_of_forall {s : List Char} (h : ∀ c ∈ s, c.isLower = false) : upperCase s = s := by
  rw [upperCase, List.map_congr_left fun c hc => toUpper_of_isLower_eq_false (h c hc), List.map_id']

/-- A word by itself is read as a verb without an argument. -/
theorem parts_word {verb ends : List Char} (hverb : ∀ c ∈ verb, isBlank c = false)
    (hends : ∀ c ∈ ends, isLineEnd c = true) :
    verbOf (verb ++ ends) = upperCase verb ∧ argumentOf (verb ++ ends) = none := by
  have hword : ∀ c ∈ verb, (!isBlank c) = true := fun c hc => by simp [hverb c hc]
  have hline : dropLineEnd (verb ++ ends) = verb := by
    rw [dropLineEnd, dropEndWhile_append_of_forall hends]
    refine List.rdropWhile_eq_self_iff.2 fun hne hend => ?_
    exact absurd (isBlank_of_isLineEnd hend) (by simp [hverb _ (List.getLast_mem hne)])
  have hnothing : afterFirstBlank verb = none := by
    rw [afterFirstBlank, List.dropWhile_eq_nil_iff.2 hword]
    rfl
  rw [verbOf, argumentOf, hline, trimStart_of_forall hverb, hnothing, firstWord_eq_self hnothing]
  exact ⟨rfl, rfl⟩

/-- **The requests in normal form are those that can be written as a line and read again.** -/
theorem ofLine_line_iff (r : Request) : ofLine r.line = r ↔ r.IsNormal := by
  refine ⟨fun h => h ▸ isNormal_ofLine r.line, fun h => ?_⟩
  obtain ⟨verb, argument⟩ := r
  have hupper : upperCase verb.toList = verb.toList := upperCase_of_forall h.upper
  -- a verb alone is written with its line end, and one with an argument has a space between the two
  cases argument with
  | none =>
    have hline : (line ⟨verb, none⟩).toList = verb.toList ++ ['\r', '\n'] := by simp [line]
    have hends : ∀ c ∈ ['\r', '\n'], isLineEnd c = true := List.all_eq_true.1 (by decide)
    obtain ⟨hverbOf, hargumentOf⟩ := parts_word h.word hends
    simp [ofLine, hline, hverbOf, hargumentOf, hupper]
  | some argument =>
    obtain ⟨hnonempty, htrimmed⟩ := isArgument_iff.1 (h.argument argument rfl)
    have hsome : verb ≠ "" := fun hempty => nomatch h.bare hempty
    exact ofLine_line (by simpa using h.word) hsome hupper htrimmed (by simpa using hnonempty)

/-! ## What a line is read as

The three parts together, and the white space that may stand around and between verb and argument. -/

/--
**Lines and requests.** Of any line a request in normal form is read: its verb has no white space and no small letter in
it, and is empty just if the line is all white space; its argument, if it has one, is not empty and has no white space
around it. Written as a line this request is read again. And a line gives a certain verb and argument, the verb raised
and the argument as it is, whatever white space stands in front of the verb, between the two and behind the argument,
and whatever carriage returns and line feeds the line ends in.
-/
theorem ofLine_laws (raw : String) :
    (ofLine raw).IsNormal ∧ ((ofLine raw).verb = "" ↔ ∀ c ∈ raw.toList, isBlank c = true) ∧
      ofLine (ofLine raw).line = ofLine raw ∧
      ∀ before verb between argument after ends : String,
        (∀ c ∈ (before ++ between ++ after).toList, isBlank c = true) → between ≠ "" →
        verb ≠ "" → (∀ c ∈ verb.toList, isBlank c = false) → IsArgument argument.toList →
        (∀ c ∈ ends.toList, c = '\r' ∨ c = '\n') →
        ofLine (before ++ verb ++ between ++ argument ++ after ++ ends) = make verb argument := by
  refine ⟨isNormal_ofLine raw, ?_, (ofLine_line_iff _).2 (isNormal_ofLine raw), ?_⟩
  · rw [← verbOf_eq_nil_iff]
    simp [ofLine]
  · intro before verb between argument after ends hblank hbetween hverb hword hargument hends
    simp only [String.toList_append, List.forall_mem_append] at hblank
    obtain ⟨⟨hbefore, hgap⟩, hafter⟩ := hblank
    obtain ⟨hnonempty, htrimmed⟩ := isArgument_iff.1 hargument
    -- the line end is white space behind the argument like any other
    have hrest : ∀ c ∈ after.toList ++ ends.toList, isBlank c = true := by
      refine List.forall_mem_append.2 ⟨hafter, fun c hc => ?_⟩
      rcases hends c hc with rfl | rfl <;> decide
    obtain ⟨hverbOf, hargumentOf⟩ :=
      parts_append hbefore hword (by simpa using hverb) hgap (by simpa using hbetween) htrimmed hnonempty hrest
    have hline : (before ++ verb ++ between ++ argument ++ after ++ ends).toList =
        before.toList ++ (verb.toList ++ (between.toList ++ (argument.toList ++ (after.toList ++ ends.toList)))) := by
      simp
    simp [ofLine, make, hline, hverbOf, hargumentOf]

/-- An argument with tabs in it, and a no-break space and stray carriage returns around it. -/
theorem ofLine_laws_of_tabs :
    IsArgument "a\t b".toList ∧ ofLine "\t stor\u00a0a\t b \r\n\r\r\n" = ⟨"STOR", some "a\t b"⟩ ∧
      ofLine (ofLine "\r pwd \n").line = ofLine "\r pwd \n" := by
  have hargument : IsArgument "a\t b".toList := isArgument_iff.2 (by decide)
  have hblank : ∀ c ∈ ("\t " ++ "\u00a0" ++ " \r\n").toList, isBlank c = true := List.all_eq_true.1 (by decide)
  have hany : "stor".toList.any isBlank = false := by decide
  have hword : ∀ c ∈ "stor".toList, isBlank c = false := fun c hc => Bool.eq_false_iff.2 (List.any_eq_false.1 hany c hc)
  have hends : ∀ c ∈ "\r\r\n".toList, c = '\r' ∨ c = '\n' := by simp
  refine ⟨hargument, ?_, (ofLine_laws "\r pwd \n").2.2.1⟩
  exact (ofLine_laws "").2.2.2 "\t " "stor" "\u00a0" "a\t b" " \r\n" "\r\r\n" hblank (by decide) (by decide) hword
    hargument hends

end Request

end FtpIntake
