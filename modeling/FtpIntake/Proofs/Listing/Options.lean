import FtpIntake.Listing
import FtpIntake.Proofs.Request.Normal

/-!
# Options in front of a directory

The argument of a listing command is read word by word as long as the words begin with a hyphen, and the directory is
what is left from the first other word on. The reading is a loop that shortens its own text and knows of no words.
`words` does, by cutting a text at its white space, and the two are brought together here.

A pass of the loop drops one option, so an argument with three options takes three passes and leaves what is behind
them. `Passes` counts them, `OptionsOnly` says what may be skipped, and the induction is `loop_induction`, which takes
the text apart as the loop does: it stops, or it makes one pass and has a shorter text.

* **`words_append_cons`**: a blank keeps the words on its two sides apart.
* **`skipOptions_append`**: options in front of a text make no difference.
* **`exists_skipped`**: what is left is the end of the text, with nothing but options in front of it.
* **`target_laws`** says which directory an argument asks for, and in how many passes it is found.

An option ends at white space, so a hyphen by itself is one as well. What is behind the last option is not cut into
words again, and the directory may have blanks in its name.
-/

namespace FtpIntake

namespace Text

/-! ## Words

The specification speaks of words. A text falls into them at its white space, and a word does not know how much of
that was around it. -/

/-- The words of a text: what stands between its blanks, as far as there is anything. -/
def words (s : List Char) : List (List Char) :=
  (s.splitOnP isBlank).filter (· ≠ [])

/-- **A blank keeps the words on its two sides apart.** -/
theorem words_append_cons {b : Char} (hb : isBlank b = true) (s t : List Char) :
    words (s ++ b :: t) = words s ++ words t := by
  rw [words, List.splitOnP_append_cons s t hb, List.filter_append]
  rfl

/-- A text without white space is one word. -/
theorem words_of_forall {w : List Char} (h : ∀ c ∈ w, isBlank c = false) (hne : w ≠ []) : words w = [w] := by
  rw [words, List.splitOnP_eq_singleton h, List.filter_cons_of_pos (by simpa using hne), List.filter_nil]

/-- White space in front of a text is no word. -/
theorem words_trimStart (s : List Char) : words (trimStart s) = words s := by
  induction s with
  | nil => rfl
  | cons c s ih =>
    by_cases hc : isBlank c = true
    · rw [trimStart, List.dropWhile_cons_of_pos hc]
      exact ih.trans (words_append_cons hc [] s).symm
    · rw [trimStart, List.dropWhile_cons_of_neg hc]

/-- A text that does not begin with white space is a word and what follows it. -/
theorem words_of_trimStart {s : List Char} (h : trimStart s = s) (hne : s ≠ []) :
    words s = firstWord s :: words (s.dropWhile fun c => !isBlank c) := by
  have hword : firstWord s ≠ [] := fun hnil => hne (h ▸ firstWord_trimStart_eq_nil_iff.1 (h.symm ▸ hnil))
  have hfirst : words (firstWord s) = [firstWord s] :=
    words_of_forall (fun c hc => isBlank_of_mem_firstWord hc) hword
  have hsplit : firstWord s ++ s.dropWhile (fun c => !isBlank c) = s := List.takeWhile_append_dropWhile
  have hblank := List.head?_dropWhile_not (fun c => !isBlank c) s
  -- either the first word is all there is, or white space keeps the other words apart from it
  cases hrest : s.dropWhile (fun c => !isBlank c) with
  | nil =>
    rw [hrest, List.append_nil] at hsplit
    rw [hsplit] at hfirst ⊢
    exact hfirst
  | cons b rest =>
    have hb : isBlank b = true := by simpa [hrest] using hblank
    rw [hrest] at hsplit
    conv_lhs => rw [← hsplit, words_append_cons hb, hfirst]
    exact congrArg (firstWord s :: ·) (words_append_cons hb [] rest).symm

end Text

open Text

namespace Listing

/-! ## The loop

The program drops options with a loop over the text that is left. That the text gets shorter has to be known before
anything else can be said of the loop, so its recursion is turned into an induction principle here. -/

/-- What a pass of the loop leaves of a text that begins with an option. -/
def afterOption (rest : List Char) : List Char :=
  match afterFirstBlank rest with
  | some remainder => trimStart remainder
  | none => []

/-- The loop ends after a number of passes: it stops at a text that does not begin with a hyphen, and takes one more
pass otherwise. -/
inductive Passes : Nat → List Char → List Char → Prop
  | stop {rest : List Char} (h : rest.head? ≠ some '-') : Passes 0 rest rest
  | pass {n : Nat} {rest last : List Char} (h : rest.head? = some '-') (hrest : Passes n (afterOption rest) last) :
      Passes (n + 1) rest last

/-- Whether a word is an option. -/
def isOption (word : List Char) : Bool :=
  word.head? == some '-'

/-- The loop ends where no hyphen stands. -/
theorem skipOptions_of_head?_ne {rest : List Char} (h : rest.head? ≠ some '-') : skipOptions rest = rest := by
  rw [skipOptions, if_neg h]

theorem skipOptions_nil : skipOptions [] = [] :=
  skipOptions_of_head?_ne nofun

/-- At a hyphen it goes on behind the word and the white space after it. -/
theorem skipOptions_of_head? {rest : List Char} (h : rest.head? = some '-') :
    skipOptions rest = skipOptions (afterOption rest) := by
  rw [skipOptions, if_pos h, afterOption]
  split
  · next hremainder => rw [hremainder]
  · next hremainder => rw [hremainder, skipOptions_nil]

/-- What is behind an option is what is left when its word and the white space after it are dropped. -/
theorem afterOption_eq (rest : List Char) : afterOption rest = trimStart (rest.dropWhile fun c => !isBlank c) := by
  have hblank := List.head?_dropWhile_not (fun c => !isBlank c) rest
  unfold afterOption afterFirstBlank
  cases hrest : rest.dropWhile (fun c => !isBlank c) with
  | nil => rfl
  | cons b remainder =>
    have hb : isBlank b = true := by simpa [hrest] using hblank
    exact (List.dropWhile_cons_of_pos hb).symm

/-- Dropping the white space in front a second time finds none. -/
theorem trimStart_trimStart (s : List Char) : trimStart (trimStart s) = trimStart s :=
  List.dropWhile_idempotent isBlank s

/-- So every pass begins at a word, or at the end. -/
theorem trimStart_afterOption (rest : List Char) : trimStart (afterOption rest) = afterOption rest := by
  rw [afterOption_eq, trimStart_trimStart]

/-- Every pass makes the text shorter, which is why the loop ends. -/
theorem length_afterOption_lt {rest : List Char} (h : rest ≠ []) : (afterOption rest).length < rest.length := by
  unfold afterOption
  split
  · next remainder hremainder =>
    exact Nat.lt_of_le_of_lt (length_trimStart_le remainder) (length_lt_of_afterFirstBlank hremainder)
  · exact List.length_pos_iff.2 h

/-- At the beginning of a pass there is no white space in front, and the text either ends the loop or gets shorter. -/
theorem loop_induction {motive : (rest : List Char) → trimStart rest = rest → Prop}
    (stop : ∀ rest htrim, rest.head? ≠ some '-' → motive rest htrim)
    (pass : ∀ rest htrim, rest.head? = some '-' → motive (afterOption rest) (trimStart_afterOption rest) →
      motive rest htrim)
    (rest : List Char) (htrim : trimStart rest = rest) : motive rest htrim := by
  by_cases hhead : rest.head? = some '-'
  · have hshorter : (afterOption rest).length < rest.length :=
      length_afterOption_lt (List.ne_nil_of_mem (List.mem_of_head? hhead))
    exact pass rest htrim hhead (loop_induction stop pass (afterOption rest) (trimStart_afterOption rest))
  · exact stop rest htrim hhead
termination_by rest.length

/-! ## Passes and words

One pass of the loop is one word less. The passes are counted, and they are as many as there are options in front. -/

/-- A text that begins with a hyphen begins with a word that is an option. -/
theorem words_of_head? {rest : List Char} (htrim : trimStart rest = rest) (h : rest.head? = some '-') :
    ∃ word, isOption word = true ∧ words rest = word :: words (afterOption rest) := by
  refine ⟨firstWord rest, ?_, ?_⟩
  · obtain ⟨more, rfl⟩ := List.head?_eq_some_iff.1 h
    rfl
  · rw [words_of_trimStart htrim (List.ne_nil_of_mem (List.mem_of_head? h)), afterOption_eq, words_trimStart]

/-- A text that begins neither with a hyphen nor with white space begins with a word that is no option. -/
theorem words_of_head?_ne {rest : List Char} (htrim : trimStart rest = rest) (h : rest.head? ≠ some '-') :
    ∀ word ∈ (words rest).head?, isOption word = false := by
  cases rest with
  | nil => nofun
  | cons c more =>
    have hc : isBlank c = false := by simpa [trimStart, List.dropWhile_eq_self_iff] using htrim
    have hword : (firstWord (c :: more)).head? = some c := by simp [firstWord, hc]
    rw [words_of_trimStart htrim (List.cons_ne_nil c more)]
    rintro word ⟨⟩
    rw [isOption, hword]
    exact beq_false_of_ne h

/-- **The loop makes one pass for each option** in front of the first other word. -/
theorem passes_skipOptions {rest : List Char} (h : trimStart rest = rest) :
    Passes ((words rest).takeWhile isOption).length rest (skipOptions rest) := by
  induction rest, h using loop_induction with
  | stop rest htrim hhead =>
    -- a text that begins with no hyphen begins with no option
    have hnone : (words rest).takeWhile isOption = [] := by
      cases hwords : words rest with
      | nil => rfl
      | cons word more =>
        have hword : isOption word = false := words_of_head?_ne htrim hhead word (by rw [hwords]; rfl)
        exact List.takeWhile_cons_of_neg (by simp [hword])
    rw [hnone, skipOptions_of_head?_ne hhead]
    exact .stop hhead
  | pass rest htrim hhead ih =>
    obtain ⟨word, hword, hwords⟩ := words_of_head? htrim hhead
    rw [hwords, List.takeWhile_cons_of_pos hword, List.length_cons, skipOptions_of_head? hhead]
    exact .pass hhead ih

/-- What is left are the words from the first one on that is no option. -/
theorem words_skipOptions {rest : List Char} (h : trimStart rest = rest) :
    words (skipOptions rest) = (words rest).dropWhile isOption := by
  induction rest, h using loop_induction with
  | stop rest htrim hhead =>
    rw [skipOptions_of_head?_ne hhead]
    cases hwords : words rest with
    | nil => rfl
    | cons word more =>
      have hword : isOption word = false := words_of_head?_ne htrim hhead word (by rw [hwords]; rfl)
      exact (List.dropWhile_cons_of_neg (by simp [hword])).symm
  | pass rest htrim hhead ih =>
    obtain ⟨word, hword, hwords⟩ := words_of_head? htrim hhead
    rw [hwords, List.dropWhile_cons_of_pos hword, skipOptions_of_head? hhead]
    exact ih

/-- What is left begins neither with white space nor with a hyphen. -/
theorem head?_skipOptions {rest : List Char} (h : trimStart rest = rest) :
    trimStart (skipOptions rest) = skipOptions rest ∧ (skipOptions rest).head? ≠ some '-' := by
  induction rest, h using loop_induction with
  | stop rest htrim hhead =>
    rw [skipOptions_of_head?_ne hhead]
    exact ⟨htrim, hhead⟩
  | pass rest htrim hhead ih =>
    rw [skipOptions_of_head? hhead]
    exact ih

/-! ## What is skipped

The same from the other side: what the loop drops is a text of options only, and any such text can be put in front. -/

/-- Options and white space, with white space behind every option. -/
inductive OptionsOnly : List Char → Prop
  | nil : OptionsOnly []
  | blank {b : Char} {s : List Char} (hb : isBlank b = true) (hs : OptionsOnly s) : OptionsOnly (b :: s)
  | option {word : List Char} {b : Char} {s : List Char} (hoption : isOption word = true)
      (hword : ∀ c ∈ word, isBlank c = false) (hb : isBlank b = true) (hs : OptionsOnly s) :
      OptionsOnly (word ++ b :: s)

/-- Options in front of options are options. -/
theorem OptionsOnly.append {s t : List Char} (hs : OptionsOnly s) (ht : OptionsOnly t) : OptionsOnly (s ++ t) := by
  induction hs with
  | nil => exact ht
  | blank hb _ ih => exact .blank hb ih
  | option hoption hword hb _ ih =>
    rw [List.append_assoc]
    exact .option hoption hword hb ih

/-- White space alone counts as options, because it is skipped along with them. -/
theorem OptionsOnly.of_blank {s : List Char} (h : ∀ c ∈ s, isBlank c = true) : OptionsOnly s := by
  induction s with
  | nil => exact .nil
  | cons b s ih =>
    obtain ⟨hb, hs⟩ := List.forall_mem_cons.1 h
    exact .blank hb (ih hs)

/-- **Options in front of a text make no difference.** Induction on the options. -/
theorem skipOptions_append {skipped : List Char} (h : OptionsOnly skipped) (s : List Char) :
    skipOptions (trimStart (skipped ++ s)) = skipOptions (trimStart s) := by
  induction h with
  | nil => rfl
  | @blank b more hb _ ih => rwa [List.cons_append, trimStart, List.dropWhile_cons_of_pos hb]
  | @option word b more hoption hword hb _ ih =>
    obtain ⟨letters, rfl⟩ := List.head?_eq_some_iff.1 (beq_iff_eq.1 hoption)
    have hbegins : isBlank '-' = false := by decide
    -- the option ends at its first white space, which is where the loop goes on
    have hremainder : afterFirstBlank ('-' :: letters ++ b :: (more ++ s)) = some (more ++ s) :=
      (Request.firstWord_append_cons hword hb (more ++ s)).2
    have htrim : trimStart ('-' :: letters ++ b :: more ++ s) = '-' :: letters ++ b :: (more ++ s) := by
      rw [List.append_assoc]
      exact List.dropWhile_cons_of_neg (by simp [hbegins])
    rw [htrim, skipOptions_of_head? (by rfl), afterOption, hremainder]
    exact ih

/-- **What is left is the end of the text**, and there are nothing but options in front of it. -/
theorem exists_skipped {rest : List Char} (h : trimStart rest = rest) (hleft : skipOptions rest ≠ []) :
    ∃ skipped, OptionsOnly skipped ∧ rest = skipped ++ skipOptions rest := by
  induction rest, h using loop_induction with
  | stop rest htrim hhead => exact ⟨[], .nil, (skipOptions_of_head?_ne hhead).symm⟩
  | pass rest htrim hhead ih =>
    rw [skipOptions_of_head? hhead] at hleft ⊢
    obtain ⟨skipped, hskipped, hrest⟩ := ih hleft
    cases hremainder : afterFirstBlank rest with
    | none =>
      rw [afterOption, hremainder, skipOptions] at hleft
      exact absurd rfl hleft
    | some remainder =>
      obtain ⟨b, hb, hsplit⟩ := firstWord_append hremainder
      have hoption : isOption (firstWord rest) = true := by
        obtain ⟨more, rfl⟩ := List.head?_eq_some_iff.1 hhead
        rfl
      have hafter : afterOption rest = trimStart remainder := by rw [afterOption, hremainder]
      -- the white space behind the option is the blank and what was trimmed
      have hgap : OptionsOnly (remainder.takeWhile isBlank) := .of_blank fun c hc => List.mem_takeWhile_imp hc
      refine ⟨firstWord rest ++ b :: (remainder.takeWhile isBlank ++ skipped),
        .option hoption (fun c hc => isBlank_of_mem_firstWord hc) hb (hgap.append hskipped), ?_⟩
      rw [List.append_assoc, List.cons_append, List.append_assoc, ← hrest, hafter,
        show remainder.takeWhile isBlank ++ trimStart remainder = remainder from List.takeWhile_append_dropWhile]
      exact hsplit

/-! ## The directory of an argument

What is left is the rest of the argument as it stands, with the blanks that are in it. It is a single word only if
there are none. -/

/-- A text begins at once with a word that is no option. -/
def IsTarget (s : List Char) : Prop :=
  s ≠ [] ∧ trimStart s = s ∧ s.head? ≠ some '-'

instance (s : List Char) : Decidable (IsTarget s) :=
  inferInstanceAs (Decidable (_ ∧ _ ∧ _))

/-- A directory is asked for just if something is left. -/
theorem target?_eq_some_iff {argument target : String} :
    target? argument = some target ↔
      skipOptions (trimStart argument.toList) = target.toList ∧ target.toList ≠ [] := by
  rw [target?]
  cases hleft : skipOptions (trimStart argument.toList) with
  | nil => exact ⟨nofun, fun h => absurd h.1.symm h.2⟩
  | cons c rest =>
    rw [if_neg (by simp), Option.some.injEq, ← String.toList_inj, String.toList_ofList]
    exact ⟨fun h => ⟨h, h ▸ List.cons_ne_nil c rest⟩, And.left⟩

/-- None is asked for if nothing is left. -/
theorem target?_eq_none_iff {argument : String} :
    target? argument = none ↔ skipOptions (trimStart argument.toList) = [] := by
  rw [target?]
  split
  · next hempty => simpa using hempty
  · next hempty => simpa using hempty

/-- A text that could be left is left as it is. -/
theorem skipOptions_of_isTarget {s : List Char} (h : IsTarget s) : skipOptions (trimStart s) = s := by
  rw [h.2.1, skipOptions_of_head?_ne h.2.2]

/-- **An argument asks for a directory** just if it is options and then that directory, which begins as no option. -/
theorem target?_eq_some_iff_exists {argument target : String} :
    target? argument = some target ↔
      ∃ skipped, OptionsOnly skipped ∧ IsTarget target.toList ∧ argument.toList = skipped ++ target.toList := by
  rw [target?_eq_some_iff]
  constructor
  · rintro ⟨hleft, hne⟩
    obtain ⟨skipped, hskipped, hsplit⟩ := exists_skipped (trimStart_trimStart argument.toList) (hleft ▸ hne)
    obtain ⟨htrim, hhead⟩ := head?_skipOptions (trimStart_trimStart argument.toList)
    rw [hleft] at hsplit htrim hhead
    -- the white space in front of the whole argument belongs to what is skipped
    have hgap : OptionsOnly (argument.toList.takeWhile isBlank) := .of_blank fun c hc => List.mem_takeWhile_imp hc
    refine ⟨argument.toList.takeWhile isBlank ++ skipped, hgap.append hskipped, ⟨hne, htrim, hhead⟩, ?_⟩
    rw [List.append_assoc, ← hsplit]
    exact List.takeWhile_append_dropWhile.symm
  · rintro ⟨skipped, hskipped, htarget, hsplit⟩
    rw [hsplit, skipOptions_append hskipped, skipOptions_of_isTarget htarget]
    exact ⟨rfl, htarget.1⟩

/-- An argument asks for no directory just if all its words are options. -/
theorem target?_eq_none_iff_forall {argument : String} :
    target? argument = none ↔ ∀ word ∈ words argument.toList, isOption word = true := by
  have hwords : words (skipOptions (trimStart argument.toList)) = (words argument.toList).dropWhile isOption := by
    rw [words_skipOptions (trimStart_trimStart _), words_trimStart]
  rw [target?_eq_none_iff, ← List.dropWhile_eq_nil_iff, ← hwords]
  constructor
  · rintro h
    rw [h]
    rfl
  · intro h
    by_contra hne
    rw [words_of_trimStart (head?_skipOptions (trimStart_trimStart _)).1 hne] at h
    cases h

/--
**The directory that an argument asks for.** It is found in one pass for each option in front of the first other word.
It is the end of the argument from that word on, as it is, and if there is no other word the argument asks for none. So
options that are put in front of an argument make no difference, and a directory that was found is found in itself.
-/
theorem target_laws (argument : String) :
    (∃ rest, Passes ((words argument.toList).takeWhile isOption).length (trimStart argument.toList) rest ∧
        target? argument = if rest = [] then none else some (String.ofList rest)) ∧
      (∀ target, target? argument = some target ↔
        ∃ skipped, OptionsOnly skipped ∧ IsTarget target.toList ∧ argument.toList = skipped ++ target.toList) ∧
      (∀ target, target? argument = some target →
        words target.toList = (words argument.toList).dropWhile isOption) ∧
      (target? argument = none ↔ ∀ word ∈ words argument.toList, isOption word = true) ∧
      (∀ options : String, OptionsOnly options.toList → target? (options ++ argument) = target? argument) ∧
      ∀ target, target? argument = some target → target? target = some target := by
  refine ⟨⟨skipOptions (trimStart argument.toList), ?_, ?_⟩, fun target => target?_eq_some_iff_exists, ?_,
    target?_eq_none_iff_forall, ?_, ?_⟩
  · rw [← words_trimStart]
    exact passes_skipOptions (trimStart_trimStart _)
  · simp [target?]
  · intro target h
    rw [← (target?_eq_some_iff.1 h).1, words_skipOptions (trimStart_trimStart _), words_trimStart]
  · intro options h
    rw [target?, String.toList_append, skipOptions_append h]
    rfl
  · intro target h
    obtain ⟨-, -, htarget, -⟩ := target?_eq_some_iff_exists.1 h
    exact target?_eq_some_iff.2 ⟨skipOptions_of_isTarget htarget, htarget.1⟩

/-- A hyphen by itself is an option, and what follows the directory is part of it, even if it looks like one. -/
theorem target_laws_of_hyphen :
    OptionsOnly "-la\u00a0--\t ".toList ∧ target? "- my dir  -x " = some "my dir  -x " ∧
      target? ("-la\u00a0--\t " ++ "- my dir  -x ") = target? "- my dir  -x " ∧
      target? "my dir  -x " = some "my dir  -x " ∧ target? "-l -" = none := by
  have hoption : ∀ (word : String) {b : Char} {s : List Char}, isOption word.toList = true →
      word.toList.any isBlank = false → isBlank b = true → OptionsOnly s → OptionsOnly (word.toList ++ b :: s) :=
    fun _ _ _ hhyphen hword hb hs =>
      .option hhyphen (fun c hc => Bool.eq_false_iff.2 (List.any_eq_false.1 hword c hc)) hb hs
  have hoptions : OptionsOnly "-la\u00a0--\t ".toList :=
    hoption "-la" rfl rfl rfl (hoption "--" rfl rfl rfl (.blank rfl .nil))
  have hfound : target? "- my dir  -x " = some "my dir  -x " :=
    ((target_laws "- my dir  -x ").2.1 _).2 ⟨['-', ' '], hoption "-" rfl rfl rfl .nil, by decide, by simp⟩
  refine ⟨hoptions, hfound, (target_laws _).2.2.2.2.1 _ hoptions, (target_laws _).2.2.2.2.2 _ hfound, ?_⟩
  exact (target_laws "-l -").2.2.2.1.2 (by decide)

end Listing

end FtpIntake
