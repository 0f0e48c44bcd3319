import FtpIntake.Proofs.Text.Trim
import FtpIntake.Request

/-!
# Reading a command line

A command line is a verb and an argument with white space around them, and it is read as just these.

* **`Request.parts_append`** says so of any white space. The line end is part of what is behind the argument.
* **`Request.ofLine_line`** is the case of a line that was written for a request.
* **`Request.isTrimmed_of_argument`** goes the other way: no line at all has an argument with white space around it.
-/

namespace FtpIntake

open Text

namespace Request

/-- What is read of a text that begins with a word and a blank. -/
theorem firstWord_append_cons {verb : List Char} (hverb : ∀ c ∈ verb, isBlank c = false) {b : Char}
    (hb : isBlank b = true) (rest : List Char) :
    firstWord (verb ++ b :: rest) = verb ∧ afterFirstBlank (verb ++ b :: rest) = some rest := by
  have hword : ∀ c ∈ verb, (!isBlank c) = true := fun c hc => by rw [hverb c hc, Bool.not_false]
  constructor
  · rw [firstWord, List.takeWhile_append_of_pos hword, List.takeWhile_cons_of_neg (by simp [hb]), List.append_nil]
  · rw [afterFirstBlank, List.dropWhile_append_of_pos hword, List.dropWhile_cons_of_neg (by simp [hb])]
    rfl

/-- **A verb and an argument are found among any white space**, and the argument comes out as it is, with the white
space inside of it. -/
theorem parts_append {before verb between argument after : List Char} (hbefore : ∀ c ∈ before, isBlank c = true)
    (hverb : ∀ c ∈ verb, isBlank c = false) (hsome : verb ≠ []) (hbetween : ∀ c ∈ between, isBlank c = true)
    (hblank : between ≠ []) (hargument : IsTrimmed argument) (hnonempty : argument ≠ [])
    (hafter : ∀ c ∈ after, isBlank c = true) :
    verbOf (before ++ (verb ++ (between ++ (argument ++ after)))) = upperCase verb ∧
      argumentOf (before ++ (verb ++ (between ++ (argument ++ after)))) = some argument := by
  have hend : trimEnd (before ++ (verb ++ (between ++ argument))) = before ++ (verb ++ (between ++ argument)) := by
    simp only [← List.append_assoc]
    exact trimEnd_append hargument.2 hnonempty _
  have hstart : trimStart verb = verb := by
    cases verb with
    | nil => exact absurd rfl hsome
    | cons c rest => exact List.dropWhile_cons_of_neg (Bool.eq_false_iff.1 (hverb c List.mem_cons_self))
  obtain ⟨after', hafter', hdrop⟩ := exists_dropLineEnd_append hend hafter
  simp only [List.append_assoc] at hdrop
  -- without its end and the white space in front, the line begins with the verb and a blank
  have htext : trimStart (dropLineEnd (before ++ (verb ++ (between ++ (argument ++ after))))) =
      verb ++ (between ++ (argument ++ after')) := by
    rw [hdrop, trimStart, List.dropWhile_append_of_pos hbefore]
    exact trimStart_append hstart hsome _
  obtain ⟨b, rest, rfl⟩ := List.exists_cons_of_ne_nil hblank
  obtain ⟨hb, hrest⟩ := List.forall_mem_cons.1 hbetween
  obtain ⟨hword, hremaining⟩ := firstWord_append_cons hverb hb (rest ++ (argument ++ after'))
  have htrim : trim (rest ++ (argument ++ after')) = argument := trim_append hargument hnonempty hrest hafter'
  rw [verbOf, argumentOf, htext, List.cons_append, hword, hremaining, Option.bind_some, htrim]
  exact ⟨rfl, if_neg fun h => hnonempty (List.isEmpty_iff.1 h)⟩

/-- A request that was written as a line is read again. -/
theorem ofLine_line {verb argument : String} (hverb : verb.toList.any isBlank = false) (hsome : verb ≠ "")
    (hupper : upperCase verb.toList = verb.toList) (hargument : IsTrimmed argument.toList) (hnonempty : argument ≠ "") :
    ofLine (line ⟨verb, some argument⟩) = ⟨verb, some argument⟩ := by
  -- the line as white space, verb, white space, argument, white space; the first of these is empty
  have hline : (line ⟨verb, some argument⟩).toList =
      [] ++ (verb.toList ++ ([' '] ++ (argument.toList ++ ['\r', '\n']))) := by
    show (verb ++ " " ++ argument ++ "\r\n").toList = _
    simp only [String.toList_append, List.append_assoc]
    rfl
  have hword : ∀ c ∈ verb.toList, isBlank c = false := fun c hc => Bool.eq_false_iff.2 (List.any_eq_false.1 hverb c hc)
  have hspace : ∀ c ∈ [' '], isBlank c = true := List.all_eq_true.1 rfl
  have hlineEnd : ∀ c ∈ ['\r', '\n'], isBlank c = true := List.all_eq_true.1 rfl
  obtain ⟨hverbOf, hargumentOf⟩ := parts_append (List.forall_mem_nil _) hword (by simpa using hsome) hspace
    (List.cons_ne_nil _ _) hargument (by simpa using hnonempty) hlineEnd
  unfold ofLine
  rw [hline, hverbOf, hargumentOf, hupper, Option.map_some, String.ofList_toList, String.ofList_toList]

/-- White space around an argument is lost when it is written as a line and read again. -/
theorem ofLine_line_of_trim {verb argument : String} (hverb : verb.toList.any isBlank = false) (hsome : verb ≠ "")
    (hupper : upperCase verb.toList = verb.toList) (hnonempty : trim argument.toList ≠ []) :
    ofLine (line ⟨verb, some argument⟩) = ⟨verb, some (String.ofList (trim argument.toList))⟩ := by
  -- the argument is what is left of it after trimming, with white space before it and behind it
  let before := argument.toList.takeWhile isBlank
  obtain ⟨dropped, hdropped, hend⟩ := dropEndWhile_append isBlank (trimStart argument.toList)
  have hsplit : before ++ (trim argument.toList ++ dropped) = argument.toList :=
    (congrArg (before ++ ·) hend.symm).trans List.takeWhile_append_dropWhile
  have hline : (line ⟨verb, some argument⟩).toList =
      [] ++ (verb.toList ++ ((' ' :: before) ++ (trim argument.toList ++ (dropped ++ ['\r', '\n'])))) := by
    show (verb ++ " " ++ argument ++ "\r\n").toList = _
    rw [← List.append_assoc (trim argument.toList), List.cons_append, ← List.append_assoc before, hsplit]
    simp only [String.toList_append, List.append_assoc]
    rfl
  have hword : ∀ c ∈ verb.toList, isBlank c = false := fun c hc => Bool.eq_false_iff.2 (List.any_eq_false.1 hverb c hc)
  have hspace : ∀ c ∈ ' ' :: before, isBlank c = true :=
    List.forall_mem_cons.2 ⟨rfl, fun c hc => List.mem_takeWhile_imp hc⟩
  have hlineEnd : ∀ c ∈ dropped ++ ['\r', '\n'], isBlank c = true :=
    List.forall_mem_append.2 ⟨hdropped, List.all_eq_true.1 rfl⟩
  obtain ⟨hverbOf, hargumentOf⟩ := parts_append (List.forall_mem_nil _) hword (by simpa using hsome) hspace
    (List.cons_ne_nil _ _) (isTrimmed_trim _) hnonempty hlineEnd
  unfold ofLine
  rw [hline, hverbOf, hargumentOf, hupper, Option.map_some, String.ofList_toList]

/-- **An argument has no white space around it**, and there is something in it. -/
theorem isTrimmed_of_argument {text argument : String} (h : (ofLine text).argument = some argument) :
    IsTrimmed argument.toList ∧ argument ≠ "" := by
  obtain ⟨found, hfound, rfl⟩ := Option.map_eq_some_iff.1 h
  unfold argumentOf at hfound
  obtain ⟨rest, -, hrest⟩ := Option.bind_eq_some_iff.1 hfound
  -- what is nothing but white space is no argument
  split at hrest
  · exact absurd hrest (by simp)
  · next hnonempty =>
    obtain rfl := Option.some.inj hrest
    rw [String.toList_ofList]
    refine ⟨isTrimmed_trim rest, fun hempty => hnonempty ?_⟩
    rw [List.isEmpty_iff, ← String.toList_ofList (l := trim rest), hempty]
    rfl

end Request

end FtpIntake
