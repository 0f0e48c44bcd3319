import FtpIntake.Log
import FtpIntake.Proofs.Text.Case
import FtpIntake.Proofs.Text.Trim

/-!
# What the log shows of a password

A command line is taken apart twice, once to be executed and once to be logged. The two ways agree on a line that begins
with its verb. On a line that begins with white space they do not: there the log sees no verb in front of the first
blank, and shows everything.

* **`Request.beforeArgument`** is the part of a line that may be known. `dropLineEnd_eq_append` says that the argument
  comes next.
* **`LogRecord.executed_eq_iff`** is the exact condition on which two `PASS` lines that differ in the password leave the
  same record.

The login itself is not concerned: in both cases the same request is executed. What differs is the text that is
written to the log, which shows the password where the line begins with white space.
-/

namespace FtpIntake

open Text

namespace Request

/-- The text of a command line in front of its argument: white space, the verb, and white space again. -/
def beforeArgument (line : List Char) : List Char :=
  let text := trimStart (dropLineEnd line)
  (dropLineEnd line).takeWhile isBlank ++ firstWord text ++ (text.dropWhile fun c => !isBlank c).takeWhile isBlank

/-- A line is the text in front of its argument, the argument, and white space. -/
theorem dropLineEnd_eq_append {line argument : List Char} (h : argumentOf line = some argument) :
    ∃ after, (∀ c ∈ after, isBlank c = true) ∧ dropLineEnd line = beforeArgument line ++ argument ++ after := by
  unfold argumentOf at h
  obtain ⟨rest, hrest, hargument⟩ := Option.bind_eq_some_iff.1 h
  obtain ⟨b, hb, htext⟩ := firstWord_append hrest
  obtain rfl : trim rest = argument := by
    split at hargument
    · exact absurd hargument (by simp)
    · exact Option.some.inj hargument
  obtain ⟨after, hafter, hsplit⟩ := dropEndWhile_append isBlank (trimStart rest)
  refine ⟨after, hafter, ?_⟩
  have hdrop : (trimStart (dropLineEnd line)).dropWhile (fun c => !isBlank c) = b :: rest :=
    List.append_cancel_left (List.takeWhile_append_dropWhile.trans htext)
  calc dropLineEnd line
      = (dropLineEnd line).takeWhile isBlank ++ trimStart (dropLineEnd line) :=
        List.takeWhile_append_dropWhile.symm
    _ = (dropLineEnd line).takeWhile isBlank ++ (firstWord (trimStart (dropLineEnd line)) ++ b :: rest) := by
        rw [← htext]
    _ = beforeArgument line ++ trimStart rest := by
        -- the blank that ends the verb and those after it are in front of the argument
        rw [beforeArgument, hdrop, List.takeWhile_cons_of_pos hb, List.append_assoc, List.append_assoc]
        show _ = _ ++ (_ ++ b :: (rest.takeWhile isBlank ++ rest.dropWhile isBlank))
        rw [List.takeWhile_append_dropWhile]
    _ = beforeArgument line ++ trim rest ++ after := by
        rw [List.append_assoc]
        exact congrArg _ hsplit

/-- Whether a line begins with white space. -/
def isIndented (line : List Char) : Bool :=
  line.head?.any isBlank

/-- A line that is not empty keeps its first character when its end is dropped. -/
theorem head?_of_dropLineEnd_eq_cons {line rest : List Char} {c : Char} (h : dropLineEnd line = c :: rest) :
    line.head? = some c := by
  obtain ⟨dropped, -, hsplit⟩ := dropEndWhile_append isLineEnd line
  rw [show dropEndWhile isLineEnd line = c :: rest from h] at hsplit
  rw [hsplit]
  rfl

/-- A line that begins with its verb is taken apart without looking at white space first. -/
theorem trimStart_of_not_isIndented {line : List Char} (h : isIndented line = false) :
    trimStart (dropLineEnd line) = dropLineEnd line := by
  cases htext : dropLineEnd line with
  | nil => rfl
  | cons c rest =>
    rw [isIndented, head?_of_dropLineEnd_eq_cons htext] at h
    exact List.dropWhile_cons_of_neg (by simpa using h)

/-- A text that is cut off after the blanks behind its first word has the same first word, and a blank if it had one. -/
theorem firstWord_cut (s : List Char) :
    firstWord (firstWord s ++ (s.dropWhile fun c => !isBlank c).takeWhile isBlank) = firstWord s ∧
      (afterFirstBlank (firstWord s ++ (s.dropWhile fun c => !isBlank c).takeWhile isBlank)).isSome =
        (afterFirstBlank s).isSome := by
  induction s with
  | nil => exact ⟨rfl, rfl⟩
  | cons c s ih =>
    by_cases hc : isBlank c = true
    · simp [firstWord, afterFirstBlank, hc]
    · simp only [firstWord, afterFirstBlank] at ih
      simpa [firstWord, afterFirstBlank, hc] using ih

/-- A line that begins with its verb has nothing but the verb and the blanks behind it in front of the argument. -/
theorem beforeArgument_of_not_isIndented {line : List Char} (h : isIndented line = false) :
    beforeArgument line =
      firstWord (dropLineEnd line) ++ ((dropLineEnd line).dropWhile fun c => !isBlank c).takeWhile isBlank := by
  have htrim := trimStart_of_not_isIndented h
  have hsplit : (dropLineEnd line).takeWhile isBlank ++ dropLineEnd line = dropLineEnd line :=
    calc (dropLineEnd line).takeWhile isBlank ++ dropLineEnd line
        = (dropLineEnd line).takeWhile isBlank ++ trimStart (dropLineEnd line) := by rw [htrim]
      _ = dropLineEnd line := List.takeWhile_append_dropWhile
  have hnone : (dropLineEnd line).takeWhile isBlank = [] := List.self_eq_append_left.1 hsplit.symm
  rw [beforeArgument, htrim, hnone, List.nil_append]

/-- What is in front of the argument tells whether the line begins with white space. -/
theorem isIndented_beforeArgument {line : List Char} (hverb : verbOf line ≠ []) :
    isIndented (beforeArgument line) = isIndented line := by
  cases htext : dropLineEnd line with
  | nil => exact absurd (by rw [verbOf, htext]; rfl) hverb
  | cons c rest =>
    have hhead : line.head? = some c := head?_of_dropLineEnd_eq_cons htext
    -- what may be known begins as the line does, with its blanks or with its verb
    by_cases hc : isBlank c = true
    · have hbefore : (beforeArgument line).head? = some c := by
        rw [beforeArgument, htext, List.takeWhile_cons_of_pos hc]
        rfl
      rw [isIndented, isIndented, hhead, hbefore]
    · have hout : isIndented line = false := by
        rw [isIndented, hhead]
        simpa using hc
      have hbefore : (beforeArgument line).head? = some c := by
        rw [beforeArgument_of_not_isIndented hout, htext, firstWord, List.takeWhile_cons_of_pos (by simpa using hc)]
        rfl
      rw [isIndented, isIndented, hhead, hbefore]

end Request

namespace LogRecord

/-- The log and the execution mean the same by the word `PASS`. -/
theorem isPassWord_iff (word : List Char) : isPassWord word = true ↔ Request.upperCase word = "PASS".toList := by
  rw [isPassWord, beq_iff_eq, Request.upperCase]
  constructor
  · -- one comparison is made in small letters, the other in capitals
    intro h
    have hraise : (word.map Char.toLower).map Char.toUpper = word.map Char.toUpper := by
      rw [List.map_map]
      exact List.map_congr_left fun c _ => toUpper_toLower c
    rw [← hraise, h]
    rfl
  · intro h
    have hlower : (word.map Char.toUpper).map Char.toLower = word.map Char.toLower := by
      rw [List.map_map]
      exact List.map_congr_left fun c _ => toLower_toUpper c
    rw [← hlower, h]
    rfl

/-- A line that begins with white space is shown whole. -/
theorem redact_of_isIndented {line : List Char} (h : Request.isIndented line = true) :
    redact line = dropLineEnd line := by
  have hword : isPassWord (firstWord (dropLineEnd line)) = false := by
    cases htext : dropLineEnd line with
    | nil => rfl
    | cons c rest =>
      rw [Request.isIndented, Request.head?_of_dropLineEnd_eq_cons htext] at h
      rw [firstWord, List.takeWhile_cons_of_neg (by simpa using h)]
      rfl
  rw [redact, hword, Bool.and_false]
  rfl

/-- Of a `PASS` line that begins with its verb, the record shows nothing behind the blank after the verb. -/
theorem redact_of_not_isIndented {line : List Char} (h : Request.isIndented line = false)
    (hverb : Request.verbOf line = "PASS".toList) :
    redact line = firstWord (Request.beforeArgument line) ++
      if (afterFirstBlank (Request.beforeArgument line)).isSome then [' ', '*', '*', '*', '*'] else [] := by
  obtain ⟨hfirst, hsome⟩ := Request.firstWord_cut (dropLineEnd line)
  rw [← Request.beforeArgument_of_not_isIndented h] at hfirst hsome
  -- without blanks in front both ways of taking the line apart find the same first word
  have hword : isPassWord (firstWord (dropLineEnd line)) = true := by
    rw [Request.verbOf, Request.trimStart_of_not_isIndented h] at hverb
    exact (isPassWord_iff _).2 hverb
  rw [hfirst, hsome, redact, hword, Bool.and_true]
  cases hblank : afterFirstBlank (dropLineEnd line) with
  | some rest => rfl
  | none =>
    show dropLineEnd line = firstWord (dropLineEnd line) ++ []
    rw [firstWord_eq_self hblank, List.append_nil]

theorem executed_inj {client line line' : String} :
    executed client line = executed client line' ↔ redact line.toList = redact line'.toList := by
  unfold executed
  rw [LogRecord.mk.injEq, String.append_right_inj, String.ofList_inj]
  exact and_iff_right rfl

theorem verbOf_eq_of_verb_eq {line : String} (h : (Request.ofLine line).verb = "PASS") :
    Request.verbOf line.toList = "PASS".toList := by
  rw [← h]
  exact String.toList_ofList.symm

/--
**When the log keeps a password.** Two `PASS` lines that agree on everything in front of the password leave the same
record just if they begin with the verb, or do not differ at all but for their ends. So a line with white space in
front of the verb, which is executed like any other, shows its password in the log.
-/
theorem executed_eq_iff {line line' : String} (client : String) (hverb : (Request.ofLine line).verb = "PASS")
    (hverb' : (Request.ofLine line').verb = "PASS")
    (hbefore : Request.beforeArgument line.toList = Request.beforeArgument line'.toList) :
    executed client line = executed client line' ↔
      Request.isIndented line.toList = false ∨ dropLineEnd line.toList = dropLineEnd line'.toList := by
  have hpass := verbOf_eq_of_verb_eq hverb
  have hpass' := verbOf_eq_of_verb_eq hverb'
  have hboth : Request.isIndented line.toList = Request.isIndented line'.toList := by
    rw [← Request.isIndented_beforeArgument (by rw [hpass]; decide), hbefore,
      Request.isIndented_beforeArgument (by rw [hpass']; decide)]
  rw [executed_inj]
  cases hindented : Request.isIndented line.toList with
  | true =>
    -- both lines are shown whole
    rw [redact_of_isIndented hindented, redact_of_isIndented (hboth.symm.trans hindented)]
    exact (or_iff_right (by decide)).symm
  | false =>
    -- both records are made of what is in front of the argument
    refine iff_of_true ?_ (.inl rfl)
    rw [redact_of_not_isIndented hindented hpass, redact_of_not_isIndented (hboth.symm.trans hindented) hpass', hbefore]

/-- Two passwords behind a verb at the beginning of the line leave the same record. -/
theorem executed_eq_of_verb_first :
    executed "127.0.0.1:40000" "pass\tsecret\r\n" = executed "127.0.0.1:40000" "pass\tother\r\n" :=
  (executed_eq_iff "127.0.0.1:40000" (by decide) (by decide) (by decide)).2 (.inl (by decide))

/-- Two passwords behind a verb with a space in front of it do not. -/
theorem executed_ne_of_space_first :
    (Request.ofLine " PASS secret\r\n").verb = "PASS" ∧ (Request.ofLine " PASS other\r\n").verb = "PASS" ∧
      Request.beforeArgument " PASS secret\r\n".toList = Request.beforeArgument " PASS other\r\n".toList ∧
      executed "127.0.0.1:40000" " PASS secret\r\n" ≠ executed "127.0.0.1:40000" " PASS other\r\n" := by
  decide

end LogRecord

end FtpIntake
