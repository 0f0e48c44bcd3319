import FtpIntake.Command
import FtpIntake.Proofs.Text.Case

/-!
# Finding the command of a request

The verb of a request is in upper case already, so the table finds it as it is. A command that the table has under
one verb only is then the same thing as that verb. Both spellings are needed: what a request does is decided by its
command, and what a client has sent is told by verbs.

The five commands that make, remove, enter, leave and print directories have two verbs each. For these a verb decides
the command and not the other way round.
-/

namespace FtpIntake

namespace Request

/-- Raising twice is raising once. -/
@[simp] theorem upperCase_upperCase (s : List Char) : upperCase (upperCase s) = upperCase s := by
  rw [upperCase, upperCase, List.map_map]
  exact List.map_congr_left fun c _ => Text.toUpper_toUpper c

/-- The verb of a request is in upper case. -/
theorem upperCase_verb (line : String) :
    String.ofList (upperCase (ofLine line).verb.toList) = (ofLine line).verb := by
  show String.ofList (upperCase (String.ofList (verbOf line.toList)).toList) = String.ofList (verbOf line.toList)
  rw [String.toList_ofList, verbOf, upperCase_upperCase]

end Request

namespace Command

/-- So it is looked up in the table as it stands. -/
theorem ofVerb?_ofLine (line : String) :
    ofVerb? (Request.ofLine line).verb = table.lookup (Request.ofLine line).verb := by
  rw [ofVerb?, Request.upperCase_verb]

/-- What is found is a row of the table. -/
theorem mem_table_of_ofVerb? {line : String} {command : Command}
    (h : ofVerb? (Request.ofLine line).verb = some command) : ((Request.ofLine line).verb, command) ∈ table := by
  rw [ofVerb?_ofLine, List.lookup_eq_some_iff] at h
  obtain ⟨before, after, htable, -⟩ := h
  rw [htable]
  exact List.mem_append_right _ List.mem_cons_self

/-- A command that only one verb stands for is found just by that verb. -/
theorem ofVerb?_eq_some_iff {verb : String} {command : Command} (hlookup : table.lookup verb = some command)
    (honly : ∀ row ∈ table, row.2 = command → row.1 = verb) (line : String) :
    ofVerb? (Request.ofLine line).verb = some command ↔ (Request.ofLine line).verb = verb := by
  constructor
  · intro h
    exact honly _ (mem_table_of_ofVerb? h) rfl
  · intro h
    rw [ofVerb?_ofLine, h]
    exact hlookup

/-- A kind of command is found just by the verbs that stand for one. -/
theorem any_ofVerb?_iff (kind : Command → Bool) {verbs : List String}
    (honly : ∀ row ∈ table, kind row.2 = true → row.1 ∈ verbs)
    (hlookup : ∀ verb ∈ verbs, (table.lookup verb).any kind = true) (line : String) :
    (ofVerb? (Request.ofLine line).verb).any kind = true ↔ (Request.ofLine line).verb ∈ verbs := by
  constructor
  · intro h
    obtain ⟨command, hcommand, hkind⟩ := (Option.any_eq_true _ _).1 h
    exact honly _ (mem_table_of_ofVerb? hcommand) hkind
  · intro h
    rw [ofVerb?_ofLine]
    exact hlookup _ h

theorem ofVerb?_eq_user_iff (line : String) :
    ofVerb? (Request.ofLine line).verb = some (.control .user) ↔ (Request.ofLine line).verb = "USER" :=
  ofVerb?_eq_some_iff (by decide) (by decide) line

theorem ofVerb?_eq_pass_iff (line : String) :
    ofVerb? (Request.ofLine line).verb = some (.control .pass) ↔ (Request.ofLine line).verb = "PASS" :=
  ofVerb?_eq_some_iff (by decide) (by decide) line

theorem ofVerb?_eq_quit_iff (line : String) :
    ofVerb? (Request.ofLine line).verb = some (.control .quit) ↔ (Request.ofLine line).verb = "QUIT" :=
  ofVerb?_eq_some_iff (by decide) (by decide) line

theorem ofVerb?_eq_abor_iff (line : String) :
    ofVerb? (Request.ofLine line).verb = some (.control .abor) ↔ (Request.ofLine line).verb = "ABOR" :=
  ofVerb?_eq_some_iff (by decide) (by decide) line

end Command

end FtpIntake
