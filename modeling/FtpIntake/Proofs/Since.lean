import Mathlib.Data.List.Induction

/-!
# What has held since

A history decides what is the case now by its last event of some kind: something was brought about, and nothing since
then has undone it. One more event is enough to tell whether that still holds, so it can be kept along a run.

Two uses of it are a path that was made and has been spared, and a channel that was negotiated and has been kept.
-/

namespace FtpIntake

variable {α : Type}

/-- Some event has brought it about, and every event since then has let it be. -/
def Since (brings spares : α → Prop) (events : List α) : Prop :=
  ∃ earlier e later, events = earlier ++ e :: later ∧ brings e ∧ ∀ e' ∈ later, spares e'

variable {brings spares : α → Prop}

theorem not_since_nil : ¬Since brings spares [] := by
  rintro ⟨earlier, e, later, heq, -⟩
  simp at heq

/-- The last event has brought it about, or it held before and the last event has let it be. -/
theorem since_append_singleton {events : List α} {e : α} :
    Since brings spares (events ++ [e]) ↔ brings e ∨ (Since brings spares events ∧ spares e) := by
  constructor
  · rintro ⟨earlier, first, later, heq, hbrings, hspares⟩
    cases later using List.reverseRecOn with
    | nil =>
      -- it was brought about by the last event
      obtain ⟨-, hlast⟩ := List.append_inj' heq rfl
      rw [(List.cons.inj hlast).1]
      exact .inl hbrings
    | append_singleton later last =>
      have hsplit : events ++ [e] = (earlier ++ first :: later) ++ [last] := by
        rw [heq, List.append_assoc, List.cons_append]
      obtain ⟨hevents, hlast⟩ := List.append_inj' hsplit rfl
      obtain ⟨hlater, hlastSpares⟩ := List.forall_mem_append.1 hspares
      rw [(List.cons.inj hlast).1]
      exact .inr ⟨⟨earlier, first, later, hevents, hbrings, hlater⟩, hlastSpares last List.mem_cons_self⟩
  · rintro (hbrings | ⟨⟨earlier, first, later, rfl, hbrings, hspares⟩, hlast⟩)
    · exact ⟨events, e, [], rfl, hbrings, nofun⟩
    · refine ⟨earlier, first, later ++ [e], by simp, hbrings, ?_⟩
      exact List.forall_mem_append.2 ⟨hspares, List.forall_mem_singleton.2 hlast⟩

end FtpIntake
