import FtpIntake.Pipeline.Memory
import Mathlib.Data.List.Basic

/-!
# The pipeline in memory, seen through its units

The open work sessions are a list of rows, of which only the first one of a work session can be found. What a call
does is said here by what can be found afterwards, one equation for each call, and the rows are not looked at again.

* **`lookup_openWork`**, **`lookup_createUnit`**, **`lookup_updateUnit`** and **`lookup_drop`** are these equations. A
  call of one work session leaves the units of all the others as they are.
* **`Memory.Numbered`** says that no unit number is in two places. Every call keeps it, because a new number is larger
  than all that have been given and a unit that is committed has left its work session.

A call that fails changes nothing, except that a commit always ends its work session. That is also why a commit and a
rollback are described together: both drop the rows of a work session, and only one of them keeps the units.
-/

namespace FtpIntake.Memory

/-! ## What can be found after a call

The open work sessions are rows of a list. Each operation is described by what a search for a row gives afterwards, so
that nothing else has to look at the list. -/

/-- A work session that has just been opened has no units, and the others have theirs. -/
theorem lookup_openWork (m : Memory) (w : WorkId) :
    m.openWork.2.openWorks.lookup w = if w = m.worksOpened then some [] else m.openWorks.lookup w := by
  show ((m.worksOpened, []) :: m.openWorks).lookup w = _
  rw [List.lookup_cons]
  by_cases h : w = m.worksOpened
  · simp [h]
  · rw [if_neg h, show (w == m.worksOpened) = false by simpa using h]

/-- Setting the units of a work session does nothing to one that is not open. -/
theorem lookup_setUnits (m : Memory) (work : WorkId) (units : List FlowUnit) (w : WorkId) :
    (m.setUnits work units).openWorks.lookup w =
      if w = work then (m.openWorks.lookup w).map fun _ => units else m.openWorks.lookup w := by
  show (m.openWorks.map fun row => if row.1 = work then (work, units) else row).lookup w = _
  induction m.openWorks with
  | nil => simp
  | cons row rows ih =>
    rw [List.map_cons, List.lookup_cons, List.lookup_cons]
    -- the key of the row stays what it was, so both sides find the same row
    by_cases hrow : row.1 = work
    · rw [if_pos hrow]
      by_cases hw : w = work
      · subst hw
        simp [hrow]
      · rw [if_neg hw] at ih ⊢
        have hkey : (w == work) = false := by simpa using hw
        rw [hrow, hkey]
        exact ih
    · rw [if_neg hrow]
      by_cases hkey : w = row.1
      · subst hkey
        simp [hrow]
      · rw [show (w == row.1) = false by simpa using hkey]
        exact ih

/-- A work session that has gone cannot be found, whatever rows it had. -/
theorem lookup_drop (m : Memory) (work w : WorkId) :
    (m.drop work).openWorks.lookup w = if w = work then none else m.openWorks.lookup w := by
  show (m.openWorks.filter fun row => row.1 != work).lookup w = _
  -- a row of this work session is dropped, any other one stays, and what is found is the first that stays
  induction m.openWorks with
  | nil => simp
  | cons row rows ih =>
    by_cases hrow : row.1 = work
    · rw [List.filter_cons_of_neg (by simpa using hrow), ih, List.lookup_cons]
      by_cases hw : w = work
      · rw [if_pos hw, if_pos hw]
      · rw [if_neg hw, if_neg hw, hrow, show (w == work) = false by simpa using hw]
    · rw [List.filter_cons_of_pos (by simpa using hrow), List.lookup_cons, List.lookup_cons, ih]
      by_cases hkey : w = row.1
      · subst hkey
        simp [hrow]
      · rw [show (w == row.1) = false by simpa using hkey]

/-- A new unit is the last one of its work session, and nobody else sees it. -/
theorem lookup_createUnit (m : Memory) (work w : WorkId) :
    (m.createUnit work).2.openWorks.lookup w =
      if w = work then (m.openWorks.lookup w).map (· ++ [{ id := m.lastUnit + 1 }]) else m.openWorks.lookup w := by
  show (m.setUnits work (m.unitsOf work ++ [{ id := m.lastUnit + 1 }])).openWorks.lookup w = _
  rw [lookup_setUnits]
  by_cases hw : w = work
  · subst hw
    rw [if_pos rfl, if_pos rfl, unitsOf]
    cases m.openWorks.lookup w <;> rfl
  · rw [if_neg hw, if_neg hw]

/-- A change succeeds just if the work session has a unit of the number; otherwise it changes nothing. -/
theorem updateUnit_cases (m : Memory) (work : WorkId) (unit : UnitId) (change : FlowUnit → FlowUnit) :
    ((∃ u ∈ m.unitsOf work, u.id = unit) ∧
      m.updateUnit work unit change =
        (.ok (), m.setUnits work ((m.unitsOf work).map fun u => if u.id = unit then change u else u))) ∨
    ((∀ u ∈ m.unitsOf work, u.id ≠ unit) ∧ m.updateUnit work unit change = (.error (.unknownUnit unit), m)) := by
  have hif : m.updateUnit work unit change =
      if (m.unitsOf work).any (·.id == unit) then
        (.ok (), m.setUnits work ((m.unitsOf work).map fun u => if u.id = unit then change u else u))
      else (.error (.unknownUnit unit), m) := rfl
  cases hany : (m.unitsOf work).any (·.id == unit) with
  | true => exact .inl ⟨by simpa using hany, by rw [hif, hany]; rfl⟩
  | false => exact .inr ⟨by simpa using hany, by rw [hif, hany]; rfl⟩

/-- A change reaches the units of its number in its own work session. -/
theorem lookup_updateUnit (m : Memory) (work : WorkId) (unit : UnitId) (change : FlowUnit → FlowUnit)
    (w : WorkId) :
    (m.updateUnit work unit change).2.openWorks.lookup w =
      if w = work then (m.openWorks.lookup w).map (List.map fun u => if u.id = unit then change u else u)
      else m.openWorks.lookup w := by
  rcases updateUnit_cases m work unit change with ⟨-, heq⟩ | ⟨hnone, heq⟩
  · rw [heq, lookup_setUnits]
    by_cases hw : w = work
    · subst hw
      rw [if_pos rfl, if_pos rfl, unitsOf]
      cases m.openWorks.lookup w <;> rfl
    · rw [if_neg hw, if_neg hw]
  · rw [heq]
    by_cases hw : w = work
    · subst hw
      rw [if_pos rfl]
      -- no unit has this number, so the change is made to none of them
      cases hunits : m.openWorks.lookup w with
      | none => rfl
      | some units =>
        rw [unitsOf, hunits] at hnone
        have hsame : units.map (fun u => if u.id = unit then change u else u) = units.map id :=
          List.map_congr_left fun u hu => if_neg (hnone u hu)
        rw [Option.map_some, hsame, List.map_id]
    · rw [if_neg hw]

/-- A change touches the units of the open work sessions and nothing else. -/
theorem updateUnit_snd (m : Memory) (work : WorkId) (unit : UnitId) (change : FlowUnit → FlowUnit) :
    ∃ openWorks, (m.updateUnit work unit change).2 = { m with openWorks } := by
  rcases updateUnit_cases m work unit change with ⟨-, heq⟩ | ⟨-, heq⟩
  · exact ⟨_, by rw [heq]; rfl⟩
  · exact ⟨_, by rw [heq]⟩

/-- The pipeline once a work session has ended and its units have been published. -/
def publish (m : Memory) (work : WorkId) : Memory :=
  { m.drop work with committed := m.committed ++ m.unitsOf work }

/-- A commit ends its work session in any case, and publishes the units unless one of them has no route. -/
theorem commit_eq (m : Memory) (work : WorkId) :
    (∃ fault, unroutedFault? (m.unitsOf work) = some fault ∧ m.commit work = (.error fault, m.drop work)) ∨
    (unroutedFault? (m.unitsOf work) = none ∧ m.commit work = (.ok (), m.publish work)) := by
  unfold commit
  cases h : unroutedFault? (m.unitsOf work) with
  | some fault => exact .inl ⟨fault, rfl, rfl⟩
  | none => exact .inr ⟨rfl, rfl⟩

/-! ## The numbers of the units

Where a unit is, is named by an `Option WorkId`: among the committed ones, or in a work session. All calls but two only
take units away from where they are, and `Numbered.of_sublist` does for them. -/

/-- The numbers of the units in a place: the committed ones, or those of a work session. -/
def unitIds (m : Memory) : Option WorkId → List UnitId
  | none => m.committed.map (·.id)
  | some work => (m.unitsOf work).map (·.id)

/-- No number has been given twice. -/
structure Numbered (m : Memory) : Prop where
  given : ∀ place, ∀ n ∈ m.unitIds place, n ≤ m.lastUnit
  apart : ∀ place place' n, n ∈ m.unitIds place → n ∈ m.unitIds place' → place = place'
  nodup : ∀ place, (m.unitIds place).Nodup

/-- A new pipeline has given no number. -/
theorem numbered_empty : Numbered {} := by
  have hnone : ∀ place, unitIds {} place = [] := by
    intro place
    cases place <;> rfl
  constructor <;> simp [hnone]

variable {m : Memory}

/-- Units that go away or keep their places do no harm. -/
theorem Numbered.of_sublist {m' : Memory} (h : m.Numbered)
    (hids : ∀ place, (m'.unitIds place).Sublist (m.unitIds place)) (hlast : m'.lastUnit = m.lastUnit) :
    m'.Numbered where
  given place n hn := hlast ▸ h.given place n ((hids place).subset hn)
  apart place place' n hn hn' := h.apart place place' n ((hids place).subset hn) ((hids place').subset hn')
  nodup place := (h.nodup place).sublist (hids place)

/-- A new work session has no units. -/
theorem Numbered.openWork (h : m.Numbered) : m.openWork.2.Numbered := by
  refine h.of_sublist (fun place => ?_) rfl
  cases place with
  | none => exact List.Sublist.refl _
  | some w =>
    rw [unitIds, unitIds, unitsOf, lookup_openWork, unitsOf]
    by_cases hw : w = m.worksOpened
    · rw [if_pos hw]
      exact List.nil_sublist _
    · rw [if_neg hw]

/-- A change of a unit keeps its number. -/
theorem Numbered.updateUnit (h : m.Numbered) (work : WorkId) (unit : UnitId) {change : FlowUnit → FlowUnit}
    (hchange : ∀ u, (change u).id = u.id) : (m.updateUnit work unit change).2.Numbered := by
  obtain ⟨openWorks, heq⟩ := m.updateUnit_snd work unit change
  refine h.of_sublist (fun place => ?_) (by rw [heq])
  have hid : ∀ u : FlowUnit, (if u.id = unit then change u else u).id = u.id := by
    intro u
    by_cases hu : u.id = unit
    · rw [if_pos hu, hchange]
    · rw [if_neg hu]
  -- every place has the same numbers as before
  suffices hsame : (m.updateUnit work unit change).2.unitIds place = m.unitIds place by rw [hsame]
  cases place with
  | none =>
    show (m.updateUnit work unit change).2.committed.map _ = _
    rw [heq]
    rfl
  | some w =>
    rw [unitIds, unitIds, unitsOf, lookup_updateUnit, unitsOf]
    by_cases hw : w = work
    · rw [if_pos hw]
      cases m.openWorks.lookup w with
      | none => rfl
      | some units =>
        show (units.map _).map _ = units.map _
        rw [List.map_map]
        exact List.map_congr_left fun u _ => hid u
    · rw [if_neg hw]

/-- A work session that has gone has no units any more. -/
theorem unitsOf_drop (work w : WorkId) : (m.drop work).unitsOf w = if w = work then [] else m.unitsOf w := by
  rw [unitsOf, lookup_drop, unitsOf]
  by_cases hw : w = work
  · rw [if_pos hw, if_pos hw]
    rfl
  · rw [if_neg hw, if_neg hw]

/-- So its going away leaves the numbers of the others as they are. -/
theorem Numbered.drop (h : m.Numbered) (work : WorkId) : (m.drop work).Numbered := by
  refine h.of_sublist (fun place => ?_) rfl
  cases place with
  | none => exact List.Sublist.refl _
  | some w =>
    rw [unitIds, unitIds, unitsOf_drop]
    by_cases hw : w = work
    · rw [if_pos hw]
      exact List.nil_sublist _
    · rw [if_neg hw]

theorem Numbered.rollback (h : m.Numbered) (work : WorkId) : (m.rollback work).Numbered :=
  (h.drop work).of_sublist (fun place => by cases place <;> exact List.Sublist.refl _) rfl

/-- The only new number is the one after the last, and it is in the work session that has asked for it. -/
theorem mem_unitIds_createUnit (work : WorkId) {place : Option WorkId} {n : UnitId}
    (hn : n ∈ (m.createUnit work).2.unitIds place) :
    n ∈ m.unitIds place ∨ (n = m.lastUnit + 1 ∧ place = some work) := by
  cases place with
  | none => exact .inl hn
  | some w =>
    rw [unitIds, unitsOf, lookup_createUnit] at hn
    rw [unitIds, unitsOf]
    by_cases hw : w = work
    · rw [if_pos hw] at hn
      cases hunits : m.openWorks.lookup w with
      | none => rw [hunits] at hn; exact .inl hn
      | some units =>
        rw [hunits, Option.map_some, Option.getD_some, List.map_append] at hn
        rcases List.mem_append.1 hn with hn | hn
        · exact .inl hn
        · exact .inr ⟨List.mem_singleton.1 hn, by rw [hw]⟩
    · rw [if_neg hw] at hn
      exact .inl hn

/-- The number that a unit is created with is larger than all that have been given. -/
theorem Numbered.createUnit (h : m.Numbered) (work : WorkId) : (m.createUnit work).2.Numbered where
  given place n hn := by
    show n ≤ m.lastUnit + 1
    rcases mem_unitIds_createUnit work hn with hn | ⟨rfl, -⟩
    · exact Nat.le_succ_of_le (h.given place n hn)
    · exact Nat.le_refl _
  apart place place' n hn hn' := by
    -- the new number is above all others, so it is in no other place
    rcases mem_unitIds_createUnit work hn with hn | ⟨hnew, rfl⟩ <;>
      rcases mem_unitIds_createUnit work hn' with hn' | ⟨hnew', rfl⟩
    · exact h.apart place place' n hn hn'
    · exact absurd (h.given place n hn) (by rw [hnew']; exact Nat.not_succ_le_self _)
    · exact absurd (h.given place' n hn') (by rw [hnew]; exact Nat.not_succ_le_self _)
    · rfl
  nodup place := by
    cases place with
    | none => exact h.nodup none
    | some w =>
      have hnodup := h.nodup (some w)
      have hgiven := h.given (some w)
      rw [unitIds, unitsOf] at hnodup hgiven
      rw [unitIds, unitsOf, lookup_createUnit]
      by_cases hw : w = work
      · rw [if_pos hw]
        cases hunits : m.openWorks.lookup w with
        | none => exact List.nodup_nil
        | some units =>
          rw [hunits] at hnodup hgiven
          rw [Option.map_some, Option.getD_some, List.map_append]
          refine List.nodup_append.2 ⟨hnodup, List.pairwise_singleton _ _, fun a ha b hb hab => ?_⟩
          have hnew : b = m.lastUnit + 1 := List.mem_singleton.1 hb
          exact Nat.not_succ_le_self _ (hnew ▸ hab ▸ hgiven a ha)
      · rw [if_neg hw]
        exact hnodup

/-- A commit adds the units of its work session to those that are published. -/
theorem unitIds_publish_none (work : WorkId) :
    (m.publish work).unitIds none = m.unitIds none ++ m.unitIds (some work) :=
  List.map_append

/-- Then that work session has none, and all others have theirs. -/
theorem unitIds_publish_some (work w : WorkId) :
    (m.publish work).unitIds (some w) = if w = work then [] else m.unitIds (some w) := by
  show ((m.drop work).unitsOf w).map _ = _
  rw [unitsOf_drop]
  by_cases hw : w = work
  · rw [if_pos hw, if_pos hw]
    rfl
  · rw [if_neg hw, if_neg hw]
    rfl

/-- A unit is where it was, or it has come from the work session to the committed ones. -/
theorem mem_unitIds_publish (work : WorkId) {place : Option WorkId} {n : UnitId}
    (hn : n ∈ (m.publish work).unitIds place) :
    (n ∈ m.unitIds place ∧ place ≠ some work) ∨ (place = none ∧ n ∈ m.unitIds (some work)) := by
  cases place with
  | none =>
    rw [unitIds_publish_none] at hn
    rcases List.mem_append.1 hn with hn | hn
    · exact .inl ⟨hn, by simp⟩
    · exact .inr ⟨rfl, hn⟩
  | some w =>
    rw [unitIds_publish_some] at hn
    by_cases hw : w = work
    · rw [if_pos hw] at hn
      exact absurd hn List.not_mem_nil
    · rw [if_neg hw] at hn
      exact .inl ⟨hn, fun hsome => hw (Option.some.inj hsome)⟩

/-- A commit moves units from one place to another. -/
theorem Numbered.publish (h : m.Numbered) (work : WorkId) : (m.publish work).Numbered where
  given place n hn := by
    rcases mem_unitIds_publish work hn with ⟨hwas, -⟩ | ⟨-, hwas⟩
    · exact h.given place n hwas
    · exact h.given (some work) n hwas
  apart place place' n hn hn' := by
    -- what was in the work session has left it, so it is not seen there as well
    rcases mem_unitIds_publish work hn with ⟨hwas, hplace⟩ | ⟨rfl, hwas⟩ <;>
      rcases mem_unitIds_publish work hn' with ⟨hwas', hplace'⟩ | ⟨rfl, hwas'⟩
    · exact h.apart place place' n hwas hwas'
    · exact absurd (h.apart place (some work) n hwas hwas') hplace
    · exact absurd (h.apart place' (some work) n hwas' hwas) hplace'
    · rfl
  nodup place := by
    cases place with
    | none =>
      rw [unitIds_publish_none]
      refine List.nodup_append.2 ⟨h.nodup none, h.nodup (some work), fun a ha b hb hab => ?_⟩
      have hboth : none = some work := h.apart none (some work) a ha (hab ▸ hb)
      simp at hboth
    | some w =>
      rw [unitIds_publish_some]
      by_cases hw : w = work
      · rw [if_pos hw]
        exact List.nodup_nil
      · rw [if_neg hw]
        exact h.nodup (some w)

/-- Whether it succeeds or fails. -/
theorem Numbered.commit (h : m.Numbered) (work : WorkId) : (m.commit work).2.Numbered := by
  rcases m.commit_eq work with ⟨fault, -, heq⟩ | ⟨-, heq⟩
  · rw [heq]
    exact h.drop work
  · rw [heq]
    exact h.publish work

end FtpIntake.Memory
