import FtpIntake.Proofs.Pipeline.Memory
import FtpIntake.Proofs.Upload.Replay

/-!
# What an upload's step does to the pipeline in memory

A step makes at most one call, and each call changes the pipeline in its own way. What other uploads see of a step, and
what is true of the pipeline as a whole, is followed once for each call here and not once for each stage of an upload.
What the calls of a step are is known of any pipeline, so only what they do is left to be said of this one.

* **`Upload.Touches`** is what a step can do to the pipeline, with the work session that the upload has open before and
  after. `touches_step` says that there is nothing else.
* **`Touches.lookup_of_ne`** is the frame: an open work session of another upload stays as it is.
* **`Touches.committed_eq`**: nothing is published but by a commit.

The relation has one rule for each call and one for a step without any. An upload that has ended leaves nothing open,
so it falls under the latter.
-/

namespace FtpIntake

namespace Upload

/--
A step takes the work session that an upload has open from `before` to `after` and the pipeline from `m` to the last
argument, with at most one call. Only one of the rules is a commit.
-/
inductive Touches (m : Memory) : Option WorkId → Option CallRecord → Option WorkId → Memory → Prop where
  | opened : Touches m none (some ⟨.openWork, true⟩) (some m.worksOpened) m.openWork.2
  | created (work : WorkId) (unit : UnitId) :
      Touches m (some work) (some ⟨.createUnit unit, true⟩) (some work) (m.createUnit work).2
  | left (work : Option WorkId) : Touches m work none work m
  | changed (work : WorkId) (unit : UnitId) (change : FlowUnit → FlowUnit) (record : CallRecord)
      (hchange : ∀ f, (change f).id = f.id) (hrecord : record.call ≠ .commit) :
      Touches m (some work) (some record) (some work) (m.updateUnit work unit change).2
  | committed (work : WorkId) (succeeds : Bool) :
      Touches m (some work) (some ⟨.commit, succeeds⟩) none (m.commit work).2
  | rolledBack (work : WorkId) : Touches m (some work) (some ⟨.rollback, true⟩) none (m.rollback work)

variable {m m' : Memory} {before after : Option WorkId} {call : Option CallRecord}

theorem Touches.numbered (h : Touches m before call after m') (hm : m.Numbered) : m'.Numbered := by
  cases h with
  | opened => exact hm.openWork
  | created work unit => exact hm.createUnit work
  | left => exact hm
  | changed work unit change record hchange _ => exact hm.updateUnit work unit hchange
  | committed work succeeds => exact hm.commit work
  | rolledBack work => exact hm.rollback work

/-- A work session that was open before and is another upload's stays as it is. -/
theorem Touches.lookup_of_ne (h : Touches m before call after m') {w : WorkId} (hw : before ≠ some w)
    (hopened : w < m.worksOpened) : m'.openWorks.lookup w = m.openWorks.lookup w := by
  have hne {work : WorkId} (hwork : some work ≠ some w) : w ≠ work := fun heq => hwork (by rw [heq])
  cases h with
  -- a new work session takes a number that has not been given to anybody
  | opened => rw [Memory.lookup_openWork, if_neg (Nat.ne_of_lt hopened)]
  | created work unit => rw [Memory.lookup_createUnit, if_neg (hne hw)]
  | left => rfl
  | changed work unit change record _ _ => rw [Memory.lookup_updateUnit, if_neg (hne hw)]
  -- the commit publishes or fails; in both cases it ends the work session of the upload only
  | committed work succeeds =>
    rcases m.commit_eq work with ⟨fault, -, heq⟩ | ⟨-, heq⟩
    · rw [heq, Memory.lookup_drop, if_neg (hne hw)]
    · rw [heq]
      exact (Memory.lookup_drop m work w).trans (if_neg (hne hw))
  | rolledBack work => exact (Memory.lookup_drop m work w).trans (if_neg (hne hw))

/-- A step opens at most the next work session, which is then the upload's. -/
theorem Touches.worksOpened (h : Touches m before call after m') :
    m'.worksOpened = m.worksOpened ∧ (after = before ∨ after = none) ∨
    m'.worksOpened = m.worksOpened + 1 ∧ before = none ∧ after = some m.worksOpened := by
  cases h with
  | opened => exact .inr ⟨rfl, rfl, rfl⟩
  | created work unit => exact .inl ⟨rfl, .inl rfl⟩
  | left => exact .inl ⟨rfl, .inl rfl⟩
  -- numbers are given when a work session is opened, and by nothing else
  | changed work unit change record _ _ =>
    obtain ⟨openWorks, heq⟩ := m.updateUnit_snd work unit change
    exact .inl ⟨by rw [heq], .inl rfl⟩
  | committed work succeeds =>
    rcases m.commit_eq work with ⟨fault, -, heq⟩ | ⟨-, heq⟩
    · exact .inl ⟨by rw [heq]; rfl, .inr rfl⟩
    · exact .inl ⟨by rw [heq]; rfl, .inr rfl⟩
  | rolledBack work => exact .inl ⟨rfl, .inr rfl⟩

/-- Nothing is published but by a commit. -/
theorem Touches.committed_eq (h : Touches m before call after m') (hcall : ∀ record ∈ call, record.call ≠ .commit) :
    m'.committed = m.committed := by
  cases h with
  | opened => rfl
  | created work unit => rfl
  | left => rfl
  | changed work unit change record _ _ =>
    obtain ⟨openWorks, heq⟩ := m.updateUnit_snd work unit change
    rw [heq]
  | committed work succeeds => exact absurd rfl (hcall _ rfl)
  | rolledBack work => rfl

/-- What a call does to the pipeline in memory. The three calls that change a unit do so in one way. -/
theorem touches_of_answers {record : CallRecord} (h : Pipeline.Answers before m record after m') :
    Touches m before (some record) after m' := by
  cases h with
  | openWork => exact .opened
  | createUnit work => exact .created work _
  | write work unit bytes => exact .changed work unit (·.append bytes) _ (fun _ => rfl) (by simp)
  | putAttribute work unit key value => exact .changed work unit (·.setAttribute key value) _ (fun _ => rfl) (by simp)
  | transfer work unit relationship => exact .changed work unit (·.route relationship) _ (fun _ => rfl) (by simp)
  | commit work => exact .committed work _
  | rollback work => exact .rolledBack work

/-- **Everything a step can do to the pipeline.** A step without a call leaves it as it is. -/
theorem touches_step (u : Upload) (m : Memory) :
    Touches m u.stage.work? (u.step m).1 (u.step m).2.1.stage.work? (u.step m).2.2 := by
  rcases u.answers_step m with ⟨hnone, hwork, hstate⟩ | ⟨record, hrecord, hanswers⟩
  · rw [hnone, hwork, hstate]
    exact .left u.stage.work?
  · rw [hrecord]
    exact touches_of_answers hanswers

end Upload

end FtpIntake
