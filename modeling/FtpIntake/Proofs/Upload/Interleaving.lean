import FtpIntake.Proofs.Upload.Carried
import FtpIntake.Proofs.Upload.Transcript
import Mathlib.Data.List.Forall2

/-!
# Many uploads on one pipeline

Any number of uploads share the pipeline in memory and take their steps in any order. An order is a list of indices:
each entry is a step of the upload that it names, so that every moment of every interleaving is `Traffic.run` at some
order.

That no upload disturbs another one has two halves. An upload touches only the work session that it has opened itself,
which is what `Touches` says of each step; and no two uploads have the same work session, because the pipeline gives a
new number to each. The order of the commits is the order in which the units are published, so the uploads that have
committed can be told by their places in the list.

* **`Traffic.Sound`** is what holds at every moment: each upload is carried by the pipeline, no two have the same work
  session, and what is committed was delivered by the uploads whose commit is among the calls, in the order of these
  calls. `Sound.step` keeps it over one step of any upload.
* **`Traffic.committed_run`** reads the result off.
-/

namespace FtpIntake

open Upload

/-- Uploads on one pipeline, with the calls they have made so far, in order, each with the index of its upload. -/
structure Traffic where
  memory : Memory := {}
  uploads : List Upload
  calls : List (Nat × CallRecord) := []

namespace Traffic

/-- The upload with the index takes a step; an index without an upload changes nothing. -/
def step (t : Traffic) (i : Nat) : Traffic :=
  match t.uploads[i]? with
  | none => t
  | some u =>
    let (call, u, memory) := u.step t.memory
    { memory, uploads := t.uploads.set i u, calls := t.calls ++ call.toList.map (i, ·) }

/-- Uploads that begin on an empty pipeline and take steps in the given order. -/
def run (arrivals : List Incoming) (order : List Nat) : Traffic :=
  order.foldl step { uploads := arrivals.map Incoming.upload }

/-- The uploads that have taken their commit step, in the order of these steps. -/
def committers (t : Traffic) : List Nat :=
  (t.calls.filter fun made => made.2.call = .commit).map (·.1)

/-! ## What holds at every moment

Each upload has a unit of its own in the pipeline, which it alone changes, and a list tells who has committed, in the
order of the commits. The invariant says what is in the units, where in the list the uploads stand, and what is
counted. -/

/-- What holds of the traffic at every moment. -/
structure Sound (arrivals : List Incoming) (t : Traffic) : Prop where
  length : t.uploads.length = arrivals.length
  carried : ∀ i a u, arrivals[i]? = some a → t.uploads[i]? = some u → Carried a t.memory (i ∈ t.committers) u
  opened : ∀ (i : Nat) (u : Upload) w, t.uploads[i]? = some u → u.stage.work? = some w → w < t.memory.worksOpened
  apart : ∀ (i j : Nat) (u v : Upload) w, t.uploads[i]? = some u → t.uploads[j]? = some v →
    u.stage.work? = some w → v.stage.work? = some w → i = j
  numbered : t.memory.Numbered
  accepted : ∀ made ∈ t.calls, made.2.succeeded = true
  delivered : List.Forall₂ (fun f i => ∃ a, arrivals[i]? = some a ∧ a.Delivers f) t.memory.committed t.committers
  once : t.committers.Nodup

variable {arrivals : List Incoming} {t : Traffic}

/-- Before any step nothing is carried and nothing is committed. -/
theorem sound_init (arrivals : List Incoming) : Sound arrivals { uploads := arrivals.map Incoming.upload } where
  length := List.length_map _
  carried i a u ha hu := by
    rw [List.getElem?_map, ha] at hu
    obtain rfl := Option.some.inj hu
    simpa [committers] using carried_upload a {}
  opened i u w hu hw := by
    obtain ⟨a, -, rfl⟩ := List.mem_map.1 (List.mem_of_getElem? hu)
    exact absurd hw (by simp [Incoming.upload, UploadStage.work?])
  apart i j u v w hu _ hw _ := by
    obtain ⟨a, -, rfl⟩ := List.mem_map.1 (List.mem_of_getElem? hu)
    exact absurd hw (by simp [Incoming.upload, UploadStage.work?])
  numbered := Memory.numbered_empty
  accepted made hmade := absurd hmade List.not_mem_nil
  delivered := .nil
  once := List.nodup_nil

/-! ## One step of any upload

The step is one of a single upload, for which `Upload.Carried` says everything. To the other uploads it does nothing,
since it touches neither their work sessions nor their units. -/

theorem step_of_getElem?_eq_some {i : Nat} {u : Upload} (hu : t.uploads[i]? = some u) :
    t.step i = { memory := (u.step t.memory).2.2, uploads := t.uploads.set i (u.step t.memory).2.1,
                 calls := t.calls ++ (u.step t.memory).1.toList.map (i, ·) } := by
  unfold step
  rw [hu]

theorem step_of_getElem?_eq_none {i : Nat} (hu : t.uploads[i]? = none) : t.step i = t := by
  unfold step
  rw [hu]

/-- A step changes the upload that it is of, and no other. -/
theorem getElem?_uploads_step {i j : Nat} {u v : Upload} (hu : t.uploads[i]? = some u)
    (hv : (t.step i).uploads[j]? = some v) :
    (j = i ∧ v = (u.step t.memory).2.1) ∨ (j ≠ i ∧ t.uploads[j]? = some v) := by
  have hlength : i < t.uploads.length := (List.getElem?_eq_some_iff.1 hu).1
  rw [step_of_getElem?_eq_some hu, List.getElem?_set] at hv
  by_cases hij : i = j
  · rw [if_pos hij, if_pos hlength] at hv
    exact .inl ⟨hij.symm, (Option.some.inj hv).symm⟩
  · rw [if_neg hij] at hv
    exact .inr ⟨Ne.symm hij, hv⟩

theorem committers_step_of_commit {i : Nat} {u : Upload} (hu : t.uploads[i]? = some u) {record : CallRecord}
    (hcall : (u.step t.memory).1 = some record) (hcommit : record.call = .commit) :
    (t.step i).committers = t.committers ++ [i] := by
  rw [step_of_getElem?_eq_some hu, hcall]
  simp [committers, hcommit]

theorem committers_step_of_no_commit {i : Nat} {u : Upload} (hu : t.uploads[i]? = some u)
    (hcall : ∀ record ∈ (u.step t.memory).1, record.call ≠ .commit) : (t.step i).committers = t.committers := by
  rw [step_of_getElem?_eq_some hu]
  cases hmade : (u.step t.memory).1 with
  | none => simp [committers]
  | some record => simp [committers, hcall record hmade]

/-- Who commits in this step is the one who takes it. -/
theorem mem_committers_step {i j : Nat} {u : Upload} (hu : t.uploads[i]? = some u) :
    j ∈ (t.step i).committers ↔
      j ∈ t.committers ∨ (j = i ∧ ∃ record ∈ (u.step t.memory).1, record.call = .commit) := by
  by_cases h : ∃ record ∈ (u.step t.memory).1, record.call = .commit
  · obtain ⟨record, hcall, hcommit⟩ := h
    rw [committers_step_of_commit hu hcall hcommit, List.mem_append, List.mem_singleton]
    exact or_congr_right (and_iff_left ⟨record, hcall, hcommit⟩).symm
  · rw [committers_step_of_no_commit hu fun record hrecord hcommit => h ⟨record, hrecord, hcommit⟩]
    simp only [h, and_false, or_false]

/-- A work session that is open after a step was the same upload's before it, or the step has opened it. -/
theorem Sound.work?_step (h : Sound arrivals t) {i j : Nat} {u v : Upload} {w : WorkId} (hu : t.uploads[i]? = some u)
    (hv : (t.step i).uploads[j]? = some v) (hw : v.stage.work? = some w) :
    (w < t.memory.worksOpened ∧ t.memory.worksOpened ≤ (t.step i).memory.worksOpened ∧
      ∃ v', t.uploads[j]? = some v' ∧ v'.stage.work? = some w) ∨
    (w = t.memory.worksOpened ∧ (t.step i).memory.worksOpened = t.memory.worksOpened + 1 ∧ j = i) := by
  have hmemory : (t.step i).memory = (u.step t.memory).2.2 := by rw [step_of_getElem?_eq_some hu]
  have hopened := (touches_step u t.memory).worksOpened
  rw [hmemory]
  -- the upload that has taken the step, or another one, whose work session is as it was
  rcases getElem?_uploads_step hu hv with ⟨rfl, rfl⟩ | ⟨hne, hv⟩
  · rcases hopened with ⟨hsame, hbefore | hnone⟩ | ⟨hnext, -, hafter⟩
    · have hw' : u.stage.work? = some w := hbefore.symm.trans hw
      exact .inl ⟨h.opened j u w hu hw', Nat.le_of_eq hsame.symm, u, hu, hw'⟩
    · exact absurd (hnone.symm.trans hw) (by simp)
    · exact .inr ⟨(Option.some.inj (hafter.symm.trans hw)).symm, hnext, rfl⟩
  · refine .inl ⟨h.opened j v w hv hw, ?_, v, hv, hw⟩
    rcases hopened with ⟨hsame, -⟩ | ⟨hnext, -, -⟩
    · exact Nat.le_of_eq hsame.symm
    · exact hnext ▸ Nat.le_succ _

/-- A step publishes the upload's own unit if it is the commit, and nothing otherwise. -/
theorem Sound.published_step (h : Sound arrivals t) {i : Nat} {a : Incoming} {u : Upload}
    (ha : arrivals[i]? = some a) (hu : t.uploads[i]? = some u) :
    (∃ f, a.Delivers f ∧ i ∉ t.committers ∧ (t.step i).memory.committed = t.memory.committed ++ [f] ∧
      (t.step i).committers = t.committers ++ [i]) ∨
    ((t.step i).memory.committed = t.memory.committed ∧ (t.step i).committers = t.committers) := by
  have hmemory : (t.step i).memory = (u.step t.memory).2.2 := by rw [step_of_getElem?_eq_some hu]
  have hcarried := h.carried i a u ha hu
  rw [hmemory]
  by_cases hcommits : ∃ record ∈ (u.step t.memory).1, record.call = .commit
  · obtain ⟨record, hcall, hcommit⟩ := hcommits
    obtain ⟨work, received, hstage⟩ := exists_committing_of_commit hcall hcommit
    obtain ⟨f, hdelivers, hcommitted, hstep⟩ := hcarried.commit hstage
    refine .inl ⟨f, hdelivers, fun hi => ?_, by rw [hstep, hcommitted], committers_step_of_commit hu hcall hcommit⟩
    -- an upload that is about to commit has not ended, so it has not committed before
    obtain ⟨n, hended⟩ := hcarried.published_iff.1 hi
    exact absurd (hstage.symm.trans hended) (by simp)
  · have hcall : ∀ record ∈ (u.step t.memory).1, record.call ≠ .commit :=
      fun record hrecord hcommit => hcommits ⟨record, hrecord, hcommit⟩
    exact .inr ⟨(touches_step u t.memory).committed_eq hcall, committers_step_of_no_commit hu hcall⟩

/-- **One step of any upload keeps what holds.** -/
theorem Sound.step (h : Sound arrivals t) (i : Nat) : Sound arrivals (t.step i) := by
  cases hu : t.uploads[i]? with
  | none => rwa [step_of_getElem?_eq_none hu]
  | some u =>
    have hstep := step_of_getElem?_eq_some hu
    have hmemory : (t.step i).memory = (u.step t.memory).2.2 := by rw [hstep]
    have htouches := touches_step u t.memory
    obtain ⟨a, ha⟩ : ∃ a, arrivals[i]? = some a := by
      have hlt : i < t.uploads.length := (List.getElem?_eq_some_iff.1 hu).1
      exact ⟨_, List.getElem?_eq_getElem (h.length ▸ hlt)⟩
    have hcarried := h.carried i a u ha hu
    obtain ⟨hcarried', haccepted⟩ := hcarried.step
    refine ⟨?_, fun j b v hb hv => ?_, fun j v w hv hw => ?_, fun j k v v' w hv hv' hw hw' => ?_, ?_,
      fun made hmade => ?_, ?_, ?_⟩
    · rw [hstep, List.length_set]
      exact h.length
    · -- carried: the upload itself by its own step, the others by the frame
      rw [hmemory]
      rcases getElem?_uploads_step hu hv with ⟨rfl, rfl⟩ | ⟨hne, hv⟩
      · obtain rfl : a = b := Option.some.inj (ha.symm.trans hb)
        have hpublished : PublishedAfter (j ∈ t.committers) (u.step t.memory).1 ↔ j ∈ (t.step j).committers := by
          rw [mem_committers_step hu, PublishedAfter, and_iff_right rfl]
        exact propext hpublished ▸ hcarried'
      · have hpublished : j ∈ t.committers ↔ j ∈ (t.step i).committers := by
          rw [mem_committers_step hu, or_iff_left fun hj => hne hj.1]
        refine propext hpublished ▸ (h.carried j b v hb hv).of_lookup fun w hw => ?_
        exact htouches.lookup_of_ne (fun hw' => hne (h.apart j i v u w hv hu hw hw')) (h.opened j v w hv hw)
    · -- opened
      rcases h.work?_step hu hv hw with ⟨hlt, hle, -⟩ | ⟨heq, hnext, -⟩
      · exact Nat.lt_of_lt_of_le hlt hle
      · rw [heq, hnext]
        exact Nat.lt_succ_self _
    · -- apart: a work session that the step has opened is larger than those that were open before
      rcases h.work?_step hu hv hw with ⟨hlt, -, u₁, hu₁, hw₁⟩ | ⟨heq, -, rfl⟩ <;>
        rcases h.work?_step hu hv' hw' with ⟨hlt', -, u₂, hu₂, hw₂⟩ | ⟨heq', -, rfl⟩
      · exact h.apart j k u₁ u₂ w hu₁ hu₂ hw₁ hw₂
      · exact absurd heq' (Nat.ne_of_lt hlt)
      · exact absurd heq (Nat.ne_of_lt hlt')
      · rfl
    · rw [hmemory]
      exact htouches.numbered h.numbered
    · -- accepted: the new call, if there is one, was not refused
      rw [hstep] at hmade
      rcases List.mem_append.1 hmade with hmade | hmade
      · exact h.accepted made hmade
      · obtain ⟨record, hrecord, rfl⟩ := List.mem_map.1 hmade
        exact haccepted record (Option.mem_toList.1 hrecord)
    · -- delivered: both lists grow by one at the end, or neither does
      rcases h.published_step ha hu with ⟨f, hdelivers, -, hcommitted, hcommitters⟩ | ⟨hcommitted, hcommitters⟩
      · rw [hcommitted, hcommitters]
        exact List.rel_append h.delivered (.cons ⟨a, ha, hdelivers⟩ .nil)
      · rw [hcommitted, hcommitters]
        exact h.delivered
    · -- once
      rcases h.published_step ha hu with ⟨f, -, hnew, -, hcommitters⟩ | ⟨-, hcommitters⟩
      · rw [hcommitters]
        refine List.nodup_append.2 ⟨h.once, List.pairwise_singleton _ _, fun j hj k hk hjk => hnew ?_⟩
        rw [← List.mem_singleton.1 hk, ← hjk]
        exact hj
      · rw [hcommitters]
        exact h.once

/-- What holds of the traffic holds at every moment of every interleaving. -/
theorem sound_run (arrivals : List Incoming) (order : List Nat) : Sound arrivals (run arrivals order) := by
  -- the induction is on the order, from any traffic of which it holds
  have hfrom (t : Traffic) (h : Sound arrivals t) : Sound arrivals (order.foldl Traffic.step t) := by
    induction order generalizing t with
    | nil => exact h
    | cons i order ih => exact ih (t.step i) (h.step i)
  exact hfrom _ (sound_init arrivals)

/-! ## What is committed

The committed units and the list of those who have committed go side by side, and the statement is read off the pairs.
-/

/-- An upload has used up as many of its steps as the order has given it. -/
theorem stepsLeft_run_le {i : Nat} {a : Incoming} (ha : arrivals[i]? = some a) (order : List Nat) :
    ∃ u, (run arrivals order).uploads[i]? = some u ∧ u.stepsLeft ≤ a.upload.stepsLeft - order.count i := by
  have hfrom (t : Traffic) (u : Upload) (hu : t.uploads[i]? = some u) :
      ∃ u', (order.foldl Traffic.step t).uploads[i]? = some u' ∧ u'.stepsLeft ≤ u.stepsLeft - order.count i := by
    induction order generalizing t u with
    | nil => exact ⟨u, hu, Nat.le_refl _⟩
    | cons j order ih =>
      rw [List.foldl_cons, List.count_cons]
      by_cases hji : j = i
      · -- a step of the upload itself uses up one of those that the order has given it
        subst hji
        have hnext : (t.step j).uploads[j]? = some (u.step t.memory).2.1 := by
          rw [step_of_getElem?_eq_some hu]
          exact List.getElem?_set_self (List.getElem?_eq_some_iff.1 hu).1
        obtain ⟨u', hu', hle⟩ := ih _ _ hnext
        have hone := stepsLeft_step_le u t.memory
        refine ⟨u', hu', ?_⟩
        simp only [beq_self_eq_true, if_true]
        omega
      · -- a step of another upload leaves this one where it is
        have hsame : (t.step j).uploads[i]? = some u := by
          cases hv : t.uploads[j]? with
          | none => rw [step_of_getElem?_eq_none hv, hu]
          | some v =>
            rw [step_of_getElem?_eq_some hv]
            exact (List.getElem?_set_ne hji).trans hu
        obtain ⟨u', hu', hle⟩ := ih _ _ hsame
        refine ⟨u', hu', ?_⟩
        rw [if_neg (by simpa using hji)]
        exact hle
  refine hfrom _ _ ?_
  rw [List.getElem?_map, ha]
  rfl

/-- An upload that has ended has ended as what arrives for it says. -/
theorem Sound.ending_eq (h : Sound arrivals t) {i : Nat} {a : Incoming} {u : Upload} {ending : UploadEnd}
    (ha : arrivals[i]? = some a) (hu : t.uploads[i]? = some u) (hended : u.stage = .ended ending) :
    ending = a.ending := by
  have hbears := (h.carried i a u ha hu).bears
  rw [Bears, hended] at hbears
  exact hbears

/-- The unit and the commit at the same position of the two lists belong together. -/
theorem Sound.delivers_of_mem_zip (h : Sound arrivals t) {f : FlowUnit} {i : Nat}
    (hf : (f, i) ∈ t.memory.committed.zip t.committers) : ∃ a, arrivals[i]? = some a ∧ a.Delivers f :=
  (List.forall₂_iff_zip.1 h.delivered).2 hf

/-- The upload of a committed unit is complete, and it counted the bytes of the unit. -/
theorem Sound.complete_of_mem_zip (h : Sound arrivals t) {f : FlowUnit} {i : Nat}
    (hf : (f, i) ∈ t.memory.committed.zip t.committers) :
    ∃ a u, arrivals[i]? = some a ∧ t.uploads[i]? = some u ∧ a.Delivers f ∧ u.target = a.target ∧
      u.stage = .ended (.complete f.size) := by
  obtain ⟨a, ha, hdelivers⟩ := h.delivers_of_mem_zip hf
  obtain ⟨u, hu⟩ : ∃ u, t.uploads[i]? = some u :=
    ⟨_, List.getElem?_eq_getElem (h.length ▸ (List.getElem?_eq_some_iff.1 ha).1)⟩
  have hcarried := h.carried i a u ha hu
  obtain ⟨received, hended⟩ := hcarried.published_iff.1 (List.of_mem_zip hf).2
  have hending : UploadEnd.complete received = a.ending := h.ending_eq ha hu hended
  refine ⟨a, u, ha, hu, hdelivers, hcarried.target, ?_⟩
  rw [hended]
  -- a stream that ends in a failure does not lead to a complete upload
  rw [Incoming.ending] at hending
  cases hend : a.stream.ending with
  | none =>
    rw [hend] at hending
    rw [UploadEnd.complete.inj hending, FlowUnit.size, hdelivers.content]
  | some kind =>
    rw [hend] at hending
    exact absurd hending.symm (endOfReadFault_ne_complete kind received)

/-- The same bytes for the same target come out the same on two runs, whatever the order of the steps was. -/
theorem Sound.alike_of_mem_zip {arrivals' : List Incoming} {t' : Traffic} (h : Sound arrivals t)
    (h' : Sound arrivals' t') (halike : List.Forall₂ Incoming.Alike arrivals arrivals') {f f' : FlowUnit} {i : Nat}
    (hf : (f, i) ∈ t.memory.committed.zip t.committers) (hf' : (f', i) ∈ t'.memory.committed.zip t'.committers) :
    f.content = f'.content ∧ f.size = f'.size ∧ f.relationship = f'.relationship ∧
      f.attribute? filenameAttribute = f'.attribute? filenameAttribute ∧
      f.attribute? pathAttribute = f'.attribute? pathAttribute := by
  obtain ⟨a, ha, hdelivers⟩ := h.delivers_of_mem_zip hf
  obtain ⟨b, hb, hdelivers'⟩ := h'.delivers_of_mem_zip hf'
  have hab : a.Alike b := by
    have hzip : (arrivals.zip arrivals')[i]? = some (a, b) := List.getElem?_zip_eq_some.2 ⟨ha, hb⟩
    exact (List.forall₂_iff_zip.1 halike).2 (List.mem_of_getElem? hzip)
  have hcontent : f.content = f'.content := by
    rw [hdelivers.content, hdelivers'.content, hab.content]
  refine ⟨hcontent, congrArg List.length hcontent, ?_, ?_, ?_⟩
  · rw [hdelivers.relationship, hdelivers'.relationship]
  · rw [hdelivers.filename, hdelivers'.filename, hab.target]
  · rw [hdelivers.path, hdelivers'.path, hab.target]

/--
**What is committed is what the uploads that have committed delivered.** At every moment of every interleaving, the
committed units and the commits so far correspond one to one and in order. A unit holds what arrived for its own
upload, under the attributes of that upload's own target, and its size is the one in the upload's reply. No upload
commits twice and no two units have the same number.

How an upload ends is decided by what arrives for it alone, and it does end after enough steps of its own. Neither the
size of the reads nor the way in which the bytes are cut into pieces can be told from the outcome.
-/
theorem committed_run (arrivals : List Incoming) (order : List Nat) :
    let t := run arrivals order
    List.Forall₂ (fun f i => ∃ a u, arrivals[i]? = some a ∧ t.uploads[i]? = some u ∧ a.Delivers f ∧
        u.target = a.target ∧ u.stage = .ended (.complete f.size) ∧
        replyTo u.target u.ending = ⟨226, "Transfer complete (" ++ toString f.size ++ " bytes)."⟩)
      t.memory.committed t.committers ∧
    t.committers.Nodup ∧
    (t.memory.committed.map (·.id)).Nodup ∧
    (∀ (i : Nat) (u : Upload), t.uploads[i]? = some u →
      (i ∈ t.committers ↔ ∃ received, u.stage = .ended (.complete received))) ∧
    (∀ (i : Nat) (a : Incoming) (u : Upload) ending, arrivals[i]? = some a → t.uploads[i]? = some u →
      u.stage = .ended ending → ending = a.ending) ∧
    (∀ (i : Nat) (a : Incoming), arrivals[i]? = some a → a.upload.enough ≤ order.count i →
      ∃ u, t.uploads[i]? = some u ∧ u.stage = .ended a.ending) ∧
    (∀ arrivals' order' i f f', List.Forall₂ Incoming.Alike arrivals arrivals' →
      (f, i) ∈ t.memory.committed.zip t.committers →
      (f', i) ∈ (run arrivals' order').memory.committed.zip (run arrivals' order').committers →
      f.content = f'.content ∧ f.size = f'.size ∧ f.relationship = f'.relationship ∧
        f.attribute? filenameAttribute = f'.attribute? filenameAttribute ∧
        f.attribute? pathAttribute = f'.attribute? pathAttribute) := by
  intro t
  have h : Sound arrivals t := sound_run arrivals order
  refine ⟨?_, h.once, h.numbered.nodup none, fun i u hu => ?_, fun i a u ending => h.ending_eq, fun i a ha hle => ?_,
    fun arrivals' order' i f f' halike => h.alike_of_mem_zip (sound_run arrivals' order') halike⟩
  · refine List.forall₂_iff_zip.2 ⟨h.delivered.length_eq, fun {f i} hf => ?_⟩
    obtain ⟨a, u, ha, hu, hdelivers, htarget, hended⟩ := h.complete_of_mem_zip hf
    refine ⟨a, u, ha, hu, hdelivers, htarget, hended, ?_⟩
    rw [Upload.ending, hended]
    rfl
  · have hlt : i < t.uploads.length := (List.getElem?_eq_some_iff.1 hu).1
    exact (h.carried i _ u (List.getElem?_eq_getElem (h.length ▸ hlt)) hu).published_iff
  · -- each step of an upload lowers its measure, so enough of them bring it to its end
    obtain ⟨u, hu, hleft⟩ := stepsLeft_run_le ha order
    have henough : a.upload.stepsLeft ≤ a.upload.enough := by
      show 2 * a.upload.unread + 7 ≤ 2 * a.upload.unread + 9
      omega
    obtain ⟨ending, hended⟩ := exists_ended_of_stepsLeft_eq_zero (u := u) (by omega)
    exact ⟨u, hu, h.ending_eq ha hu hended ▸ hended⟩

-- two uploads take turns, and the shorter one is through first
example :
    let t := run [⟨Path.root, 2, { arriving := [[1, 2, 3], [4]] }⟩, ⟨Path.root, 0, { arriving := [[9]] }⟩]
      (List.replicate 20 [0, 1]).flatten
    t.committers = [1, 0] ∧ t.memory.committed.map FlowUnit.content = [[9], [1, 2, 3, 4]] := by
  decide

end Traffic

end FtpIntake
