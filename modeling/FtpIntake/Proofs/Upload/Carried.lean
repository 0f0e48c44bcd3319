import FtpIntake.Proofs.Upload.Touches

/-!
# An upload on the pipeline in memory

What an upload has put into the pipeline can be read off its stage: its work session holds one unit, and that unit and
the bytes that are still to be read make up what arrives. Other uploads may use the pipeline at any time between two
steps.

What the stage says is `Bears`: how much of the stream the unit has, which of its attributes it has by now, and whether
it has its route. A step of the upload is looked at stage by stage. `CarriedOn` says what has to be shown of each, and
there is one lemma for each stage, which needs to know no other.

* **`Upload.Carried`** is this relation. `Carried.of_lookup` keeps it over everything that leaves the upload's work
  session alone, and `Carried.step` over the upload's own step.
* **`Carried.commit`** says that the commit publishes the unit, which then is what the upload was to deliver.

Nothing is assumed about what the pipeline held before, or about other uploads. All that is needed of them is that
they leave this work session alone, and `Touches` says so of each step of theirs.
-/

namespace FtpIntake

/-- What arrives for an upload: where it is to be stored, how much a read asks for, and the data stream. -/
structure Incoming where
  target : Path
  chunkSize : Nat
  stream : DataStream

namespace Incoming

/-- The upload before its first step. -/
def upload (a : Incoming) : Upload :=
  { target := a.target, chunkSize := a.chunkSize, stream := a.stream }

/-- The end that the stream leads to when the pipeline refuses nothing. The reads have no part in it. -/
def ending (a : Incoming) : UploadEnd :=
  match a.stream.ending with
  | none => .complete a.stream.content.length
  | some kind => Upload.endOfReadFault kind

/-- The unit holds all that arrived, under the target's two attributes, on the way that complete uploads go. -/
structure Delivers (a : Incoming) (f : FlowUnit) : Prop where
  content : f.content = a.stream.content
  filename : f.attribute? filenameAttribute = some a.target.fileName
  path : f.attribute? pathAttribute = some a.target.containerText
  relationship : f.relationship = some successRelationship

/-- The same bytes for the same target, with the same end. How they are cut, and into what reads, may differ. -/
structure Alike (a b : Incoming) : Prop where
  target : a.target = b.target
  content : a.stream.content = b.stream.content
  ending : a.stream.ending = b.stream.ending

end Incoming

namespace Upload

variable {m m' : Memory}

/-! ## What a step does for the upload itself

The pipeline in memory refuses a call only when the unit is not there or has no route, and an upload never gets into
either position. -/

/-- The work session holds the unit of an upload and nothing else. -/
structure Owns (m : Memory) (work : WorkId) (unit : UnitId) (received : Nat) (f : FlowUnit) : Prop where
  lookup : m.openWorks.lookup work = some [f]
  id : f.id = unit
  received : received = f.size

/-- What the stage of an upload says about the pipeline. -/
def Bears (a : Incoming) (m : Memory) (u : Upload) : Prop :=
  match u.stage with
  | .opening => u.stream.content = a.stream.content
  | .creating work => m.openWorks.lookup work = some [] ∧ u.stream.content = a.stream.content
  | .reading work unit received =>
    ∃ f, Owns m work unit received f ∧ f.content ++ u.stream.content = a.stream.content
  | .writing work unit received chunk =>
    ∃ f, Owns m work unit received f ∧ f.content ++ (chunk ++ u.stream.content) = a.stream.content
  | .naming work unit received =>
    ∃ f, Owns m work unit received f ∧ a.stream.ending = none ∧ f.content = a.stream.content
  | .placing work unit received =>
    ∃ f, Owns m work unit received f ∧ a.stream.ending = none ∧ f.content = a.stream.content ∧
      f.attribute? filenameAttribute = some a.target.fileName
  | .routing work unit received =>
    ∃ f, Owns m work unit received f ∧ a.stream.ending = none ∧ f.content = a.stream.content ∧
      f.attribute? filenameAttribute = some a.target.fileName ∧
      f.attribute? pathAttribute = some a.target.containerText
  | .committing work received =>
    ∃ f unit, Owns m work unit received f ∧ a.stream.ending = none ∧ a.Delivers f
  | .rollingBack _ ending => ∃ kind, a.stream.ending = some kind ∧ ending = endOfReadFault kind
  | .ended ending => ending = a.ending

/-- An upload of what `a` says is on its way, with `m` as the pipeline. `published` says whether it has committed. -/
structure Carried (a : Incoming) (m : Memory) (published : Prop) (u : Upload) : Prop where
  target : u.target = a.target
  ending : u.stream.ending = a.stream.ending
  published_iff : published ↔ ∃ received, u.stage = .ended (.complete received)
  bears : Bears a m u

variable {a : Incoming} {published : Prop} {u : Upload}

/-- An upload that has not begun carries nothing, and all is still to be read. -/
theorem carried_upload (a : Incoming) (m : Memory) : Carried a m False a.upload :=
  ⟨rfl, rfl, by simp [Incoming.upload], rfl⟩

/-- What happens outside of the upload's own work session does not matter to it. -/
theorem Carried.of_lookup (h : Carried a m published u)
    (hlookup : ∀ w, u.stage.work? = some w → m'.openWorks.lookup w = m.openWorks.lookup w) :
    Carried a m' published u := by
  refine ⟨h.target, h.ending, h.published_iff, ?_⟩
  -- the unit is found by the row of the work session, which is the same
  have howns {work : WorkId} {unit : UnitId} {received : Nat} {f : FlowUnit} (hwork : u.stage.work? = some work)
      (ho : Owns m work unit received f) : Owns m' work unit received f :=
    ⟨(hlookup work hwork).trans ho.lookup, ho.id, ho.received⟩
  have hbears := h.bears
  unfold Bears at hbears ⊢
  cases hstage : u.stage with
  | opening | rollingBack | ended =>
    rw [hstage] at hbears
    exact hbears
  | creating work =>
    rw [hstage] at hbears
    exact ⟨(hlookup work (by rw [hstage]; rfl)).trans hbears.1, hbears.2⟩
  | reading | writing | naming | placing | routing =>
    rw [hstage] at hbears
    obtain ⟨f, ho, hrest⟩ := hbears
    exact ⟨f, howns (by rw [hstage]; rfl) ho, hrest⟩
  | committing =>
    rw [hstage] at hbears
    obtain ⟨f, unit, ho, hrest⟩ := hbears
    exact ⟨f, unit, howns (by rw [hstage]; rfl) ho, hrest⟩

/-- What the stage of an upload says, once the stage is known. -/
theorem Carried.bears_at (h : Carried a m published u) {stage : UploadStage} (hstage : u.stage = stage) :
    Bears a m { u with stage } := by
  subst hstage
  exact h.bears

/-- A work session that an upload owns has that one unit. -/
theorem Owns.unitsOf {work : WorkId} {unit : UnitId} {received : Nat} {f : FlowUnit}
    (h : Owns m work unit received f) : m.unitsOf work = [f] := by
  rw [Memory.unitsOf, h.lookup]
  rfl

/-- A change of the upload's own unit succeeds, and the work session holds the changed unit. -/
theorem Owns.updateUnit {work : WorkId} {unit : UnitId} {received : Nat} {f : FlowUnit}
    (h : Owns m work unit received f) (change : FlowUnit → FlowUnit) :
    ∃ m', m.updateUnit work unit change = (.ok (), m') ∧ m'.openWorks.lookup work = some [change f] := by
  rcases m.updateUnit_cases work unit change with ⟨-, heq⟩ | ⟨hnone, -⟩
  · refine ⟨_, heq, ?_⟩
    rw [Memory.lookup_setUnits, if_pos rfl, h.lookup, h.unitsOf]
    show some [if f.id = unit then change f else f] = _
    rw [if_pos h.id]
  · exact absurd h.id (hnone f (by rw [h.unitsOf]; exact List.mem_singleton.2 rfl))

/-- What is published after an upload's step. -/
def PublishedAfter (published : Prop) (call : Option CallRecord) : Prop :=
  published ∨ ∃ record ∈ call, record.call = .commit

/-- A step to a stage that is not the end of a complete upload publishes nothing. -/
theorem Carried.not_published (h : Carried a m published u) {call : Option CallRecord} {stage : UploadStage}
    (hstage : ∀ received, u.stage ≠ .ended (.complete received)) (hcall : ∀ record ∈ call, record.call ≠ .commit)
    (hafter : ∀ received, stage ≠ .ended (.complete received)) :
    PublishedAfter published call ↔ ∃ received, stage = .ended (.complete received) := by
  refine ⟨fun hpublished => ?_, fun ⟨received, heq⟩ => absurd heq (hafter received)⟩
  rcases hpublished with hpublished | ⟨record, hrecord, hcommit⟩
  · obtain ⟨received, heq⟩ := h.published_iff.1 hpublished
    exact absurd heq (hstage received)
  · exact absurd hcommit (hcall record hrecord)

/-- What comes of a step: the upload is carried on, and if the step has made a call, it was not refused. -/
structure CarriedOn (a : Incoming) (published : Prop) (result : Option CallRecord × Upload × Memory) : Prop where
  carried : Carried a result.2.2 (PublishedAfter published result.1) result.2.1
  accepted : ∀ record ∈ result.1, record.succeeded = true

/-- A call that changes the upload's own unit leads to the next stage, with the changed unit. -/
theorem Carried.update (h : Carried a m published u) {work : WorkId} {unit : UnitId} {received : Nat} {f : FlowUnit}
    {change : FlowUnit → FlowUnit} {call : PipelineCall} {next : UploadStage} (howns : Owns m work unit received f)
    (hstage : ∀ received, u.stage ≠ .ended (.complete received)) (hcall : call ≠ .commit)
    (hnext : ∀ received, next ≠ .ended (.complete received))
    (hbears : ∀ m', m'.openWorks.lookup work = some [change f] → Bears a m' (u.toStage next)) :
    CarriedOn a published
      (u.afterCall call next (.rollingBack work .localError) (m.updateUnit work unit change)) := by
  obtain ⟨m', heq, hlookup⟩ := howns.updateUnit change
  rw [heq]
  refine ⟨⟨h.target, h.ending, h.not_published hstage ?_ hnext, hbears m' hlookup⟩, ?_⟩
  · rintro record ⟨⟩
    exact hcall
  · rintro record ⟨⟩
    rfl

/-- A read that failed is no way to be complete. -/
theorem endOfReadFault_ne_complete (kind : IoKind) (received : Nat) : endOfReadFault kind ≠ .complete received := by
  unfold endOfReadFault
  split <;> simp

/-- The commit of a unit that has a route succeeds. -/
theorem Owns.commit {work : WorkId} {unit : UnitId} {received : Nat} {f : FlowUnit}
    (h : Owns m work unit received f) (hroute : f.relationship = some successRelationship) :
    m.commit work = (.ok (), m.publish work) := by
  rcases m.commit_eq work with ⟨fault, hfault, -⟩ | ⟨-, heq⟩
  · rw [h.unitsOf] at hfault
    simp [Memory.unroutedFault?, hroute] at hfault
  · exact heq

/-- The call that is recorded is the one that was made. -/
theorem call_of_mem_afterCall {σ : Type} {call : PipelineCall} {next otherwise : UploadStage}
    {result : Except PipelineFault Unit × σ} {record : CallRecord}
    (h : record ∈ (u.afterCall call next otherwise result).1) : record.call = call := by
  obtain ⟨answer, s⟩ := result
  cases answer <;> exact (Option.some.inj h).symm ▸ rfl

/-- An upload calls for a commit at one stage only. -/
theorem exists_committing_of_commit {record : CallRecord} (h : record ∈ (u.step m).1) (hcommit : record.call = .commit) :
    ∃ work received, u.stage = .committing work received := by
  cases hstage : u.stage with
  | committing work received => exact ⟨work, received, rfl⟩
  | opening =>
    rw [step_opening hstage] at h
    cases h
    cases hcommit
  | creating work =>
    rw [step_creating hstage] at h
    cases h
    cases hcommit
  | rollingBack work ending =>
    rw [step_rollingBack hstage] at h
    cases h
    cases hcommit
  | reading work unit received =>
    -- a read makes no call, whatever it finds
    rcases u.stream.read_cases (max u.chunkSize 1) with
      ⟨first, rest, left, hread, -⟩ | ⟨-, -, hread⟩ | ⟨kind, -, -, hread⟩
    · rw [step_reading_bytes hstage hread] at h
      cases h
    · rw [step_reading_finished hstage hread] at h
      cases h
    · rw [step_reading_failed hstage hread] at h
      cases h
  -- every other stage makes a call of its own
  | writing work unit received chunk =>
    rw [step_writing hstage] at h
    cases (call_of_mem_afterCall h).symm.trans hcommit
  | naming work unit received =>
    rw [step_naming hstage] at h
    cases (call_of_mem_afterCall h).symm.trans hcommit
  | placing work unit received =>
    rw [step_placing hstage] at h
    cases (call_of_mem_afterCall h).symm.trans hcommit
  | routing work unit received =>
    rw [step_routing hstage] at h
    cases (call_of_mem_afterCall h).symm.trans hcommit
  | ended ending =>
    rw [step_ended hstage] at h
    cases h

/-- **The commit of an upload publishes its unit**, and the upload ends with the size of the unit. -/
theorem Carried.commit (h : Carried a m published u) {work : WorkId} {received : Nat}
    (hstage : u.stage = .committing work received) :
    ∃ f, a.Delivers f ∧ (m.publish work).committed = m.committed ++ [f] ∧
      u.step m = (some ⟨.commit, true⟩, u.toStage (.ended a.ending), m.publish work) := by
  obtain ⟨f, unit, howns, hend, hdelivers⟩ := h.bears_at hstage
  have hending : a.ending = .complete received := by
    rw [Incoming.ending, hend, howns.received, FlowUnit.size, hdelivers.content]
  refine ⟨f, hdelivers, congrArg (m.committed ++ ·) howns.unitsOf, ?_⟩
  rw [hending, step_committing hstage]
  show u.afterCall .commit _ _ (m.commit work) = _
  rw [howns.commit hdelivers.relationship]
  rfl

/-! ## The stages of an upload

One lemma for each stage says that the step from there carries the upload on. -/

/-- The work session is new, and has no units. -/
theorem Carried.step_opening (h : Carried a m published u) (hstage : u.stage = .opening) :
    CarriedOn a published (u.step m) := by
  rw [Upload.step_opening hstage]
  refine ⟨⟨h.target, h.ending, h.not_published (by simp [hstage]) (by simp) (by simp [toStage]), ?_,
    h.bears_at hstage⟩, by simp⟩
  show (m.openWork.2).openWorks.lookup m.worksOpened = some []
  rw [Memory.lookup_openWork, if_pos rfl]

/-- The unit is the only one of the work session, and empty so far. -/
theorem Carried.step_creating (h : Carried a m published u) {work : WorkId} (hstage : u.stage = .creating work) :
    CarriedOn a published (u.step m) := by
  obtain ⟨hlookup, hcontent⟩ := h.bears_at hstage
  rw [Upload.step_creating hstage]
  refine ⟨⟨h.target, h.ending, h.not_published (by simp [hstage]) (by simp) (by simp [toStage]),
    { id := m.lastUnit + 1 }, ⟨?_, rfl, rfl⟩, hcontent⟩, by simp⟩
  show ((m.createUnit work).2).openWorks.lookup work = _
  rw [Memory.lookup_createUnit, if_pos rfl, hlookup]
  rfl

/-- A read moves bytes from the stream to the upload, or finds the end that the upload then goes to. -/
theorem Carried.step_reading (h : Carried a m published u) {work : WorkId} {unit : UnitId} {received : Nat}
    (hstage : u.stage = .reading work unit received) : CarriedOn a published (u.step m) := by
  obtain ⟨f, howns, hcontent⟩ := h.bears_at hstage
  have hnot {stage : UploadStage} (hafter : ∀ received, stage ≠ .ended (.complete received)) :
      PublishedAfter published none ↔ ∃ received, stage = .ended (.complete received) :=
    h.not_published (by simp [hstage]) (by simp) hafter
  rcases u.stream.read_cases (max u.chunkSize 1) with
    ⟨first, rest, left, hread, hsplit, hend, -⟩ | ⟨hnil, hend, hread⟩ | ⟨kind, hnil, hend, hread⟩
  · -- the chunk goes from what is still to be read to what is being written
    rw [step_reading_bytes hstage hread]
    refine ⟨⟨h.target, hend.trans h.ending, hnot (by simp), f, howns, ?_⟩, nofun⟩
    rw [← hcontent, hsplit]
  · -- nothing is left to be read, so the unit holds everything
    rw [step_reading_finished hstage hread]
    refine ⟨⟨h.target, h.ending, hnot (by simp [toStage]), f, howns, h.ending.symm.trans hend, ?_⟩, nofun⟩
    rw [← hcontent, hnil, List.append_nil]
  · -- what is in the unit by now is going to be thrown away
    rw [step_reading_failed hstage hread]
    exact ⟨⟨h.target, h.ending, hnot (by simp [toStage]), kind, h.ending.symm.trans hend, rfl⟩, nofun⟩

/-- The chunk goes from what is being written to the unit, and is counted. -/
theorem Carried.step_writing (h : Carried a m published u) {work : WorkId} {unit : UnitId} {received : Nat}
    {chunk : Bytes} (hstage : u.stage = .writing work unit received chunk) : CarriedOn a published (u.step m) := by
  obtain ⟨f, howns, hcontent⟩ := h.bears_at hstage
  rw [Upload.step_writing hstage]
  refine h.update howns (by simp [hstage]) (by simp) (by simp) fun m' hlookup => ?_
  refine ⟨f.append chunk, ⟨hlookup, howns.id, ?_⟩, ?_⟩
  · rw [FlowUnit.size, FlowUnit.content_append, List.length_append, howns.received, FlowUnit.size]
  · rw [FlowUnit.content_append, List.append_assoc]
    exact hcontent

/-- The unit gets its first attribute. -/
theorem Carried.step_naming (h : Carried a m published u) {work : WorkId} {unit : UnitId} {received : Nat}
    (hstage : u.stage = .naming work unit received) : CarriedOn a published (u.step m) := by
  obtain ⟨f, howns, hend, hcontent⟩ := h.bears_at hstage
  rw [Upload.step_naming hstage, h.target]
  refine h.update howns (by simp [hstage]) (by simp) (by simp) fun m' hlookup => ?_
  exact ⟨_, ⟨hlookup, howns.id, howns.received⟩, hend, hcontent, by simp⟩

/-- The two attributes have different names, so the second leaves the first. -/
theorem Carried.step_placing (h : Carried a m published u) {work : WorkId} {unit : UnitId} {received : Nat}
    (hstage : u.stage = .placing work unit received) : CarriedOn a published (u.step m) := by
  obtain ⟨f, howns, hend, hcontent, hfilename⟩ := h.bears_at hstage
  rw [Upload.step_placing hstage, h.target]
  refine h.update howns (by simp [hstage]) (by simp) (by simp) fun m' hlookup => ?_
  refine ⟨_, ⟨hlookup, howns.id, howns.received⟩, hend, hcontent, ?_, by simp⟩
  rw [FlowUnit.attribute?_setAttribute, if_neg (show filenameAttribute ≠ pathAttribute by decide)]
  exact hfilename

/-- The unit gets its route, so that the commit will not fail. -/
theorem Carried.step_routing (h : Carried a m published u) {work : WorkId} {unit : UnitId} {received : Nat}
    (hstage : u.stage = .routing work unit received) : CarriedOn a published (u.step m) := by
  obtain ⟨f, howns, hend, hcontent, hfilename, hpath⟩ := h.bears_at hstage
  rw [Upload.step_routing hstage]
  refine h.update howns (by simp [hstage]) (by simp) (by simp) fun m' hlookup => ?_
  exact ⟨_, unit, ⟨hlookup, howns.id, howns.received⟩, hend, ⟨hcontent, hfilename, hpath, rfl⟩⟩

/-- Only here something is published. -/
theorem Carried.step_committing (h : Carried a m published u) {work : WorkId} {received : Nat}
    (hstage : u.stage = .committing work received) : CarriedOn a published (u.step m) := by
  obtain ⟨f, unit, howns, hend, -⟩ := h.bears_at hstage
  obtain ⟨_, _, -, hstep⟩ := h.commit hstage
  rw [hstep]
  refine ⟨⟨h.target, h.ending, ?_, rfl⟩, by simp⟩
  refine iff_of_true (.inr ⟨_, rfl, rfl⟩) ⟨a.stream.content.length, ?_⟩
  show UploadStage.ended a.ending = _
  rw [Incoming.ending, hend]

/-- A read that failed does not lead to a complete upload, so nothing is published at this end. -/
theorem Carried.step_rollingBack (h : Carried a m published u) {work : WorkId} {ending : UploadEnd}
    (hstage : u.stage = .rollingBack work ending) : CarriedOn a published (u.step m) := by
  obtain ⟨kind, hend, hending⟩ := h.bears_at hstage
  rw [Upload.step_rollingBack hstage]
  have hafter : ∀ received, UploadStage.ended ending ≠ .ended (.complete received) := by
    intro received heq
    exact endOfReadFault_ne_complete kind received (hending ▸ UploadStage.ended.inj heq)
  refine ⟨⟨h.target, h.ending, h.not_published (by simp [hstage]) (by simp) hafter, ?_⟩, by simp⟩
  show ending = a.ending
  rw [hending, Incoming.ending, hend]

/-- Nothing happens any more. -/
theorem Carried.step_ended (h : Carried a m published u) {ending : UploadEnd} (hstage : u.stage = .ended ending) :
    CarriedOn a published (u.step m) := by
  rw [Upload.step_ended hstage]
  refine ⟨⟨h.target, h.ending, ?_, h.bears⟩, nofun⟩
  rw [← h.published_iff]
  simp [PublishedAfter]

/-- **An upload's own step carries it on, and none of its calls is refused.** -/
theorem Carried.step (h : Carried a m published u) : CarriedOn a published (u.step m) := by
  cases hstage : u.stage with
  | opening => exact h.step_opening hstage
  | creating work => exact h.step_creating hstage
  | reading work unit received => exact h.step_reading hstage
  | writing work unit received chunk => exact h.step_writing hstage
  | naming work unit received => exact h.step_naming hstage
  | placing work unit received => exact h.step_placing hstage
  | routing work unit received => exact h.step_routing hstage
  | committing work received => exact h.step_committing hstage
  | rollingBack work ending => exact h.step_rollingBack hstage
  | ended ending => exact h.step_ended hstage

end Upload

end FtpIntake
