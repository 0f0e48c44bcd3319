import FtpIntake.Proofs.Exchange.Channel
import FtpIntake.Proofs.Path.Normal
import FtpIntake.Proofs.Upload.Interleaving

/-!
# What the attributes of a stored unit say

A unit that has been committed has two attributes that tell where it belongs: the directory of the entry, with a slash
at its end, and the name of the entry. They are built apart from each other, and at the root the slash is already
there. Still, one behind the other they are the text of the target again, so the target can be read off them, and
units with the same two attributes have come from uploads to the same target.

* **`Path.containerText_append_fileName`** puts the two texts together, and **`Path.eq_of_attributes`** says that no
  two paths have the same pair.
* **`UploadRun.committed_finish`** and **`Exchange.committed_store`** say what is committed: one unit that holds the
  attributes of its target, or nothing.
* **`Incoming.Delivers.attributes_eq_iff`** compares two units.
* **`Exchange.attributes_identify`** is what a `STOR` tells those who find its unit.
-/

namespace FtpIntake

open Text

namespace Path

variable {p q : Path}

/-! ## The two texts of a path

The directory is written with a slash at its end, so that the two texts can be put together. At the root the slash is
there already, and this is the only case in which the text of the directory has no name in it. -/

theorem toList_containerText (hroot : p ≠ root) :
    p.containerText.toList = slashed (p.names.dropLast.map String.toList) ++ ['/'] := by
  have hnames : (p.resolve "..").names = p.names.dropLast := names_resolve_dotDot p
  unfold containerText
  rw [parent?_eq_some hroot hnames]
  show (if (p.resolve "..").isRoot then "/" else (p.resolve "..").toString ++ "/").toList = _
  -- directly below the root the slash is the whole text; deeper down it is put behind
  by_cases hparent : p.resolve ".." = root
  · have hnil : p.names.dropLast = [] := by
      rw [← hnames, hparent]
      rfl
    rw [if_pos (isRoot_iff.2 hparent), hnil]
    rfl
  · rw [if_neg (mt isRoot_iff.1 hparent), String.toList_append]
    show (toString (p.resolve "..")).toList ++ _ = _
    rw [toList_toString hparent, hnames]
    rfl

/-- **The directory and the name of an entry, one behind the other, are the text of the entry.** -/
theorem containerText_append_fileName (hroot : p ≠ root) : p.containerText ++ p.fileName = toString p := by
  refine String.toList_inj.1 ?_
  calc (p.containerText ++ p.fileName).toList
      = slashed (p.names.dropLast.map String.toList) ++ ['/'] ++ p.fileName.toList := by
        rw [String.toList_append, toList_containerText hroot]
    _ = slashed ((p.names.dropLast ++ [p.fileName]).map String.toList) := by
        rw [List.map_append, slashed_append, List.append_assoc]
        simp [slashed]
    _ = (toString p).toList := by rw [dropLast_concat_fileName hroot, toList_toString hroot]

/-- The text of a directory begins with a slash, and it ends with one, which may be the same. -/
theorem slash_containerText (hroot : p ≠ root) :
    p.containerText.toList.head? = some '/' ∧ p.containerText.toList.getLast? = some '/' := by
  rw [toList_containerText hroot]
  refine ⟨?_, List.getLast?_concat⟩
  cases p.names.dropLast <;> rfl

/-- **No two paths have the same pair of texts**, the root included, whose name is a slash. -/
theorem eq_of_attributes (hcontainer : p.containerText = q.containerText) (hname : p.fileName = q.fileName) :
    p = q := by
  -- the root has a slash for a name, and no other path's name has one in it
  have hslash {r : Path} (hr : r ≠ root) : r.fileName ≠ root.fileName := fun heq => by
    have hnone := (isName_fileName hr).slash_notMem
    rw [heq] at hnone
    exact hnone (List.mem_singleton.2 rfl)
  by_cases hp : p = root
  · by_cases hq : q = root
    · rw [hp, hq]
    · rw [hp] at hname
      exact absurd hname.symm (hslash hq)
  · by_cases hq : q = root
    · rw [hq] at hname
      exact absurd hname (hslash hp)
    · refine eq_of_toString_eq ?_
      rw [← containerText_append_fileName hp, ← containerText_append_fileName hq, hcontainer, hname]

end Path

/-! ## One upload on a pipeline of its own

What is committed by an upload that nobody comes between. It is a run of `Upload.Carried`, which knows the unit at
every moment. -/

/-- **Two units have the same attributes just if they were to be stored under the same path.** -/
theorem Incoming.Delivers.attributes_eq_iff {a b : Incoming} {f g : FlowUnit} (hf : a.Delivers f) (hg : b.Delivers g) :
    (f.attribute? pathAttribute = g.attribute? pathAttribute ∧
      f.attribute? filenameAttribute = g.attribute? filenameAttribute) ↔ a.target = b.target := by
  rw [hf.path, hf.filename, hg.path, hg.filename, Option.some_inj, Option.some_inj]
  constructor
  · rintro ⟨hcontainer, hname⟩
    exact Path.eq_of_attributes hcontainer hname
  · intro htarget
    rw [htarget]
    exact ⟨rfl, rfl⟩

namespace UploadRun

open Upload

variable {a : Incoming} {m : Memory} {published : Prop}

/-- What an upload adds to what is committed: its unit once it has published it, and nothing before. -/
def Adds (a : Incoming) (m m' : Memory) (published : Prop) : Prop :=
  (published ∧ ∃ f, a.Delivers f ∧ m'.committed = m.committed ++ [f]) ∨ (¬published ∧ m'.committed = m.committed)

theorem adds_advance {r : UploadRun Memory} (hcarried : Carried a r.pipeline published r.upload)
    (hadds : Adds a m r.pipeline published) :
    Adds a m r.advance.pipeline (PublishedAfter published (r.upload.step r.pipeline).1) := by
  by_cases hcommit : ∃ record ∈ (r.upload.step r.pipeline).1, record.call = .commit
  · -- an upload that is about to commit has not published anything so far
    obtain ⟨record, hrecord, hcall⟩ := hcommit
    obtain ⟨work, received, hstage⟩ := exists_committing_of_commit hrecord hcall
    obtain ⟨f, hdelivers, hpublish, hstep⟩ := hcarried.commit hstage
    have hbefore : r.pipeline.committed = m.committed := by
      rcases hadds with ⟨hpublished, -⟩ | ⟨-, heq⟩
      · obtain ⟨_, hended⟩ := hcarried.published_iff.1 hpublished
        rw [hstage] at hended
        cases hended
      · exact heq
    refine .inl ⟨.inr ⟨record, hrecord, hcall⟩, f, hdelivers, ?_⟩
    show (r.upload.step r.pipeline).2.2.committed = _
    rw [hstep, ← hbefore]
    exact hpublish
  · have hsame : r.advance.pipeline.committed = r.pipeline.committed :=
      (touches_step r.upload r.pipeline).committed_eq fun record hrecord hcall => hcommit ⟨record, hrecord, hcall⟩
    have hiff : PublishedAfter published (r.upload.step r.pipeline).1 ↔ published := or_iff_left hcommit
    rw [Adds, hiff, hsame]
    exact hadds

/-- An upload that is run by itself adds its unit when it commits. Induction on the steps. -/
theorem adds_after {r : UploadRun Memory} (hcarried : Carried a r.pipeline published r.upload)
    (hadds : Adds a m r.pipeline published) (n : Nat) :
    ∃ published', Carried a (after n r).pipeline published' (after n r).upload ∧
      Adds a m (after n r).pipeline published' := by
  induction n generalizing r published with
  | zero => exact ⟨published, hcarried, hadds⟩
  | succ n ih => exact ih hcarried.step.1 (adds_advance hcarried hadds)

/-- **What an upload by itself commits**: one unit if the client's stream comes to its end, and nothing if it fails. -/
theorem committed_finish (a : Incoming) (m : Memory) :
    (a.stream.ending = none ∧ ∃ f, a.Delivers f ∧
      ((UploadRun.mk a.upload m []).finish).pipeline.committed = m.committed ++ [f]) ∨
    (a.stream.ending ≠ none ∧ ((UploadRun.mk a.upload m []).finish).pipeline.committed = m.committed) := by
  obtain ⟨published, hcarried, hadds⟩ :=
    adds_after (r := ⟨a.upload, m, []⟩) (carried_upload a m) (.inr ⟨not_false, rfl⟩) a.upload.enough
  obtain ⟨ending, hended⟩ := exists_ended_finish (UploadRun.mk a.upload m [])
  have hbears := hcarried.bears
  unfold Bears at hbears
  change (after a.upload.enough ⟨a.upload, m, []⟩).upload.stage = .ended ending at hended
  rw [hended] at hbears
  -- a unit is published just if the stream has come to its end
  have hpublished : published ↔ ∃ received, a.ending = .complete received := by
    rw [hcarried.published_iff, hended, hbears]
    simp
  rcases hadds with ⟨hyes, hunit⟩ | ⟨hno, hsame⟩
  · -- an end that is complete has no fault behind it
    obtain ⟨received, hcomplete⟩ := hpublished.1 hyes
    refine .inl ⟨?_, hunit⟩
    cases hstream : a.stream.ending with
    | none => rfl
    | some kind =>
      rw [Incoming.ending, hstream] at hcomplete
      exact absurd hcomplete (endOfReadFault_ne_complete kind received)
  · refine .inr ⟨fun hstream => hno (hpublished.2 ⟨a.stream.content.length, ?_⟩), hsame⟩
    rw [Incoming.ending, hstream]

end UploadRun

/-! ## The command

A `STOR` commits its unit or nothing. From the unit its target can be read off, and with it the path that the argument
has led to from where the client was. -/

namespace Exchange

/-- A `STOR` has a target and a data connection to receive an upload from, and a factory that takes it, and what
arrives comes to its end. -/
structure Receives (x : Exchange Memory) (argument : Option String) (target : Path) (stream : DataStream) : Prop where
  target : x.storeTarget argument = .ok target
  opened : x.client.channel.openWith x.circumstances.dial = .ok stream
  factory : ∃ factory, x.factoryWait = .factory factory
  ending : stream.ending = none

/-- **What a `STOR` commits.** One unit, if nothing is in its way, and nothing otherwise. -/
theorem committed_store (x : Exchange Memory) (settings : StoreSettings) (argument : Option String) :
    (∃ target stream f, x.Receives argument target stream ∧
      Incoming.Delivers ⟨target, settings.bufferSize, stream⟩ f ∧
      (x.store settings argument).2.pipeline.committed = x.pipeline.committed ++ [f]) ∨
    ((∀ target stream, ¬x.Receives argument target stream) ∧
      (x.store settings argument).2.pipeline.committed = x.pipeline.committed) := by
  rw [pipeline_store]
  unfold storeReply
  cases htarget : x.storeTarget argument with
  | error failure =>
    -- each way out before the stream contradicts one part of what receiving needs
    refine .inr ⟨fun target stream h => ?_, rfl⟩
    rw [h.target] at htarget
    cases htarget
  | ok target =>
    simp only [openChannel_announce]
    cases hopen : x.client.channel.openWith x.circumstances.dial with
    | error fault =>
      refine .inr ⟨fun target stream h => ?_, rfl⟩
      rw [h.opened] at hopen
      cases hopen
    | ok stream =>
      obtain ⟨found, y, hacquire, -, hpipeline, ⟨factory, hwait, rfl⟩ | ⟨hwait, rfl⟩⟩ := acquireFactory_cases x target
      · have hcommitted := UploadRun.committed_finish ⟨target, settings.bufferSize, stream⟩ y.pipeline
        simp only [receive, hacquire]
        rw [hpipeline] at hcommitted ⊢
        rcases hcommitted with ⟨hend, f, hdelivers, heq⟩ | ⟨hend, heq⟩
        · exact .inl ⟨target, stream, f, ⟨htarget, hopen, ⟨factory, hwait⟩, hend⟩, hdelivers, heq⟩
        · refine .inr ⟨fun target' stream' h => ?_, heq⟩
          rw [h.opened] at hopen
          cases hopen
          exact hend h.ending
      · refine .inr ⟨fun target' stream' h => ?_, ?_⟩
        · obtain ⟨factory, heq⟩ := h.factory
          exact hwait factory heq
        · simp only [receive, hacquire]
          exact congrArg Memory.committed hpipeline

/-- An argument that leads to something else than the root and is free of control characters is no obstacle. -/
theorem receives_of_valid {x : Exchange Memory} {text : String} {stream : DataStream} {factory : FactoryId}
    (hroot : x.lookup text ≠ Path.root) (hclean : ∀ c ∈ text.toList, isControl c = false)
    (hopen : x.client.channel.openWith x.circumstances.dial = .ok stream) (hwait : x.factoryWait = .factory factory)
    (hend : stream.ending = none) : x.Receives (some text) (x.lookup text) stream := by
  refine ⟨?_, hopen, ⟨factory, hwait⟩, hend⟩
  -- the checks in their order; all but the last are met by a hypothesis
  rcases x.storeTarget_cases (some text) with
    ⟨hnone, -⟩ | ⟨text', hsome, ⟨hidle, -⟩ | ⟨-, hinvalid, -⟩ | ⟨-, -, -, heq⟩⟩
  · cases hnone
  all_goals obtain rfl : text = text' := Option.some.inj hsome
  · rw [DataChannel.isNegotiated_of_openWith hopen] at hidle
    cases hidle
  · rcases hinvalid with hinvalid | ⟨c, hc, hcontrol⟩
    · exact absurd hinvalid hroot
    · rw [hclean c hc] at hcontrol
      cases hcontrol
  · exact heq

/-- The attributes of a unit that a `STOR` has committed are those of the path that its argument leads to. -/
theorem exists_lookup_of_committed {y : Exchange Memory} {settings : StoreSettings} {argument : Option String}
    {g : FlowUnit} (h : (y.store settings argument).2.pipeline.committed = y.pipeline.committed ++ [g]) :
    ∃ text b, argument = some text ∧ y.lookup text = b.target ∧ Incoming.Delivers b g := by
  rcases y.committed_store settings argument with ⟨target, stream, f, hreceives, hdelivers, heq⟩ | ⟨-, heq⟩
  · obtain ⟨text, rfl, rfl, -⟩ := eq_of_storeTarget_eq_ok hreceives.target
    obtain rfl : f = g := List.singleton_inj.1 (List.append_cancel_left (heq.symm.trans h))
    exact ⟨text, _, rfl, rfl, hdelivers⟩
  · rw [heq] at h
    exact absurd (List.self_eq_append_right.1 h) (List.cons_ne_nil g [])

/--
**The attributes of a stored unit identify its target.** A client stands in any directory and stores under any argument
that leads to something else than the root and is free of control characters. If there is a data connection, whose
stream comes to its end, and a factory, one unit is committed. Its path attribute begins and ends with a slash, its
filename attribute is a name, and the two together are the text of the path that the argument leads to, which leads
there again.

Any other unit that a `STOR` commits, of whatever client and from whatever directory, has the same two attributes just
if the argument of that `STOR` led to the same path.
-/
theorem attributes_identify (x : Exchange Memory) (settings : StoreSettings) {text : String} {stream : DataStream}
    {factory : FactoryId} (hroot : x.lookup text ≠ Path.root) (hclean : ∀ c ∈ text.toList, isControl c = false)
    (hopen : x.client.channel.openWith x.circumstances.dial = .ok stream) (hwait : x.factoryWait = .factory factory)
    (hend : stream.ending = none) :
    ∃ f path name,
      (x.store settings (some text)).2.pipeline.committed = x.pipeline.committed ++ [f] ∧
      f.attribute? pathAttribute = some path ∧ f.attribute? filenameAttribute = some name ∧
      path.toList.head? = some '/' ∧ path.toList.getLast? = some '/' ∧ IsName name ∧
      path ++ name = toString (x.lookup text) ∧ Path.parse (path ++ name) = x.lookup text ∧
      ∀ (y : Exchange Memory) settings' argument' g,
        (y.store settings' argument').2.pipeline.committed = y.pipeline.committed ++ [g] →
        ∃ text', argument' = some text' ∧
          ((g.attribute? pathAttribute = some path ∧ g.attribute? filenameAttribute = some name) ↔
            y.lookup text' = x.lookup text) := by
  have hreceives := receives_of_valid hroot hclean hopen hwait hend
  rcases x.committed_store settings (some text) with ⟨target, stream', f, hreceived, hdelivers, heq⟩ | ⟨hnot, -⟩
  · obtain rfl : target = x.lookup text := Except.ok.inj (hreceived.target.symm.trans hreceives.target)
    have htext := Path.containerText_append_fileName hroot
    obtain ⟨hfirst, hlast⟩ := Path.slash_containerText hroot
    refine ⟨f, _, _, heq, hdelivers.path, hdelivers.filename, hfirst, hlast, Path.isName_fileName hroot, htext, ?_, ?_⟩
    · rw [htext]
      exact Path.parse_toString _
    · -- the other upload may come from any other directory, through any other text
      intro y settings' argument' g hg
      obtain ⟨text', b, rfl, htarget, hdelivers'⟩ := exists_lookup_of_committed hg
      refine ⟨text', rfl, ?_⟩
      have hiff := hdelivers'.attributes_eq_iff hdelivers
      rw [hdelivers.path, hdelivers.filename, ← htarget] at hiff
      exact hiff
  · exact absurd hreceives (hnot _ _)

/-- A relative argument with backslashes in a directory, and an absolute one from the root. -/
theorem attributes_identify_of_backslashes :
    let client : Client :=
      { peer := ⟨.v4 .loopback, 40000⟩, here := ⟨.v4 .loopback, 2121⟩, channel := .active ⟨.v4 .loopback, 40001⟩ }
    let meets : Circumstances := { dial := .connected (.v4 .loopback) { arriving := [[1, 2], [3]] } }
    let y : Exchange Memory :=
      { client, tree := (Tree.empty.create (Path.parse "/a")).2, surroundings := { slot := ⟨some 0⟩ }, pipeline := {},
        circumstances := meets }
    let x : Exchange Memory := { y with client := { client with cursor := ⟨Path.parse "/a"⟩ } }
    x.lookup "b\\..\\c d" ≠ Path.root ∧
      ∃ f path name, (x.store ⟨8192, 100, 5⟩ (some "b\\..\\c d")).2.pipeline.committed = [f] ∧
        f.attribute? pathAttribute = some path ∧ f.attribute? filenameAttribute = some name ∧ path ++ name = "/a/c d" ∧
        ∀ g, (y.store ⟨1, 100, 5⟩ (some "/a//c d")).2.pipeline.committed = [g] →
          g.attribute? pathAttribute = some path ∧ g.attribute? filenameAttribute = some name := by
  intro client meets y x
  have hroot : x.lookup "b\\..\\c d" ≠ Path.root := by decide
  have hclean : "b\\..\\c d".toList.any isControl = false := by decide
  have hopen : x.client.channel.openWith x.circumstances.dial = .ok { arriving := [[1, 2], [3]] } := rfl
  have hwait : x.factoryWait = .factory 0 := rfl
  obtain ⟨f, path, name, hcommitted, hpath, hname, -, -, -, htext, -, hother⟩ :=
    attributes_identify x ⟨8192, 100, 5⟩ hroot
      (fun c hc => Bool.eq_false_iff.2 (List.any_eq_false.1 hclean c hc)) hopen hwait rfl
  have hshown : toString (x.lookup "b\\..\\c d") = "/a/c d" := by decide
  refine ⟨hroot, f, path, name, hcommitted, hpath, hname, htext.trans hshown, fun g hg => ?_⟩
  obtain ⟨text, hsome, hiff⟩ := hother y ⟨1, 100, 5⟩ _ g hg
  obtain rfl : "/a//c d" = text := Option.some.inj hsome
  exact hiff.2 (by decide)

end Exchange

end FtpIntake
