import FtpIntake.Proofs.Pipeline.Memory

/-!
# The history of the pipeline in memory

Many work sessions share the pipeline, and their calls come in any order. A work session belongs to one holder, who
gives it away when it is committed, rolled back or dropped, so no call comes before it was opened or after it has ended.
Such a history decides everything that can be seen downstream, and it does so one work session at a time.

There are two readings of a history. The pipeline itself works it off call by call, with the units of all open work
sessions in memory. Downstream it is read from the end: of the events those of one work session are picked out, and of
these the numbers that it was given, the bytes that it has written and the values that it has put. That the two agree is
shown by an invariant, since what a call does to the units in memory depends on all calls before it.

* **`unitsTold`** is the second reading. It makes out the units of a work session from its own calls alone: the writes
  one after the other, the last value put for each key and the last route.
* **`Ledger`** is the invariant that ties the pipeline to this reading. `Ledger.perform` keeps it over one call of any
  work session, and `Ledger.after` over a whole history.
* **`committed_after`** is what follows for what is published, and for what the next call is answered.

The numbers of the units are bounded in `committed_after`: a number is kept in 64 bits, and behind the last of them
the pipeline would give the first one again.
-/

namespace FtpIntake

/-! ## Calls and answers

A history is a list of calls of any number of work sessions, in the order in which they come. With the answer that
each gets it is a list of events. -/

/-- What the holder of a work session does to one of its units. -/
inductive UnitChange where
  | write (bytes : Bytes)
  | putAttribute (key value : String)
  | transfer (relationship : String)

/-- A call, with the work session that makes it. -/
inductive WorkCall where
  | openWork
  | createUnit (work : WorkId)
  | change (work : WorkId) (unit : UnitId) (change : UnitChange)
  | commit (work : WorkId)
  | rollback (work : WorkId)
  /-- The work session goes away without an end of its own. -/
  | drop (work : WorkId)

/-- What the pipeline gives back: a number, whether the call has succeeded, or nothing at all. -/
inductive WorkAnswer where
  | opened (work : WorkId)
  | created (unit : UnitId)
  | result (result : Except PipelineFault Unit)
  | nothing

/-- A call with what it was answered. -/
structure WorkEvent where
  call : WorkCall
  answer : WorkAnswer

/-- The work session that makes the call; opening one is a call of the factory. -/
def WorkCall.work? : WorkCall → Option WorkId
  | .openWork => none
  | .createUnit work | .change work _ _ | .commit work | .rollback work | .drop work => some work

/-- The change as it is made to a unit in memory. -/
def UnitChange.apply : UnitChange → FlowUnit → FlowUnit
  | .write bytes, u => u.append bytes
  | .putAttribute key value, u => u.setAttribute key value
  | .transfer relationship, u => u.route relationship

namespace Memory

def changeUnit (m : Memory) (work : WorkId) (unit : UnitId) : UnitChange → Except PipelineFault Unit × Memory
  | .write bytes => Pipeline.write work unit bytes m
  | .putAttribute key value => Pipeline.putAttribute work unit key value m
  | .transfer relationship => Pipeline.transfer work unit relationship m

/-- The call as the pipeline takes it. -/
def perform (m : Memory) : WorkCall → WorkAnswer × Memory
  | .openWork => (.opened (Pipeline.openWork m).1, (Pipeline.openWork m).2)
  | .createUnit work => (.created (Pipeline.createUnit work m).1, (Pipeline.createUnit work m).2)
  | .change work unit change => (.result (m.changeUnit work unit change).1, (m.changeUnit work unit change).2)
  | .commit work => (.result (Pipeline.commit work m).1, (Pipeline.commit work m).2)
  | .rollback work => (.nothing, Pipeline.rollback work m)
  | .drop work => (.nothing, m.drop work)

/-- Whether there is somebody to make the call: its work session has been opened and has not ended. -/
def admits (m : Memory) (call : WorkCall) : Bool :=
  call.work?.all m.isOpen

/-- Whether the calls can be made one after the other. -/
def admitsAll (m : Memory) : List WorkCall → Bool
  | [] => true
  | call :: rest => m.admits call && (m.perform call).2.admitsAll rest

def after (m : Memory) (calls : List WorkCall) : Memory :=
  calls.foldl (fun m call => (m.perform call).2) m

/-- The calls with the answers that they get one after the other. -/
def events (m : Memory) : List WorkCall → List WorkEvent
  | [] => []
  | call :: rest => ⟨call, (m.perform call).1⟩ :: (m.perform call).2.events rest

end Memory

/-! ## What the events tell

Everything that the statement says of the pipeline is told by the events alone: which work sessions have committed,
which units they have created, and what these hold. Only then is it compared with the memory. -/

/-- A unit as it is seen downstream, where attributes have no order. -/
structure UnitView where
  id : UnitId
  content : Bytes
  attribute? : String → Option String
  relationship : Option String

/-- A unit in memory as it is seen downstream. -/
def FlowUnit.view (u : FlowUnit) : UnitView :=
  ⟨u.id, u.content, u.attribute?, u.relationship⟩

namespace UnitChange

def bytes : UnitChange → Bytes
  | .write bytes => bytes
  | _ => []

def value? (key : String) : UnitChange → Option String
  | .putAttribute k value => if k = key then some value else none
  | _ => none

def route? : UnitChange → Option String
  | .transfer relationship => some relationship
  | _ => none

end UnitChange

namespace UnitView

/-- A unit that was changed in this way: all that was written, the last value of each key, and the last route. -/
def ofChanges (id : UnitId) (changes : List UnitChange) : UnitView where
  id
  content := changes.flatMap UnitChange.bytes
  attribute? key := (changes.filterMap (UnitChange.value? key)).getLast?
  relationship := (changes.filterMap UnitChange.route?).getLast?

def change (v : UnitView) : UnitChange → UnitView
  | .write bytes => { v with content := v.content ++ bytes }
  | .putAttribute key value => { v with attribute? := fun k => if k = key then some value else v.attribute? k }
  | .transfer relationship => { v with relationship := some relationship }

/-- What the last of some values is after one more: the new one if there is one, and else the last before. -/
theorem getLast?_filterMap_append {α β : Type} (f : α → Option β) (xs : List α) (x : α) :
    ((xs ++ [x]).filterMap f).getLast? = (f x).or (xs.filterMap f).getLast? := by
  rw [List.filterMap_append, List.getLast?_append]
  cases h : f x <;> simp [h]

/-- One more change is seen as that change of the unit before. -/
theorem ofChanges_append (id : UnitId) (changes : List UnitChange) (c : UnitChange) :
    ofChanges id (changes ++ [c]) = (ofChanges id changes).change c := by
  unfold ofChanges
  simp only [getLast?_filterMap_append, List.flatMap_append, List.flatMap_singleton]
  cases c with
  | write bytes => rfl
  | putAttribute key value =>
    -- the value of the last put stands in front of all that were put before, for its own key
    have hvalue (k : String) (last : Option String) :
        (UnitChange.value? k (.putAttribute key value)).or last = if k = key then some value else last := by
      by_cases hk : k = key
      · rw [if_pos hk, UnitChange.value?, if_pos hk.symm, Option.some_or]
      · rw [if_neg hk, UnitChange.value?, if_neg (Ne.symm hk), Option.none_or]
    simp only [hvalue, UnitChange.bytes, List.append_nil]
    rfl
  | transfer relationship =>
    simp only [UnitChange.bytes, List.append_nil]
    rfl

/-- Changing a unit in memory and changing what is seen of it come to the same. -/
theorem view_apply (c : UnitChange) (u : FlowUnit) : (c.apply u).view = u.view.change c := by
  cases c with
  | write bytes =>
    show UnitView.mk u.id (u.append bytes).content u.attribute? u.relationship = _
    rw [FlowUnit.content_append]
    rfl
  | putAttribute key value =>
    have hattribute : (u.setAttribute key value).attribute? = fun k => if k = key then some value else u.attribute? k :=
      funext fun k => FlowUnit.attribute?_setAttribute u key value k
    show UnitView.mk u.id u.content (u.setAttribute key value).attribute? u.relationship = _
    rw [hattribute]
    rfl
  | transfer relationship => rfl

end UnitView

def WorkEvent.created? (e : WorkEvent) : Option UnitId :=
  match e.answer with
  | .created unit => some unit
  | _ => none

/-- The change of the unit that the event made. A call that failed made none. -/
def WorkEvent.changed? (unit : UnitId) : WorkEvent → Option UnitChange
  | ⟨.change _ u change, .result (.ok ())⟩ => if u = unit then some change else none
  | _ => none

def WorkEvent.committed? : WorkEvent → Option WorkId
  | ⟨.commit work, .result (.ok ())⟩ => some work
  | _ => none

def WorkEvent.isOpening : WorkEvent → Bool
  | ⟨.openWork, _⟩ => true
  | _ => false

def WorkEvent.isRollback : WorkEvent → Bool
  | ⟨.rollback _, _⟩ => true
  | _ => false

namespace Memory

/-- The numbers that were given to units, in order. -/
def createdIn (events : List WorkEvent) : List UnitId :=
  events.filterMap WorkEvent.created?

/-- The changes that were made to a unit, by whichever work session. -/
def changesOf (unit : UnitId) (events : List WorkEvent) : List UnitChange :=
  events.filterMap (WorkEvent.changed? unit)

/-- The work sessions whose commit has succeeded, in the order of the commits. -/
def commits (events : List WorkEvent) : List WorkId :=
  events.filterMap WorkEvent.committed?

/-- The events of one work session. -/
def ofWork (work : WorkId) (events : List WorkEvent) : List WorkEvent :=
  events.filter fun e => e.call.work? == some work

/-- The units of a work session, told by its own events, in the order in which it created them. -/
def unitsTold (work : WorkId) (events : List WorkEvent) : List UnitView :=
  (createdIn (ofWork work events)).map fun id => .ofChanges id (changesOf id (ofWork work events))

/-! ## One more event

The last event adds to the units of the work session that made the call, and to no others. -/

variable {events : List WorkEvent} {e : WorkEvent} {work : WorkId}

theorem createdIn_append (a b : List WorkEvent) : createdIn (a ++ b) = createdIn a ++ createdIn b :=
  List.filterMap_append

theorem changesOf_append (unit : UnitId) (a b : List WorkEvent) :
    changesOf unit (a ++ b) = changesOf unit a ++ changesOf unit b :=
  List.filterMap_append

theorem commits_append (a b : List WorkEvent) : commits (a ++ b) = commits a ++ commits b :=
  List.filterMap_append

theorem createdIn_append_of_none (h : e.created? = none) : createdIn (events ++ [e]) = createdIn events := by
  rw [createdIn_append, show createdIn [e] = [] from List.filterMap_cons_none h, List.append_nil]

theorem commits_append_of_none (h : e.committed? = none) : commits (events ++ [e]) = commits events := by
  rw [commits_append, show commits [e] = [] from List.filterMap_cons_none h, List.append_nil]

/-- An event that does not count leaves the number as it was. -/
theorem countP_append_of_false {p : WorkEvent → Bool} (h : p e = false) :
    (events ++ [e]).countP p = events.countP p := by
  have hnone : [e].countP p = 0 := List.countP_eq_zero.2 (List.forall_mem_singleton.2 (Bool.eq_false_iff.1 h))
  rw [List.countP_append, hnone, Nat.add_zero]

/-- The last event belongs to the work session that made the call. -/
theorem ofWork_append_self (h : e.call.work? = some work) : ofWork work (events ++ [e]) = ofWork work events ++ [e] := by
  unfold ofWork
  rw [List.filter_append, List.filter_cons_of_pos (by rw [h]; exact beq_self_eq_true _), List.filter_nil]

/-- To all others nothing has happened. -/
theorem ofWork_append_other (h : e.call.work? ≠ some work) : ofWork work (events ++ [e]) = ofWork work events := by
  unfold ofWork
  rw [List.filter_append, List.filter_cons_of_neg (by simpa using h), List.filter_nil, List.append_nil]

theorem createdIn_ofWork_sublist (work : WorkId) (events : List WorkEvent) :
    (createdIn (ofWork work events)).Sublist (createdIn events) :=
  List.filter_sublist.filterMap _

/-- A unit that nobody has changed was not changed by this work session either. -/
theorem changesOf_ofWork_eq_nil {unit : UnitId} (h : changesOf unit events = []) (work : WorkId) :
    changesOf unit (ofWork work events) = [] := by
  have hsublist : (changesOf unit (ofWork work events)).Sublist (changesOf unit events) :=
    List.filter_sublist.filterMap _
  rw [h] at hsublist
  exact List.sublist_nil.1 hsublist

theorem unitsTold_append_other (h : e.call.work? ≠ some work) :
    unitsTold work (events ++ [e]) = unitsTold work events := by
  unfold unitsTold
  rw [ofWork_append_other h]

/-- A call is seen in the units of the caller only. -/
theorem unitsTold_append_ne {w : WorkId} (h : e.call.work? = some work) (hne : w ≠ work) :
    unitsTold w (events ++ [e]) = unitsTold w events := by
  apply unitsTold_append_other
  rw [h]
  exact fun hsame => hne (Option.some.inj hsame).symm

/-- An event that neither creates nor changes anything tells nothing about units. -/
theorem unitsTold_append_quiet (hcreated : e.created? = none) (hchanged : ∀ unit, e.changed? unit = none)
    (work : WorkId) : unitsTold work (events ++ [e]) = unitsTold work events := by
  by_cases hwork : e.call.work? = some work
  · have hnothing : createdIn [e] = [] := List.filterMap_cons_none hcreated
    have hsame (unit : UnitId) : changesOf unit [e] = [] := List.filterMap_cons_none (hchanged unit)
    unfold unitsTold
    simp only [ofWork_append_self hwork, createdIn_append, changesOf_append, hnothing, hsame, List.append_nil]
  · exact unitsTold_append_other hwork

/-- A new unit is the last one, and is empty if its number has not been seen before. -/
theorem unitsTold_append_created {unit : UnitId} (hfresh : changesOf unit events = []) :
    unitsTold work (events ++ [⟨.createUnit work, .created unit⟩]) =
      unitsTold work events ++ [.ofChanges unit []] := by
  have hcreated : createdIn [⟨.createUnit work, .created unit⟩] = [unit] := rfl
  have hchanged (id : UnitId) : changesOf id [⟨.createUnit work, .created unit⟩] = [] := rfl
  unfold unitsTold
  simp only [ofWork_append_self (e := ⟨.createUnit work, .created unit⟩) rfl, createdIn_append, changesOf_append,
    hcreated, hchanged, List.append_nil, List.map_append, List.map_singleton, changesOf_ofWork_eq_nil hfresh work]

/-- A change is seen in the unit of its number, and in no other. -/
theorem unitsTold_append_changed (unit : UnitId) (c : UnitChange) :
    unitsTold work (events ++ [⟨.change work unit c, .result (.ok ())⟩]) =
      (unitsTold work events).map fun v => if v.id = unit then v.change c else v := by
  have hcreated : createdIn [⟨.change work unit c, .result (.ok ())⟩] = [] := rfl
  unfold unitsTold
  rw [ofWork_append_self (e := ⟨.change work unit c, .result (.ok ())⟩) rfl, createdIn_append, hcreated,
    List.append_nil, List.map_map]
  -- the units are the same as before, one by one, and only that of the number has one more change
  apply List.map_congr_left
  intro id _
  rw [changesOf_append, Function.comp_apply]
  by_cases hid : unit = id
  · have hchanged : changesOf id [⟨.change work unit c, .result (.ok ())⟩] = [c] :=
      List.filterMap_cons_some (if_pos hid)
    rw [hchanged, UnitView.ofChanges_append]
    exact (if_pos hid.symm).symm
  · have hchanged : changesOf id [⟨.change work unit c, .result (.ok ())⟩] = [] :=
      List.filterMap_cons_none (if_neg hid)
    rw [hchanged, List.append_nil]
    exact (if_neg (Ne.symm hid)).symm

/-- Who has committed has made a call. -/
theorem exists_of_mem_commits (h : work ∈ commits events) : ∃ e ∈ events, e.call.work? = some work := by
  obtain ⟨e, he, hcommitted⟩ := List.mem_filterMap.1 h
  refine ⟨e, he, ?_⟩
  unfold WorkEvent.committed? at hcommitted
  split at hcommitted
  · exact hcommitted
  · cases hcommitted

/-! ## The ledger

The invariant: what is in memory is what the events tell, for the units that are published and for those of the work
sessions that are open. A call is at the end of the history, so each kind of call is one lemma about one more event. -/

theorem isOpen_of_lookup {m : Memory} {units : List FlowUnit} (h : m.openWorks.lookup work = some units) :
    m.isOpen work = true := by
  unfold isOpen
  rw [h]
  rfl

/-- An open work session has its units in memory. -/
theorem exists_lookup_of_isOpen {m : Memory} (h : m.isOpen work = true) :
    ∃ units, m.openWorks.lookup work = some units ∧ m.unitsOf work = units := by
  obtain ⟨units, hunits⟩ := Option.isSome_iff_exists.1 h
  refine ⟨units, hunits, ?_⟩
  rw [unitsOf, hunits]
  rfl

/-- What is still open after a work session has gone is another one, and was open before. -/
theorem lookup_of_lookup_drop {m : Memory} {w : WorkId} {units : List FlowUnit}
    (h : (m.drop work).openWorks.lookup w = some units) : w ≠ work ∧ m.openWorks.lookup w = some units := by
  rw [lookup_drop] at h
  by_cases hw : w = work
  · rw [if_pos hw] at h
    cases h
  · rw [if_neg hw] at h
    exact ⟨hw, h⟩

/-- The three changes go the same way: they look for the unit and fail if it is not there. -/
theorem changeUnit_eq (m : Memory) (work : WorkId) (unit : UnitId) (c : UnitChange) :
    m.changeUnit work unit c = m.updateUnit work unit c.apply := by
  cases c <;> rfl

/-- The pipeline is as the events tell. -/
structure Ledger (m : Memory) (events : List WorkEvent) : Prop where
  opened : m.worksOpened = events.countP WorkEvent.isOpening
  rolledBack : m.rollbacks = events.countP WorkEvent.isRollback
  named : ∀ e ∈ events, ∀ work, e.call.work? = some work → work < m.worksOpened
  known : ∀ work, m.isOpen work = true → work < m.worksOpened
  increasing : (createdIn events).Pairwise (· < ·)
  given : ∀ unit ∈ createdIn events, unit ≤ m.lastUnit
  fresh : ∀ unit, m.lastUnit < unit → changesOf unit events = []
  units : ∀ work units, m.openWorks.lookup work = some units → units.map FlowUnit.view = unitsTold work events
  ended : ∀ work ∈ commits events, m.isOpen work = false
  published : m.committed.map FlowUnit.view = (commits events).flatMap fun work => unitsTold work events

/-- Nothing has happened to a new pipeline. -/
theorem ledger_new : Ledger {} [] where
  opened := rfl
  rolledBack := rfl
  named := nofun
  known := nofun
  increasing := .nil
  given := nofun
  fresh _ _ := rfl
  units := nofun
  ended := nofun
  published := rfl

namespace Ledger

variable {m : Memory}

/-- A work session that calls was opened before. -/
theorem named_append (h : Ledger m events) (hcall : m.admits e.call = true) :
    ∀ e' ∈ events ++ [e], ∀ work, e'.call.work? = some work → work < m.worksOpened := by
  refine List.forall_mem_append.2 ⟨h.named, List.forall_mem_singleton.2 ?_⟩
  intro work hwork
  rw [admits, hwork] at hcall
  exact h.known work hcall

/-- A work session that has published its units is not open, so a call of an open one cannot change what it has
published. -/
theorem published_append (h : Ledger m events) (hopen : m.isOpen work = true) (hwork : e.call.work? = some work) :
    ((commits events).flatMap fun work => unitsTold work (events ++ [e])) =
      (commits events).flatMap fun work => unitsTold work events := by
  apply List.flatMap_congr
  intro ended hended
  refine unitsTold_append_other fun hother => ?_
  obtain rfl : work = ended := Option.some.inj (hwork.symm.trans hother)
  exact Bool.false_ne_true ((h.ended work hended).symm.trans hopen)

/-- The numbers of the units in memory are those that were given to the work session. -/
theorem ids_unitsOf (h : Ledger m events) (hopen : m.isOpen work = true) :
    (m.unitsOf work).map (·.id) = createdIn (ofWork work events) := by
  obtain ⟨units, hunits, hunitsOf⟩ := exists_lookup_of_isOpen hopen
  have hids : (units.map FlowUnit.view).map UnitView.id = (unitsTold work events).map UnitView.id :=
    congrArg _ (h.units work units hunits)
  rw [unitsTold, List.map_map, List.map_map] at hids
  rw [hunitsOf]
  exact hids.trans (List.map_id _)

/-- Whether a unit is found in memory is decided by the calls of its work session. -/
theorem mem_unitsOf_iff (h : Ledger m events) (hopen : m.isOpen work = true) {unit : UnitId} :
    (∃ u ∈ m.unitsOf work, u.id = unit) ↔ unit ∈ createdIn (ofWork work events) := by
  rw [← h.ids_unitsOf hopen, List.mem_map]

/-- An event that creates, changes and commits nothing leaves the ledger as it is, and may end work sessions. -/
theorem append_quiet (h : Ledger m events) {m' : Memory} {openWorks : List (WorkId × List FlowUnit)}
    (heq : m' = { m with openWorks, rollbacks := m.rollbacks + [e].countP WorkEvent.isRollback })
    (hcreated : e.created? = none) (hchanged : ∀ unit, e.changed? unit = none) (hcommitted : e.committed? = none)
    (hopening : e.isOpening = false) (hcall : m.admits e.call = true)
    (hlookup : ∀ work units, openWorks.lookup work = some units → m.openWorks.lookup work = some units) :
    Ledger m' (events ++ [e]) := by
  subst heq
  have hcreatedIn : createdIn (events ++ [e]) = createdIn events := createdIn_append_of_none hcreated
  have hcommits : commits (events ++ [e]) = commits events := commits_append_of_none hcommitted
  have hopen (work : WorkId) (hopen : (openWorks.lookup work).isSome = true) : m.isOpen work = true := by
    obtain ⟨units, hunits⟩ := Option.isSome_iff_exists.1 hopen
    exact isOpen_of_lookup (hlookup work units hunits)
  have htold (work : WorkId) : unitsTold work (events ++ [e]) = unitsTold work events :=
    unitsTold_append_quiet hcreated hchanged work
  -- all that is told stays as it was; only the open work sessions may have become fewer
  refine ⟨?_, ?_, h.named_append hcall, fun work hwork => h.known work (hopen work hwork), ?_, ?_, ?_, ?_, ?_, ?_⟩
  · rw [countP_append_of_false hopening, ← h.opened]
  · rw [List.countP_append, ← h.rolledBack]
  · rw [hcreatedIn]
    exact h.increasing
  · rw [hcreatedIn]
    exact h.given
  · intro unit hunit
    rw [changesOf_append, h.fresh unit hunit]
    exact List.filterMap_cons_none (hchanged unit)
  · intro work units hunits
    rw [htold work]
    exact h.units work units (hlookup work units hunits)
  · intro work hwork
    rw [hcommits] at hwork
    refine Bool.eq_false_iff.2 fun hstill => ?_
    exact Bool.false_ne_true ((h.ended work hwork).symm.trans (hopen work hstill))
  · rw [hcommits]
    simp only [htold]
    exact h.published

/-- Opening a work session gives it a number that no call has named. -/
theorem perform_openWork (h : Ledger m events) :
    Ledger (m.perform .openWork).2 (events ++ [⟨.openWork, (m.perform .openWork).1⟩]) := by
  have htold (work : WorkId) : unitsTold work (events ++ [⟨.openWork, (m.perform .openWork).1⟩]) =
      unitsTold work events := unitsTold_append_quiet rfl (fun _ => rfl) work
  have hlookup (work : WorkId) : (m.perform .openWork).2.openWorks.lookup work =
      if work = m.worksOpened then some [] else m.openWorks.lookup work := m.lookup_openWork work
  have hcreated : createdIn (events ++ [⟨.openWork, (m.perform .openWork).1⟩]) = createdIn events :=
    createdIn_append_of_none rfl
  have hcommits : commits (events ++ [⟨.openWork, (m.perform .openWork).1⟩]) = commits events :=
    commits_append_of_none rfl
  refine ⟨?_, ?_, ?_, ?_, ?_, ?_, ?_, ?_, ?_, ?_⟩
  · rw [List.countP_append, ← h.opened]
    rfl
  · rw [List.countP_append, ← h.rolledBack]
    rfl
  · refine List.forall_mem_append.2 ⟨fun e he work hwork => ?_, List.forall_mem_singleton.2 nofun⟩
    exact Nat.lt_succ_of_lt (h.named e he work hwork)
  · intro work hwork
    rw [isOpen, hlookup] at hwork
    by_cases hnew : work = m.worksOpened
    · rw [hnew]
      exact Nat.lt_succ_self _
    · rw [if_neg hnew] at hwork
      exact Nat.lt_succ_of_lt (h.known work hwork)
  · rw [hcreated]
    exact h.increasing
  · rw [hcreated]
    exact h.given
  · intro unit hunit
    rw [changesOf_append, h.fresh unit hunit]
    rfl
  · intro work units hunits
    rw [htold]
    rw [hlookup] at hunits
    by_cases hnew : work = m.worksOpened
    · -- nobody has called this work session, because all that were called have smaller numbers
      rw [if_pos hnew] at hunits
      obtain rfl := Option.some.inj hunits
      have hnone : ofWork work events = [] := by
        refine List.filter_eq_nil_iff.2 fun e he hwork => ?_
        exact Nat.lt_irrefl _ (hnew ▸ h.named e he work (beq_iff_eq.1 hwork))
      unfold unitsTold
      rw [hnone]
      rfl
    · rw [if_neg hnew] at hunits
      exact h.units work units hunits
  · intro work hwork
    rw [hcommits] at hwork
    have hended := h.ended work hwork
    have hbefore : work ≠ m.worksOpened := by
      rintro rfl
      obtain ⟨e, he, hcall⟩ := exists_of_mem_commits hwork
      exact Nat.lt_irrefl _ (h.named e he _ hcall)
    rw [isOpen, hlookup, if_neg hbefore]
    exact hended
  · rw [hcommits]
    simp only [htold]
    exact h.published

/-- An event of an open work session that ends no work session changes the units of that one. What is left to show is
that its own units are as told, and that the numbers go on increasing. -/
theorem append_own (h : Ledger m events) {m' : Memory} {change : List FlowUnit → List FlowUnit}
    (hframe : ∃ openWorks lastUnit, m' = { m with openWorks, lastUnit }) (hopen : m.isOpen work = true)
    (hwork : e.call.work? = some work) (hopening : e.isOpening = false) (hrollback : e.isRollback = false)
    (hcommitted : e.committed? = none)
    (hlookup : ∀ w, m'.openWorks.lookup w =
      if w = work then (m.openWorks.lookup w).map change else m.openWorks.lookup w)
    (hunits : ∀ units, units.map FlowUnit.view = unitsTold work events →
      (change units).map FlowUnit.view = unitsTold work (events ++ [e]))
    (hincreasing : (createdIn (events ++ [e])).Pairwise (· < ·))
    (hgiven : ∀ unit ∈ createdIn (events ++ [e]), unit ≤ m'.lastUnit)
    (hfresh : ∀ unit, m'.lastUnit < unit → changesOf unit (events ++ [e]) = []) : Ledger m' (events ++ [e]) := by
  have hstill (w : WorkId) : m'.isOpen w = m.isOpen w := by
    rw [isOpen, hlookup, isOpen]
    by_cases hw : w = work
    · rw [if_pos hw, Option.isSome_map]
    · rw [if_neg hw]
  have hcommits : commits (events ++ [e]) = commits events := commits_append_of_none hcommitted
  have hcall : m.admits e.call = true := by
    rw [admits, hwork]
    exact hopen
  obtain ⟨openWorks, lastUnit, rfl⟩ := hframe
  refine ⟨?_, ?_, h.named_append hcall, fun w hw => ?_, hincreasing, hgiven, hfresh, fun w units hw => ?_,
    fun w hw => ?_, ?_⟩
  · rw [countP_append_of_false hopening, ← h.opened]
  · rw [countP_append_of_false hrollback, ← h.rolledBack]
  · rw [hstill] at hw
    exact h.known w hw
  · rw [hlookup] at hw
    by_cases hsame : w = work
    · -- the work session that has called; all others are told as before
      subst hsame
      rw [if_pos rfl] at hw
      obtain ⟨before, hbefore, rfl⟩ := Option.map_eq_some_iff.1 hw
      exact hunits before (h.units w before hbefore)
    · rw [if_neg hsame] at hw
      rw [unitsTold_append_ne hwork hsame]
      exact h.units w units hw
  · rw [hcommits] at hw
    rw [hstill]
    exact h.ended w hw
  · rw [hcommits, h.published_append hopen hwork]
    exact h.published

/-- Creating a unit gives it a number above all others, so that nobody has changed it yet. -/
theorem perform_createUnit (h : Ledger m events) (hopen : m.isOpen work = true) :
    Ledger (m.perform (.createUnit work)).2
      (events ++ [⟨.createUnit work, (m.perform (.createUnit work)).1⟩]) := by
  have hevent : (m.perform (.createUnit work)).1 = .created (m.lastUnit + 1) := rfl
  rw [hevent]
  have hcreated : createdIn (events ++ [⟨.createUnit work, .created (m.lastUnit + 1)⟩]) =
      createdIn events ++ [m.lastUnit + 1] := createdIn_append _ _
  refine h.append_own ⟨_, _, rfl⟩ hopen rfl rfl rfl rfl (m.lookup_createUnit work) (fun units hunits => ?_) ?_ ?_ ?_
  · rw [unitsTold_append_created (h.fresh _ (Nat.lt_succ_self _)), List.map_append, hunits]
    rfl
  · -- the new number is larger than all that were given
    rw [hcreated]
    refine List.pairwise_append.2 ⟨h.increasing, List.pairwise_singleton _ _, fun a ha b hb => ?_⟩
    rw [List.mem_singleton.1 hb]
    exact Nat.lt_succ_of_le (h.given a ha)
  · rw [hcreated]
    refine List.forall_mem_append.2 ⟨fun unit hunit => ?_, List.forall_mem_singleton.2 (Nat.le_refl _)⟩
    exact Nat.le_succ_of_le (h.given unit hunit)
  · intro unit hunit
    rw [changesOf_append, h.fresh unit (Nat.lt_of_succ_lt hunit)]
    rfl

/-- A change that succeeds is made to the units of its number, and these are in the work session that made the call. -/
theorem perform_changed (h : Ledger m events) (hopen : m.isOpen work = true) {unit : UnitId} {c : UnitChange}
    (hunit : ∃ u ∈ m.unitsOf work, u.id = unit) :
    Ledger (m.updateUnit work unit c.apply).2 (events ++ [⟨.change work unit c, .result (.ok ())⟩]) := by
  have hcreated : createdIn (events ++ [⟨.change work unit c, .result (.ok ())⟩]) = createdIn events :=
    createdIn_append_of_none rfl
  obtain ⟨openWorks, hframe⟩ := m.updateUnit_snd work unit c.apply
  have hlast : (m.updateUnit work unit c.apply).2.lastUnit = m.lastUnit := by rw [hframe]
  refine h.append_own ⟨openWorks, m.lastUnit, hframe⟩ hopen rfl rfl rfl rfl (m.lookup_updateUnit work unit c.apply)
    (fun units hunits => ?_) ?_ ?_ ?_
  · rw [unitsTold_append_changed, ← hunits, List.map_map, List.map_map]
    apply List.map_congr_left
    intro u _
    rw [Function.comp_apply, Function.comp_apply]
    by_cases hu : u.id = unit
    · rw [if_pos hu, UnitView.view_apply]
      exact (if_pos hu).symm
    · rw [if_neg hu]
      exact (if_neg hu).symm
  · rw [hcreated]
    exact h.increasing
  · rw [hcreated, hlast]
    exact h.given
  · -- a number that is still to be given is not the one that was changed
    intro id hid
    rw [hlast] at hid
    have hother : unit ≠ id := by
      rintro rfl
      have hgiven := (createdIn_ofWork_sublist work events).subset ((h.mem_unitsOf_iff hopen).1 hunit)
      exact Nat.not_le_of_lt hid (h.given _ hgiven)
    rw [changesOf_append, h.fresh id hid]
    exact List.filterMap_cons_none (if_neg hother)

/-- A commit that succeeds publishes the units as they are told, and ends the work session. -/
theorem perform_committed (h : Ledger m events) (hopen : m.isOpen work = true) :
    Ledger (m.publish work) (events ++ [⟨.commit work, .result (.ok ())⟩]) := by
  obtain ⟨units, hunits, hunitsOf⟩ := exists_lookup_of_isOpen hopen
  have htold (w : WorkId) : unitsTold w (events ++ [⟨.commit work, .result (.ok ())⟩]) = unitsTold w events :=
    unitsTold_append_quiet rfl (fun _ => rfl) w
  have hcreated : createdIn (events ++ [⟨.commit work, .result (.ok ())⟩]) = createdIn events :=
    createdIn_append_of_none rfl
  have hcommits : commits (events ++ [⟨.commit work, .result (.ok ())⟩]) = commits events ++ [work] :=
    commits_append _ _
  refine ⟨?_, ?_, h.named_append hopen, fun w hw => ?_, ?_, ?_, ?_, ?_, ?_, ?_⟩
  · rw [List.countP_append, ← h.opened]
    rfl
  · rw [List.countP_append, ← h.rolledBack]
    rfl
  · obtain ⟨units, hunits, -⟩ := exists_lookup_of_isOpen hw
    exact h.known w (isOpen_of_lookup (lookup_of_lookup_drop hunits).2)
  · rw [hcreated]
    exact h.increasing
  · rw [hcreated]
    exact h.given
  · intro unit hunit
    rw [changesOf_append, h.fresh unit hunit]
    rfl
  · intro w units hunits
    rw [htold]
    exact h.units w units (lookup_of_lookup_drop hunits).2
  · -- the work session has just ended, and those that had ended before are still not open
    intro w hw
    rw [hcommits] at hw
    refine Bool.eq_false_iff.2 fun hstill => ?_
    obtain ⟨units, hunits, -⟩ := exists_lookup_of_isOpen hstill
    obtain ⟨hne, hbefore⟩ := lookup_of_lookup_drop hunits
    rcases List.mem_append.1 hw with hw | hw
    · exact Bool.false_ne_true ((h.ended w hw).symm.trans (isOpen_of_lookup hbefore))
    · exact hne (List.mem_singleton.1 hw)
  · show (m.committed ++ m.unitsOf work).map FlowUnit.view = _
    rw [hcommits, List.map_append, h.published, hunitsOf, h.units work units hunits, List.flatMap_append]
    simp only [htold, List.flatMap_singleton]

/-- **One call keeps the ledger**, whichever work session makes it. -/
theorem perform (h : Ledger m events) {call : WorkCall} (hcall : m.admits call = true) :
    Ledger (m.perform call).2 (events ++ [⟨call, (m.perform call).1⟩]) := by
  cases call with
  | openWork => exact h.perform_openWork
  | createUnit work => exact h.perform_createUnit hcall
  | change work unit c =>
    have hperform : m.perform (.change work unit c) =
        (.result (m.updateUnit work unit c.apply).1, (m.updateUnit work unit c.apply).2) := by
      rw [← changeUnit_eq]
      rfl
    rw [hperform]
    -- a change of a unit that is not there fails and leaves the pipeline as it is
    rcases m.updateUnit_cases work unit c.apply with ⟨hunit, heq⟩ | ⟨-, heq⟩
    · have hok : (m.updateUnit work unit c.apply).1 = .ok () := by rw [heq]
      rw [hok]
      exact h.perform_changed hcall hunit
    · rw [heq]
      exact h.append_quiet rfl rfl (fun _ => rfl) rfl rfl hcall fun _ _ hunits => hunits
  | commit work =>
    have hperform : m.perform (.commit work) = (.result (m.commit work).1, (m.commit work).2) := rfl
    rw [hperform]
    -- a commit that fails ends the work session all the same, with nothing published
    rcases m.commit_eq work with ⟨fault, -, heq⟩ | ⟨-, heq⟩
    · rw [heq]
      exact h.append_quiet rfl rfl (fun _ => rfl) rfl rfl hcall fun _ _ hunits => (lookup_of_lookup_drop hunits).2
    · rw [heq]
      exact h.perform_committed hcall
  | rollback work =>
    exact h.append_quiet rfl rfl (fun _ => rfl) rfl rfl hcall fun _ _ hunits => (lookup_of_lookup_drop hunits).2
  | drop work =>
    exact h.append_quiet rfl rfl (fun _ => rfl) rfl rfl hcall fun _ _ hunits => (lookup_of_lookup_drop hunits).2

/-- **A history keeps the ledger.** Induction on the calls that are still to come. -/
theorem after (h : Ledger m events) {calls : List WorkCall} (hcalls : m.admitsAll calls = true) :
    Ledger (m.after calls) (events ++ m.events calls) := by
  induction calls generalizing m events with
  | nil => exact (List.append_nil events).symm ▸ h
  | cons call calls ih =>
    obtain ⟨hcall, hrest⟩ := Bool.and_eq_true_iff.1 hcalls
    have hafter := ih (h.perform hcall) hrest
    rw [List.append_assoc] at hafter
    exact hafter

/-! ## What the next call is answered

The answers follow from the ledger, because what a call looks for in memory can be told from the events. -/

/-- Whether a unit lacks its route can be seen in memory and from the calls. -/
theorem exists_unrouted_iff (h : Ledger m events) (hopen : m.isOpen work = true) :
    (∃ v ∈ unitsTold work events, v.relationship = none) ↔ ∃ u ∈ m.unitsOf work, u.relationship = none := by
  obtain ⟨units, hunits, hunitsOf⟩ := exists_lookup_of_isOpen hopen
  rw [← h.units work units hunits, hunitsOf]
  constructor
  · rintro ⟨v, hv, hnone⟩
    obtain ⟨u, hu, rfl⟩ := List.mem_map.1 hv
    exact ⟨u, hu, hnone⟩
  · rintro ⟨u, hu, hnone⟩
    exact ⟨u.view, List.mem_map_of_mem hu, hnone⟩

/-- A change is made just if the work session has created the unit. Otherwise it changes nothing. -/
theorem change_cases (h : Ledger m events) (hopen : m.isOpen work = true) (unit : UnitId) (c : UnitChange) :
    (unit ∈ createdIn (ofWork work events) → (m.perform (.change work unit c)).1 = .result (.ok ())) ∧
      (unit ∉ createdIn (ofWork work events) →
        m.perform (.change work unit c) = (.result (.error (.unknownUnit unit)), m)) := by
  have hperform : m.perform (.change work unit c) =
      (.result (m.updateUnit work unit c.apply).1, (m.updateUnit work unit c.apply).2) := by
    rw [← changeUnit_eq]
    rfl
  rw [← h.mem_unitsOf_iff hopen, hperform]
  rcases m.updateUnit_cases work unit c.apply with ⟨hunit, heq⟩ | ⟨hnone, heq⟩
  · refine ⟨fun _ => ?_, fun hnot => absurd hunit hnot⟩
    rw [heq]
  · refine ⟨fun ⟨u, hu, hid⟩ => absurd hid (hnone u hu), fun _ => ?_⟩
    rw [heq]

/-- A commit fails just if a unit of the work session has no route, and then it publishes nothing. -/
theorem commit_cases (h : Ledger m events) (hopen : m.isOpen work = true) :
    ((∃ v ∈ unitsTold work events, v.relationship = none) ∧ (m.perform (.commit work)).2.committed = m.committed ∧
        ∃ reason, (m.perform (.commit work)).1 = .result (.error (.commit reason))) ∨
      ((∀ v ∈ unitsTold work events, v.relationship ≠ none) ∧ (m.perform (.commit work)).1 = .result (.ok ())) := by
  have hperform : m.perform (.commit work) = (.result (m.commit work).1, (m.commit work).2) := rfl
  rw [hperform]
  rcases m.commit_eq work with ⟨fault, hfault, heq⟩ | ⟨hnone, heq⟩
  · left
    -- the fault names the first unit without a route
    obtain ⟨u, hfind, rfl⟩ := Option.map_eq_some_iff.1 hfault
    have hunrouted : u.relationship = none := by simpa using List.find?_some hfind
    refine ⟨(h.exists_unrouted_iff hopen).2 ⟨u, List.mem_of_find?_eq_some hfind, hunrouted⟩, ?_, ?_⟩
    · rw [heq]
      rfl
    · rw [heq]
      exact ⟨_, rfl⟩
  · right
    have hrouted := List.find?_eq_none.1 (Option.map_eq_none_iff.1 hnone)
    refine ⟨fun v hv hunrouted => ?_, ?_⟩
    · obtain ⟨u, hu, hu'⟩ := (h.exists_unrouted_iff hopen).1 ⟨v, hv, hunrouted⟩
      exact hrouted u hu (Option.isNone_iff_eq_none.2 hu')
    · rw [heq]

end Ledger

/--
**Work sessions are transactions.** After any history of any number of work sessions, no unit number has been given
twice. What is published are, in the order of the successful commits, the units of these work sessions with increasing
numbers, and each unit holds what its own work session has written to it, the last value that it has put for each key,
and the last route that it has given it.

A work session that is still open is told that it does not know a unit if it did not create it, and then nothing
changes. Its commit fails just if one of its units has no route, and then nothing is published. The counters say how
many work sessions were opened and how many rolled back.
-/
theorem committed_after {calls : List WorkCall} (hcalls : ({} : Memory).admitsAll calls = true) :
    let m := ({} : Memory).after calls
    let events := ({} : Memory).events calls
    (createdIn events).Nodup ∧
    m.committed.map FlowUnit.view = ((commits events).flatMap fun work => unitsTold work events) ∧
    (∀ work, ((unitsTold work events).map UnitView.id).Pairwise (· < ·)) ∧
    (∀ work, m.isOpen work = true →
      (∀ unit change,
        (unit ∈ createdIn (ofWork work events) → (m.perform (.change work unit change)).1 = .result (.ok ())) ∧
        (unit ∉ createdIn (ofWork work events) →
          m.perform (.change work unit change) = (.result (.error (.unknownUnit unit)), m))) ∧
      ((∃ reason, (m.perform (.commit work)).1 = .result (.error (.commit reason))) ↔
        ∃ v ∈ unitsTold work events, v.relationship = none) ∧
      ((m.perform (.commit work)).1 ≠ .result (.ok ()) → (m.perform (.commit work)).2.committed = m.committed)) ∧
    m.worksOpened = events.countP WorkEvent.isOpening ∧ m.rollbacks = events.countP WorkEvent.isRollback := by
  intro m events
  have h : Ledger m events := ledger_new.after hcalls
  -- all of it is read off the ledger
  refine ⟨h.increasing.imp fun hlt => Nat.ne_of_lt hlt, h.published, fun work => ?_, fun work hopen => ?_,
    h.opened, h.rolledBack⟩
  · rw [unitsTold, List.map_map]
    show ((createdIn (ofWork work events)).map id).Pairwise _
    rw [List.map_id]
    exact h.increasing.sublist (createdIn_ofWork_sublist work events)
  · refine ⟨h.change_cases hopen, ?_⟩
    rcases h.commit_cases hopen with ⟨hunrouted, hsame, hfailed⟩ | ⟨hrouted, hok⟩
    · exact ⟨iff_of_true hfailed hunrouted, fun _ => hsame⟩
    · have hnot : ¬∃ reason, (m.perform (.commit work)).1 = .result (.error (.commit reason)) := by
        rw [hok]
        rintro ⟨reason, hreason⟩
        cases hreason
      exact ⟨iff_of_false hnot fun ⟨v, hv, hnone⟩ => hrouted v hv hnone, fun hfailed => absurd hok hfailed⟩

/-- Two work sessions that take turns. The second one commits first, and is refused the unit of the first one. -/
theorem committed_after_two_works :
    let calls : List WorkCall :=
      [.openWork, .createUnit 0, .openWork, .createUnit 1, .change 0 1 (.write [104]), .change 1 1 (.write [120]),
        .change 1 2 (.write [98]), .change 0 1 (.write [105]), .change 1 2 (.transfer "success"), .commit 1,
        .change 0 1 (.putAttribute "filename" "a"), .change 0 1 (.putAttribute "filename" "b"),
        .change 0 1 (.transfer "success"), .commit 0]
    let m := ({} : Memory).after calls
    let events := ({} : Memory).events calls
    ({} : Memory).admitsAll calls = true ∧ commits events = [1, 0] ∧ createdIn events = [1, 2] ∧
      m.committed.map FlowUnit.view = ([1, 0].flatMap fun work => unitsTold work events) ∧
      m.committed.map FlowUnit.content = [[98], [104, 105]] ∧ m.worksOpened = 2 := by
  intro calls m events
  have hcalls : ({} : Memory).admitsAll calls = true := by decide
  have hcommits : commits events = [1, 0] := by decide
  have hpublished := (committed_after hcalls).2.1
  rw [hcommits] at hpublished
  exact ⟨hcalls, hcommits, by decide, hpublished, by decide, by decide⟩

end Memory

end FtpIntake
