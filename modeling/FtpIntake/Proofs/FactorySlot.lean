import FtpIntake.FactorySlot
import Mathlib.Data.List.Induction

/-!
# The history of the factory slot

Everybody who has a clone of the slot can put a factory into it, ask for the factory, or wait for one. All clones are
one cell, so it does not matter through which of them a call comes. What matters is that the calls do not wait for each
other: a wait looks into the slot, looks at its shutdown signal and goes to sleep, and between any two of these steps
the others may do anything.

A wait is in one of four stages: it is about to look into the slot, about to ask for the signal, asleep, or over. From
sleep it goes back to the first look. An order of steps is then a list in which the steps of the waits stand among the
`set`s, the `get`s and what happens to the signals, and a claim about all orders is one about all such lists.

* **`Wait.Advance`** has one rule for each thing that a wait can do in one go.
* **`SlotTraffic.Kept`** is the invariant. The slot holds what the first `set` has put there, and a wait that began
  after that has not got past its first look. `Kept.step` keeps it over one step of anybody.
* **`SlotTraffic.answers_after`** is what follows for the answers, in every order of steps.
* **`Surroundings.exists_steps_of_acquire`** says that the waits of the server are among these: what happens around an
  upload is one such order.
* **`Surroundings.acquire_after_factory`** is where the two reasons to give up differ.

No order between the callers is assumed, and none is needed: every answer is decided by the list of steps up to it.
Whether a wait comes to an end at all depends on the timer and on the signal, and these are steps like all others.
-/

namespace FtpIntake

variable {φ : Type}

/-! ## Waits, step by step

A wait of an upload, told by what it does in one go: it looks, sleeps, or notices that a value was sent or that the
sender has gone. In between, others may put factories into the slot and send values. -/

/-- A shutdown signal, and how many values have been sent on it so far. -/
structure ShutdownChannel where
  signal : ShutdownSignal := {}
  sent : Nat := 0

namespace ShutdownChannel

/-- A value is sent over the channel, which everybody who waits on it notices. -/
def send (channel : ShutdownChannel) (stopping : Bool) : ShutdownChannel :=
  ⟨{ channel.signal with stopping }, channel.sent + 1⟩

/-- The sender goes away. -/
def dropSender (channel : ShutdownChannel) : ShutdownChannel :=
  { channel with signal := { channel.signal with senderGone := true } }

end ShutdownChannel

/-- Where a wait for a factory stands. -/
inductive WaitStage (φ : Type) where
  /-- It is about to look into the slot. -/
  | looking
  /-- It has found the slot empty and is about to look whether the server is stopping. -/
  | asking
  | sleeping
  | over (found : Option φ)

/-- A wait for a factory. Of the values that were sent on its channel it has seen the given number. -/
structure Wait (φ : Type) where
  channel : Nat
  seen : Nat
  stage : WaitStage φ := .looking

/-- What a wait does in one go. -/
inductive WaitStep where
  | look
  | ask
  /-- Its timer expires. -/
  | tick
  /-- It is told of a value that it has not seen, or that there will be none any more. -/
  | notice
  deriving DecidableEq

/-- A step of a wait, if it can be taken. A value that has not been seen is noticed before the loss of the sender. -/
def Wait.step (w : Wait φ) (slot : FactorySlot φ) (channel : ShutdownChannel) (step : WaitStep) : Option (Wait φ) :=
  match w.stage, step with
  | .looking, .look =>
    match slot.factory with
    | some f => some { w with stage := .over (some f) }
    | none => some { w with stage := .asking }
  | .asking, .ask =>
    if channel.signal.stopping then some { w with stage := .over none } else some { w with stage := .sleeping }
  | .sleeping, .tick => some { w with stage := .looking }
  | .sleeping, .notice =>
    if w.seen ≠ channel.sent then some { w with seen := channel.sent, stage := .looking }
    else if channel.signal.senderGone then some { w with stage := .over none }
    else none
  | _, _ => none

/-- What a wait does in one go, and where it stands then. -/
inductive Wait.Advance (w : Wait φ) (slot : FactorySlot φ) (channel : ShutdownChannel) : WaitStep → Wait φ → Prop where
  | served {f : φ} (hstage : w.stage = .looking) (hslot : slot.factory = some f) :
      Advance w slot channel .look { w with stage := .over (some f) }
  | unserved (hstage : w.stage = .looking) (hslot : slot.factory = none) :
      Advance w slot channel .look { w with stage := .asking }
  | dismissed (hstage : w.stage = .asking) (hstopping : channel.signal.stopping = true) :
      Advance w slot channel .ask { w with stage := .over none }
  | rested (hstage : w.stage = .asking) (hstopping : channel.signal.stopping = false) :
      Advance w slot channel .ask { w with stage := .sleeping }
  | ticked (hstage : w.stage = .sleeping) : Advance w slot channel .tick { w with stage := .looking }
  | noticed (hstage : w.stage = .sleeping) (hunseen : w.seen ≠ channel.sent) :
      Advance w slot channel .notice { w with seen := channel.sent, stage := .looking }
  | deserted (hstage : w.stage = .sleeping) (hgone : channel.signal.senderGone = true) :
      Advance w slot channel .notice { w with stage := .over none }

/-- **A wait does nothing else.** -/
theorem Wait.advance_of_step {w w' : Wait φ} {slot : FactorySlot φ} {channel : ShutdownChannel} {step : WaitStep}
    (h : w.step slot channel step = some w') : w.Advance slot channel step w' := by
  unfold Wait.step at h
  -- one split for each stage of a wait, and one for what is found there
  split at h
  · next hstage =>
    split at h
    · next f hslot =>
      cases h
      exact .served hstage hslot
    · next hslot =>
      cases h
      exact .unserved hstage hslot
  · next hstage =>
    split at h
    · next hstopping =>
      cases h
      exact .dismissed hstage hstopping
    · next hstopping =>
      cases h
      exact .rested hstage (Bool.eq_false_iff.2 hstopping)
  · next hstage =>
    cases h
    exact .ticked hstage
  · next hstage =>
    split at h
    · next hunseen =>
      cases h
      exact .noticed hstage hunseen
    · obtain ⟨hgone, h⟩ := Option.ite_none_right_eq_some.1 h
      cases h
      exact .deserted hstage hgone
  · cases h

/-- A wait that is about to look and will find a factory does nothing else first. -/
theorem Wait.Advance.of_looking {w w' : Wait φ} {slot : FactorySlot φ} {channel : ShutdownChannel} {own : WaitStep}
    {f : φ} (h : w.Advance slot channel own w') (hlooking : w.stage = .looking) (hfactory : slot.factory = some f) :
    own = .look ∧ w'.stage = .over (some f) := by
  cases h with
  | served hstage hslot =>
    cases hslot.symm.trans hfactory
    exact ⟨rfl, rfl⟩
  | unserved hstage hslot => cases hslot.symm.trans hfactory
  | dismissed hstage | rested hstage | ticked hstage | noticed hstage | deserted hstage =>
    cases hlooking.symm.trans hstage

/-- A wait that is over takes no step. -/
theorem Wait.Advance.stage_ne_over {w w' : Wait φ} {slot : FactorySlot φ} {channel : ShutdownChannel} {own : WaitStep}
    (h : w.Advance slot channel own w') (found : Option φ) : w.stage ≠ .over found := by
  intro hover
  cases h with
  | served hstage | unserved hstage | dismissed hstage | rested hstage | ticked hstage | noticed hstage
  | deserted hstage => cases hover.symm.trans hstage

/-! ## Everybody's steps

Any number of callers set, get and wait at the same time, on any number of shutdown channels. Each step takes effect
at one moment, and a list of steps with their answers is a run. -/

/-- A slot, the shutdown channels, and the waits that have begun, the first one first. -/
structure SlotTraffic (φ : Type) where
  slot : FactorySlot φ := {}
  channels : Nat → ShutdownChannel
  waits : List (Wait φ) := []

/-- What can happen in one go. A channel is named by its number, and a wait by its place. -/
inductive SlotStep (φ : Type) where
  | set (f : φ)
  | get
  | isSet
  /-- A wait begins, with a receiver that has seen the given number of values. -/
  | begin (channel seen : Nat)
  | wait (place : Nat) (step : WaitStep)
  | send (channel : Nat) (stopping : Bool)
  | dropSender (channel : Nat)

/-- What the caller is told. -/
inductive SlotAnswer (φ : Type) where
  | nothing
  | told (b : Bool)
  | found (factory : Option φ)

/-- A wait returns when it is over. -/
def WaitStage.answer : WaitStage φ → SlotAnswer φ
  | .over found => .found found
  | _ => .nothing

namespace SlotTraffic

/-- Changes a channel whose sender is still there. -/
def changeChannel (t : SlotTraffic φ) (i : Nat) (change : ShutdownChannel → ShutdownChannel) :
    Option (SlotAnswer φ × SlotTraffic φ) :=
  if (t.channels i).signal.senderGone then none
  else some (.nothing, { t with channels := fun j => if j = i then change (t.channels i) else t.channels j })

/-- A step and its answer, if it can be taken. -/
def step (t : SlotTraffic φ) : SlotStep φ → Option (SlotAnswer φ × SlotTraffic φ)
  | .set f => some (.told (t.slot.set f).1, { t with slot := (t.slot.set f).2 })
  | .get => some (.found t.slot.factory, t)
  | .isSet => some (.told t.slot.isSet, t)
  | .begin channel seen => some (.nothing, { t with waits := t.waits ++ [{ channel, seen }] })
  | .wait place step =>
    t.waits[place]?.bind fun w =>
      (w.step t.slot (t.channels w.channel) step).map fun w => (w.stage.answer, { t with waits := t.waits.set place w })
  | .send i stopping => t.changeChannel i (·.send stopping)
  | .dropSender i => t.changeChannel i ShutdownChannel.dropSender

/-- Takes steps one after the other, if all of them can be taken. -/
def run (t : SlotTraffic φ) (steps : List (SlotStep φ)) : Option (SlotTraffic φ) :=
  steps.foldlM (fun t step => (t.step step).map Prod.snd) t

theorem run_cons {t t' : SlotTraffic φ} {answer : SlotAnswer φ} {step : SlotStep φ}
    (h : t.step step = some (answer, t')) (steps : List (SlotStep φ)) : t.run (step :: steps) = t'.run steps := by
  rw [run, List.foldlM_cons, h]
  rfl

/-- Steps can be taken in two goes. -/
theorem run_append {t t' : SlotTraffic φ} {steps : List (SlotStep φ)} (h : t.run steps = some t')
    (steps' : List (SlotStep φ)) : t.run (steps ++ steps') = t'.run steps' := by
  rw [run, List.foldlM_append, ← run, h]
  rfl

end SlotTraffic

/-! ## What the steps tell

What the answers have to agree with is read off the list of steps alone: the factory of the first `set`, and the waits
that began after it. -/

/-- The factory that a step puts into the slot. -/
def SlotStep.set? : SlotStep φ → Option φ
  | .set f => some f
  | _ => none

/-- Whether a step begins a wait. -/
def SlotStep.isBegin : SlotStep φ → Bool
  | .begin _ _ => true
  | _ => false

/-- The factory that the first `set` came with. -/
def firstSet (steps : List (SlotStep φ)) : Option φ :=
  steps.findSome? SlotStep.set?

/-- The wait in the given place began when a `set` had come already, and the first one had come with the factory. -/
def BegunWith (steps : List (SlotStep φ)) (place : Nat) (f : φ) : Prop :=
  ∃ earlier channel seen later, steps = earlier ++ .begin channel seen :: later ∧
    earlier.countP SlotStep.isBegin = place ∧ firstSet earlier = some f

variable {steps : List (SlotStep φ)} {last : SlotStep φ} {f : φ}

/-- A later `set` counts only if there was none before. -/
theorem firstSet_append_singleton (steps : List (SlotStep φ)) (last : SlotStep φ) :
    firstSet (steps ++ [last]) = (firstSet steps).or last.set? := by
  rw [firstSet, List.findSome?_append, List.findSome?_singleton]
  rfl

theorem firstSet_append_of_none (h : last.set? = none) : firstSet (steps ++ [last]) = firstSet steps := by
  rw [firstSet_append_singleton, h, Option.or_none]

/-- There is no first `set` just if there is none. -/
theorem firstSet_eq_none_iff : firstSet steps = none ↔ ∀ g, .set g ∉ steps := by
  rw [firstSet, List.findSome?_eq_none_iff]
  constructor
  · intro h g hg
    cases h _ hg
  · intro h step hstep
    cases step with
    | set g => exact absurd hstep (h g)
    | _ => rfl

/-- A wait that began with a factory in the slot began after the first `set`. -/
theorem BegunWith.firstSet_eq {place : Nat} (h : BegunWith steps place f) : firstSet steps = some f := by
  obtain ⟨earlier, channel, seen, later, rfl, -, hset⟩ := h
  rw [firstSet, List.findSome?_append, ← firstSet, hset, Option.some_or]

/-- One more step begins a wait with the factory, or it is one that had begun before. -/
theorem begunWith_append_singleton {place : Nat} :
    BegunWith (steps ++ [last]) place f ↔
      BegunWith steps place f ∨
        last.isBegin = true ∧ steps.countP SlotStep.isBegin = place ∧ firstSet steps = some f := by
  constructor
  · rintro ⟨earlier, channel, seen, later, heq, hplace, hset⟩
    -- either the wait has begun with the last step, or that came later
    cases later using List.reverseRecOn with
    | nil =>
      obtain ⟨rfl, hlast⟩ := List.append_inj' heq rfl
      rw [(List.cons.inj hlast).1]
      exact .inr ⟨rfl, hplace, hset⟩
    | append_singleton later final =>
      have hsplit : steps ++ [last] = (earlier ++ .begin channel seen :: later) ++ [final] := by
        rw [heq, List.append_assoc, List.cons_append]
      obtain ⟨hsteps, -⟩ := List.append_inj' hsplit rfl
      exact .inl ⟨earlier, channel, seen, later, hsteps, hplace, hset⟩
  · rintro (⟨earlier, channel, seen, later, rfl, hplace, hset⟩ | ⟨hbegin, hplace, hset⟩)
    · exact ⟨earlier, channel, seen, later ++ [last], by simp, hplace, hset⟩
    · cases last with
      | begin channel seen => exact ⟨steps, channel, seen, [], rfl, hplace, hset⟩
      | _ => cases hbegin

/-! ## The invariant

The slot holds what the first `set` came with, and a wait that is over with a factory has found this one. A wait that
began after the first `set` is about to look or over, since its first look ends it. -/

namespace SlotTraffic

/-- What holds of a slot and its waits after some steps. -/
structure Kept (steps : List (SlotStep φ)) (t : SlotTraffic φ) : Prop where
  slot : t.slot.factory = firstSet steps
  begun : t.waits.length = steps.countP SlotStep.isBegin
  prompt : ∀ place w f, t.waits[place]? = some w → BegunWith steps place f →
    w.stage = .looking ∨ w.stage = .over (some f)

/-- Before any step the slot is empty and nobody waits. -/
theorem kept_nil (channels : Nat → ShutdownChannel) : Kept [] ({ channels } : SlotTraffic φ) where
  slot := rfl
  begun := rfl
  prompt place w f hw := by simp at hw

variable {t t' : SlotTraffic φ} {answer : SlotAnswer φ}

/-- A wait that has begun has a place. -/
theorem Kept.lt_length (h : Kept steps t) {place : Nat} (hbegun : BegunWith steps place f) :
    place < t.waits.length := by
  obtain ⟨earlier, channel, seen, later, hsteps, hplace, -⟩ := hbegun
  rw [h.begun, hsteps, ← hplace, List.countP_append, List.countP_cons_of_pos (by rfl)]
  omega

/-- A step that neither fills the slot nor has to do with waits keeps the invariant. -/
theorem Kept.append_quiet (h : Kept steps t) (hslot : t'.slot = t.slot) (hwaits : t'.waits = t.waits)
    (hset : last.set? = none) (hbegin : last.isBegin = false) : Kept (steps ++ [last]) t' where
  slot := by rw [hslot, firstSet_append_of_none hset, h.slot]
  begun := by simp [hwaits, h.begun, hbegin]
  prompt place w f hw hbegun := by
    rw [begunWith_append_singleton, hbegin] at hbegun
    rw [hwaits] at hw
    exact h.prompt place w f hw (hbegun.resolve_right fun hnew => Bool.false_ne_true hnew.1)

/-- What happens to a channel has to do with neither the slot nor the waits. -/
theorem changeChannel_eq_some {i : Nat} {change : ShutdownChannel → ShutdownChannel}
    (h : t.changeChannel i change = some (answer, t')) :
    answer = .nothing ∧ t'.slot = t.slot ∧ t'.waits = t.waits := by
  obtain ⟨-, h⟩ := Option.ite_none_left_eq_some.1 h
  cases h
  exact ⟨rfl, rfl, rfl⟩

/-- A step of a wait changes this wait and nothing else. -/
theorem step_wait_eq_some {place : Nat} {own : WaitStep} (h : t.step (.wait place own) = some (answer, t')) :
    ∃ w w', t.waits[place]? = some w ∧ w.Advance t.slot (t.channels w.channel) own w' ∧ answer = w'.stage.answer ∧
      t' = { t with waits := t.waits.set place w' } := by
  obtain ⟨w, hw, h⟩ := Option.bind_eq_some_iff.1 h
  obtain ⟨w', hstep, h⟩ := Option.map_eq_some_iff.1 h
  cases h
  exact ⟨w, w', hw, Wait.advance_of_step hstep, rfl, rfl⟩

/-- **One step keeps the invariant.** -/
theorem Kept.step (h : Kept steps t) (hstep : t.step last = some (answer, t')) : Kept (steps ++ [last]) t' := by
  cases last with
  | set g =>
    cases hstep
    have hslot : (t.slot.set g).2.factory = (firstSet steps).or (some g) := by
      rw [← h.slot]
      unfold FactorySlot.set
      cases hfactory : t.slot.factory with
      | none => rfl
      | some f => exact hfactory
    refine ⟨by rw [firstSet_append_singleton]; exact hslot, by simp [h.begun, SlotStep.isBegin],
      fun place w f hw hbegun => ?_⟩
    -- no wait begins with this step, and those that have begun are where they were
    rw [begunWith_append_singleton] at hbegun
    exact h.prompt place w f hw (hbegun.resolve_right fun hnew => Bool.false_ne_true hnew.1)
  | get =>
    cases hstep
    exact h.append_quiet rfl rfl rfl rfl
  | isSet =>
    cases hstep
    exact h.append_quiet rfl rfl rfl rfl
  | begin channel seen =>
    cases hstep
    refine ⟨by rw [firstSet_append_of_none rfl]; exact h.slot, by simp [h.begun, SlotStep.isBegin],
      fun place w f hw hbegun => ?_⟩
    rcases begunWith_append_singleton.1 hbegun with hold | ⟨-, hplace, -⟩
    · -- the new wait is behind all the others
      rw [List.getElem?_append_left (h.lt_length hold)] at hw
      exact h.prompt place w f hw hold
    · -- and has not looked yet
      rw [← hplace, ← h.begun, List.getElem?_concat_length] at hw
      obtain rfl := Option.some.inj hw
      exact .inl rfl
  | wait place own =>
    obtain ⟨w, w', hw, hadvance, -, rfl⟩ := step_wait_eq_some hstep
    refine ⟨by rw [firstSet_append_of_none rfl]; exact h.slot, by simp [h.begun, SlotStep.isBegin],
      fun other v f hv hbegun => ?_⟩
    have hold : BegunWith steps other f :=
      (begunWith_append_singleton.1 hbegun).resolve_right fun hnew => Bool.false_ne_true hnew.1
    have hlength : place < t.waits.length := (List.getElem?_eq_some_iff.1 hw).1
    by_cases hsame : place = other
    · subst hsame
      rw [List.getElem?_set_self hlength] at hv
      obtain rfl := Option.some.inj hv
      have hfactory : t.slot.factory = some f := h.slot.trans hold.firstSet_eq
      -- it was looking, and finds the factory
      rcases h.prompt place w f hw hold with hlooking | hover
      · exact .inr (hadvance.of_looking hlooking hfactory).2
      · exact absurd hover (hadvance.stage_ne_over _)
    · rw [List.getElem?_set_ne hsame] at hv
      exact h.prompt other v f hv hold
  | send i stopping =>
    have hchange : t.changeChannel i (·.send stopping) = some (answer, t') := hstep
    obtain ⟨-, hslot, hwaits⟩ := changeChannel_eq_some hchange
    exact h.append_quiet hslot hwaits rfl rfl
  | dropSender i =>
    have hchange : t.changeChannel i ShutdownChannel.dropSender = some (answer, t') := hstep
    obtain ⟨-, hslot, hwaits⟩ := changeChannel_eq_some hchange
    exact h.append_quiet hslot hwaits rfl rfl

/-- **The invariant holds after all steps.** Induction from the last one. -/
theorem kept_run {channels : Nat → ShutdownChannel} (h : run { channels } steps = some t) : Kept steps t := by
  induction steps using List.reverseRecOn generalizing t with
  | nil =>
    obtain rfl := Option.some.inj h
    exact kept_nil channels
  | append_singleton steps last ih =>
    rw [run, List.foldlM_append] at h
    obtain ⟨s, hs, h⟩ := Option.bind_eq_some_iff.1 h
    rw [List.foldlM_cons] at h
    obtain ⟨s', hlast, h⟩ := Option.bind_eq_some_iff.1 h
    obtain ⟨⟨answer, s''⟩, hstep, rfl⟩ := Option.map_eq_some_iff.1 hlast
    obtain rfl := Option.some.inj h
    exact (ih hs).step hstep

/-! ## What comes next

The invariant is one about the steps so far. The statement is about the next step and what its caller is told. -/

/-- A `set` can always be made, and tells whether it was the first. -/
theorem Kept.set (h : Kept steps t) (f : φ) : ∃ t', t.step (.set f) = some (.told (firstSet steps).isNone, t') := by
  refine ⟨{ t with slot := (t.slot.set f).2 }, ?_⟩
  have hset : (t.slot.set f).1 = t.slot.factory.isNone := by
    unfold FactorySlot.set
    cases t.slot.factory <;> rfl
  rw [← h.slot, ← hset]
  rfl

/-- A wait that began after the first `set` is over, or looks next and finds what that came with. -/
theorem Kept.prompt_wait (h : Kept steps t) {place : Nat} (hbegun : BegunWith steps place f) :
    ∃ w, t.waits[place]? = some w ∧ (w.stage = .over (some f) ∨
      (∃ t', t.step (.wait place .look) = some (.found (some f), t')) ∧
        ∀ own, (t.step (.wait place own)).isSome = true → own = .look) := by
  have hlt : place < t.waits.length := h.lt_length hbegun
  have hfactory : t.slot.factory = some f := h.slot.trans hbegun.firstSet_eq
  have hw : t.waits[place]? = some t.waits[place] := List.getElem?_eq_getElem hlt
  refine ⟨t.waits[place], hw, ?_⟩
  -- it is still to look for the first time, or it has looked and is over
  rcases h.prompt place _ f hw hbegun with hlooking | hover
  · refine .inr ⟨⟨{ t with waits := t.waits.set place { t.waits[place] with stage := .over (some f) } }, ?_⟩,
      fun own hown => ?_⟩
    · simp [SlotTraffic.step, Wait.step, hlt, hlooking, hfactory, WaitStage.answer]
    · obtain ⟨⟨answer, t'⟩, hstep⟩ := Option.isSome_iff_exists.1 hown
      obtain ⟨w, w', hw', hadvance, -, -⟩ := step_wait_eq_some hstep
      obtain rfl := Option.some.inj (hw.symm.trans hw')
      exact (hadvance.of_looking hlooking hfactory).1
  · exact .inl hover

/--
**Whoever finds a factory finds the first one.** Any number of callers have put factories into a slot that was empty,
have asked for the factory and have begun to wait for it, and shutdown signals have come, in any order. Whatever comes
next, a `set` is told that it has filled the slot just if it is the first one. Who asks is given the factory that the
first `set` came with, or nothing if there was none, and so is told whoever asks whether the slot is filled. A wait that
returns a factory returns that one too.

A wait that began after the first `set` takes no other step than to look, and then returns that factory, whatever its
signal says. A wait returns nothing only when it sees that the server is stopping or that the sender of its signal is
gone.
-/
theorem answers_after {channels : Nat → ShutdownChannel} {steps : List (SlotStep φ)} {t : SlotTraffic φ}
    (h : run { channels } steps = some t) :
    (firstSet steps = none ↔ ∀ g, .set g ∉ steps) ∧
    (∀ f, ∃ t', t.step (.set f) = some (.told (firstSet steps).isNone, t')) ∧
    t.step .get = some (.found (firstSet steps), t) ∧
    t.step .isSet = some (.told (firstSet steps).isSome, t) ∧
    (∀ place own f t', t.step (.wait place own) = some (.found (some f), t') → firstSet steps = some f) ∧
    (∀ place f, BegunWith steps place f → ∃ w, t.waits[place]? = some w ∧ (w.stage = .over (some f) ∨
      (∃ t', t.step (.wait place .look) = some (.found (some f), t')) ∧
        ∀ own, (t.step (.wait place own)).isSome = true → own = .look)) ∧
    ∀ place own t', t.step (.wait place own) = some (.found none, t') → ∃ w, t.waits[place]? = some w ∧
      (own = .ask ∧ (t.channels w.channel).signal.stopping = true ∨
        own = .notice ∧ (t.channels w.channel).signal.senderGone = true) := by
  have hkept : Kept steps t := kept_run h
  refine ⟨firstSet_eq_none_iff, hkept.set, ?_, ?_, fun place own f t' hstep => ?_, fun place f => hkept.prompt_wait,
    fun place own t' hstep => ?_⟩
  · rw [← hkept.slot]
    rfl
  · rw [← hkept.slot]
    rfl
  · obtain ⟨w, w', -, hadvance, hanswer, -⟩ := step_wait_eq_some hstep
    -- only a look finds a factory
    cases hadvance with
    | served hstage hslot =>
      cases hanswer
      exact hkept.slot.symm.trans hslot
    | _ => cases hanswer
  · obtain ⟨w, w', hw, hadvance, hanswer, -⟩ := step_wait_eq_some hstep
    refine ⟨w, hw, ?_⟩
    cases hadvance with
    | dismissed hstage hstopping => exact .inl ⟨rfl, hstopping⟩
    | deserted hstage hgone => exact .inr ⟨rfl, hgone⟩
    | _ => cases hanswer

/-- An upload waits, two factories come, the server is told to stop, and another upload begins to wait. -/
theorem answers_after_of_late_wait :
    let steps : List (SlotStep Nat) :=
      [.begin 0 0, .wait 0 .look, .wait 0 .ask, .set 7, .set 8, .send 0 true, .begin 0 0]
    ∃ t, run { channels := fun _ => {} } steps = some t ∧
      (∃ t', t.step (.set 9) = some (.told false, t')) ∧ t.step .get = some (.found (some 7), t) ∧
      (∃ t', t.step (.wait 0 .notice) = some (.nothing, t')) ∧
      ∃ t', t.step (.wait 1 .look) = some (.found (some 7), t') := by
  intro steps
  refine ⟨_, rfl, ?_⟩
  have hrun : run { channels := fun _ => {} } steps = some _ := rfl
  obtain ⟨-, hset, hget, -, -, hprompt, -⟩ := answers_after hrun
  obtain ⟨w, hw, hover | ⟨hlook, -⟩⟩ := hprompt 1 7 ⟨steps.take 6, 0, 0, [], rfl, rfl, rfl⟩
  · cases Option.some.inj hw
    cases hover
  · exact ⟨hset 9, hget, ⟨_, rfl⟩, hlook⟩

end SlotTraffic

/-- A look after which the wait goes on has found the sender of the signal there. -/
theorem Surroundings.senderGone_of_look {s : Surroundings φ} (h : s.look = none) : s.signal.senderGone = false := by
  unfold look at h
  split at h
  · cases h
  · cases hgone : s.signal.senderGone with
    | false => rfl
    | true =>
      rw [hgone, Bool.or_true, if_pos rfl] at h
      cases h

/-- A look that finds no factory has found the slot empty. -/
theorem Surroundings.slot_of_look {s : Surroundings φ} (h : ∀ f, s.look ≠ some (.factory f)) :
    s.slot.factory = none := by
  cases hslot : s.slot.factory with
  | none => rfl
  | some f => exact absurd (by rw [look, hslot]) (h f)

/-! ## The waits of the server

An exchange waits with a list of what happens around it, one thing after the other, and takes all the steps that it can
take before the next thing happens. -/

/-- What happens to somebody who waits when another takes the step, or when time passes. -/
def SlotStep.happening? : SlotStep φ → Option (Happening φ)
  | .set f => some (.factory f)
  | .send _ stopping => some (.signal stopping)
  | .dropSender _ => some .senderGone
  | .wait _ .tick => some .tick
  | _ => none

/-- Where a wait stands that has come that far. -/
def Acquired.stage : Acquired φ → WaitStage φ
  | .factory f => .over (some f)
  | .abandoned => .over none
  | .waiting => .sleeping

namespace SlotTraffic

/-- There is one wait, on the slot and the signal of the surroundings, and it has seen every value that was sent. -/
structure Alone (s : Surroundings φ) (stage : WaitStage φ) (t : SlotTraffic φ) : Prop where
  slot : t.slot = s.slot
  signal : (t.channels 0).signal = s.signal
  waits : t.waits = [{ channel := 0, seen := (t.channels 0).sent, stage }]

variable {s : Surroundings φ} {stage : WaitStage φ} {t : SlotTraffic φ}

/-- The wait takes a step of its own. -/
theorem Alone.wait (h : Alone s stage t) (own : WaitStep) (stage' : WaitStage φ)
    (hstep : ∀ seen, ({ channel := 0, seen, stage } : Wait φ).step s.slot ⟨s.signal, seen⟩ own =
      some { channel := 0, seen, stage := stage' }) :
    ∃ t', t.run [.wait 0 own] = some t' ∧ Alone s stage' t' := by
  have hchannel : t.channels 0 = ⟨s.signal, (t.channels 0).sent⟩ := by rw [← h.signal]
  let t' : SlotTraffic φ :=
    { slot := s.slot, channels := t.channels,
      waits := [{ channel := 0, seen := (t.channels 0).sent, stage := stage' }] }
  have htaken : t.step (.wait 0 own) = some (stage'.answer, t') := by
    unfold SlotTraffic.step
    dsimp only
    rw [h.waits, List.getElem?_cons_zero, Option.bind_some, h.slot, hchannel, hstep]
    rfl
  exact ⟨t', run_cons htaken [], rfl, h.signal, rfl⟩

/-- A look of the surroundings is a look into the slot and, if that is empty, one at the signal. Where the sender of the
signal was gone already, the wait is told so when it goes to sleep. -/
theorem Alone.look (h : Alone s .looking t) :
    ∃ steps t', t.run steps = some t' ∧ Alone s (s.look.getD .waiting).stage t' ∧
      steps.filterMap SlotStep.happening? = [] := by
  unfold Surroundings.look
  -- the look of the server is a look into the slot, one at the signal, and with the sender gone a third
  cases hslot : s.slot.factory with
  | some f =>
    obtain ⟨t', hrun, h'⟩ := h.wait .look (.over (some f)) fun seen => by
      simp [Wait.step, hslot]
    exact ⟨_, t', hrun, h', rfl⟩
  | none =>
    obtain ⟨t₁, hrun₁, h₁⟩ := h.wait .look .asking fun seen => by simp [Wait.step, hslot]
    cases hstopping : s.signal.stopping with
    | true =>
      obtain ⟨t₂, hrun₂, h₂⟩ := h₁.wait .ask (.over none) fun seen => by
        simp [Wait.step, hstopping]
      exact ⟨_, t₂, (run_append hrun₁ _).trans hrun₂, h₂, rfl⟩
    | false =>
      obtain ⟨t₂, hrun₂, h₂⟩ := h₁.wait .ask .sleeping fun seen => by
        simp [Wait.step, hstopping]
      cases hgone : s.signal.senderGone with
      | false => exact ⟨_, t₂, (run_append hrun₁ _).trans hrun₂, h₂, rfl⟩
      | true =>
        obtain ⟨t₃, hrun₃, h₃⟩ := h₂.wait .notice (.over none) fun seen => by
          simp [Wait.step, hgone]
        exact ⟨_, t₃, (run_append hrun₁ _).trans ((run_append hrun₂ _).trans hrun₃), h₃, rfl⟩

/-- A factory that is put into the slot goes unnoticed. -/
theorem Alone.factory (h : Alone s .sleeping t) (f : φ) :
    ∃ t', t.run [.set f] = some t' ∧ Alone (s.apply (.factory f)) .sleeping t' := by
  refine ⟨{ t with slot := (t.slot.set f).2 }, rfl, ?_, h.signal, h.waits⟩
  rw [h.slot]
  rfl

/-- A value that is sent makes the wait look again. -/
theorem Alone.signal_sent (h : Alone s .sleeping t) (hthere : s.signal.senderGone = false) (stopping : Bool) :
    ∃ t', t.run [.send 0 stopping, .wait 0 .notice] = some t' ∧ Alone (s.apply (.signal stopping)) .looking t' := by
  have hthere : (t.channels 0).signal.senderGone = false := by rw [h.signal, hthere]
  refine ⟨{ slot := t.slot, channels := fun j => if j = 0 then (t.channels 0).send stopping else t.channels j,
            waits := [{ channel := 0, seen := (t.channels 0).sent + 1, stage := .looking }] }, ?_, h.slot, ?_, rfl⟩
  · simp [run, SlotTraffic.step, changeChannel, hthere, h.waits, Wait.step, ShutdownChannel.send]
  · show { (t.channels 0).signal with stopping } = _
    rw [h.signal]
    rfl

/-- A sender that goes away ends the wait. -/
theorem Alone.sender_gone (h : Alone s .sleeping t) (hthere : s.signal.senderGone = false) :
    ∃ t', t.run [.dropSender 0, .wait 0 .notice] = some t' ∧ Alone (s.apply .senderGone) (.over none) t' := by
  have hthere : (t.channels 0).signal.senderGone = false := by rw [h.signal, hthere]
  refine ⟨{ slot := t.slot, channels := fun j => if j = 0 then (t.channels 0).dropSender else t.channels j,
            waits := [{ channel := 0, seen := (t.channels 0).sent, stage := .over none }] }, ?_, h.slot, ?_, rfl⟩
  · simp [run, SlotTraffic.step, changeChannel, hthere, h.waits, Wait.step, ShutdownChannel.dropSender]
  · show { (t.channels 0).signal with senderGone := true } = _
    rw [h.signal]
    rfl

/-- A wait that has begun comes to the same end step by step. Induction on what happens around it. -/
theorem Alone.sleep (h : Alone s .sleeping t) (hthere : s.signal.senderGone = false)
    (happenings : List (Happening φ)) :
    ∃ steps t', t.run steps = some t' ∧
      Alone (s.sleep happenings).2.1 (s.sleep happenings).1.stage t' ∧
      steps.filterMap SlotStep.happening? ++ (s.sleep happenings).2.2 = happenings := by
  induction happenings generalizing s t with
  | nil => exact ⟨[], t, rfl, h, rfl⟩
  | cons happening rest ih =>
    -- after a value or a tick the wait looks, and is over or goes on sleeping
    have hlooks {s' : Surroundings φ} {t₁ : SlotTraffic φ} {first : List (SlotStep φ)} (hrun₁ : t.run first = some t₁)
        (h₁ : Alone s' .looking t₁) (hthere' : s'.signal.senderGone = false)
        (hfirst : first.filterMap SlotStep.happening? = [happening]) (hs' : s.apply happening = s')
        (hnotice : s'.notice happening = s'.look) :
        ∃ steps t', t.run steps = some t' ∧
          Alone (s.sleep (happening :: rest)).2.1 (s.sleep (happening :: rest)).1.stage t' ∧
          steps.filterMap SlotStep.happening? ++ (s.sleep (happening :: rest)).2.2 = happening :: rest := by
      obtain ⟨steps₂, t₂, hrun₂, h₂, hsteps₂⟩ := h₁.look
      have hrun₁₂ := (run_append hrun₁ steps₂).trans hrun₂
      rw [Surroundings.sleep, hs', hnotice]
      cases hlook : s'.look with
      | some acquired =>
        rw [hlook] at h₂
        refine ⟨first ++ steps₂, t₂, hrun₁₂, h₂, ?_⟩
        rw [List.filterMap_append, hfirst, hsteps₂]
        rfl
      | none =>
        rw [hlook] at h₂
        obtain ⟨steps₃, t₃, hrun₃, h₃, hsteps₃⟩ := ih h₂ hthere'
        refine ⟨first ++ steps₂ ++ steps₃, t₃, (run_append hrun₁₂ steps₃).trans hrun₃, h₃, ?_⟩
        rw [List.filterMap_append, List.filterMap_append, hfirst, hsteps₂, List.append_nil, List.append_assoc]
        exact congrArg (happening :: ·) hsteps₃
    cases happening with
    | factory f =>
      obtain ⟨t₁, hrun₁, h₁⟩ := h.factory f
      obtain ⟨steps₂, t₂, hrun₂, h₂, hsteps₂⟩ := ih h₁ hthere
      exact ⟨.set f :: steps₂, t₂, (run_append hrun₁ steps₂).trans hrun₂, h₂,
        congrArg (Happening.factory f :: ·) hsteps₂⟩
    | signal stopping =>
      obtain ⟨t₁, hrun₁, h₁⟩ := h.signal_sent hthere stopping
      exact hlooks hrun₁ h₁ hthere rfl rfl rfl
    | tick =>
      obtain ⟨t₁, hrun₁, h₁⟩ := h.wait .tick .looking fun seen => rfl
      exact hlooks hrun₁ h₁ hthere rfl rfl rfl
    | senderGone =>
      obtain ⟨t₁, hrun₁, h₁⟩ := h.sender_gone hthere
      exact ⟨_, t₁, hrun₁, h₁, rfl⟩

end SlotTraffic

/-- **What an exchange waits for is one order of steps**: there are steps of one wait and of the others that let happen
what has happened until the exchange went on, and after them the wait, the slot and the signal are where the exchange
finds them. -/
theorem Surroundings.exists_steps_of_acquire (s : Surroundings φ) (happenings : List (Happening φ)) :
    let begun : SlotTraffic φ :=
      { slot := s.slot, channels := fun _ => { signal := s.signal }, waits := [{ channel := 0, seen := 0 }] }
    ∃ steps t, begun.run steps = some t ∧ t.slot = (s.acquire happenings).2.1.slot ∧
      (t.channels 0).signal = (s.acquire happenings).2.1.signal ∧
      t.waits.map Wait.stage = [(s.acquire happenings).1.stage] ∧
      steps.filterMap SlotStep.happening? ++ (s.acquire happenings).2.2 = happenings := by
  intro begun
  have hbegun : SlotTraffic.Alone s .looking begun := ⟨rfl, rfl, rfl⟩
  obtain ⟨steps₁, t₁, hrun₁, h₁, hsteps₁⟩ := hbegun.look
  unfold acquire
  -- a look is enough, or the server goes to sleep
  cases hlook : s.look with
  | some acquired =>
    rw [hlook] at h₁
    exact ⟨steps₁, t₁, hrun₁, h₁.slot, h₁.signal, congrArg (List.map Wait.stage) h₁.waits, by rw [hsteps₁]; rfl⟩
  | none =>
    rw [hlook] at h₁
    obtain ⟨steps₂, t₂, hrun₂, h₂, hsteps₂⟩ := h₁.sleep (senderGone_of_look hlook) happenings
    refine ⟨steps₁ ++ steps₂, t₂, (SlotTraffic.run_append hrun₁ steps₂).trans hrun₂, h₂.slot, h₂.signal,
      congrArg (List.map Wait.stage) h₂.waits, ?_⟩
    rw [List.filterMap_append, hsteps₁, List.nil_append]
    exact hsteps₂

/-! ## Waits that are given up

A wait that is given up for a value has looked into the slot and found it empty. One that is given up because the
sender has gone has not looked, so that a factory may have come in the meantime. -/

namespace Surroundings

variable {s : Surroundings φ}

/-- Whoever gives up sleeping finds the slot empty, unless the sender of the signal has gone. Induction on what
happens. -/
theorem sleep_abandoned {happenings : List (Happening φ)} (h : (s.sleep happenings).1 = .abandoned) :
    (s.sleep happenings).2.1.slot.factory = none ∨ (s.sleep happenings).2.1.signal.senderGone = true := by
  induction happenings generalizing s with
  | nil => cases h
  | cons happening rest ih =>
    unfold sleep at h ⊢
    split at h
    · next acquired hnotice =>
      cases h
      cases happening with
      | factory => cases hnotice
      | signal | tick => exact .inl (slot_of_look fun f hf => by cases hnotice.symm.trans hf)
      | senderGone => exact .inr rfl
    · exact ih h

/-- A wait that is given up leaves an empty slot behind, unless the sender of the signal has gone. -/
theorem acquire_abandoned {happenings : List (Happening φ)} (h : (s.acquire happenings).1 = .abandoned) :
    (s.acquire happenings).2.1.slot.factory = none ∨ (s.acquire happenings).2.1.signal.senderGone = true := by
  unfold acquire at h ⊢
  split at h
  · next acquired hlook =>
    cases h
    exact .inl (slot_of_look fun f hf => by cases hlook.symm.trans hf)
  · exact sleep_abandoned h

/-- **The two reasons to give up are not alike.** A value that is sent makes the wait look into the slot again, and then
it finds a factory that has come in its sleep. The loss of the sender ends it without a look, although the factory is
there. -/
theorem acquire_after_factory (h : s.look = none) (f : φ) (rest : List (Happening φ)) :
    (∀ stopping, (s.acquire (.factory f :: .signal stopping :: rest)).1 = .factory f) ∧
      (s.acquire (.factory f :: .senderGone :: rest)).1 = .abandoned ∧
      (s.acquire (.factory f :: .senderGone :: rest)).2.1.slot.factory = some f := by
  have hslot : (s.slot.set f).2.factory = some f := by
    rw [FactorySlot.set, slot_of_look fun f hf => by cases h.symm.trans hf]
  have hfilled (s' : Surroundings φ) (hs' : s'.slot.factory = some f) : s'.look = some (.factory f) := by
    rw [look, hs']
  refine ⟨fun stopping => ?_, ?_, ?_⟩
  · have hfound := hfilled ((s.apply (.factory f)).apply (.signal stopping)) hslot
    simp [acquire, h, sleep, notice, hfound]
  · simp [acquire, h, sleep, notice]
  · simp [acquire, h, sleep, notice, apply, hslot]

end Surroundings

end FtpIntake
