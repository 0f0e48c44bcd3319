import FtpIntake.Outgoing

/-!
# What a flush does to the queued bytes

A connection takes the queued bytes from the front and in order. What it has taken and what is still queued, put
together, is everything that was ever queued for it, and a flush leaves that as it is, whether it is done, has failed
or was broken off.

* **`Receiver.offer_cases`** says everything that one offer can do.
* **`Outgoing.stream`** is what was queued. `stream_flush` keeps it over any flush, by induction on the offers.
* A flush without a limit is done or has failed, and it is done if the connection is `Obliging`.
* A limit only interrupts: **`flush_of_brokenOff`** says that a flush goes on where it stood.
-/

namespace FtpIntake

/-! ## One offer

A flush is a sequence of offers, and the connection may take any part of each, or refuse it. That is said once for one
offer. -/

/-- The connection takes at least one byte of every offer. How much it takes, and when, is up to it. -/
def Receiver.Obliging (r : Receiver) : Prop :=
  ∀ offers taken, r.respond offers taken ≠ .take 0 ∧ ∀ kind, r.respond offers taken ≠ .fail kind

/-- **Everything an offer can do.** The connection takes some of the bytes from the front, and at least one of them if
it is obliging, or it takes none and fails, which it never does if it is obliging. -/
theorem Receiver.offer_cases (r : Receiver) {bytes : Bytes} (hbytes : bytes ≠ []) :
    (∃ n r', r.offer bytes = (.ok n, r') ∧ r'.taken = r.taken ++ bytes.take n ∧ r'.respond = r.respond ∧
      (r.Obliging → n ≠ 0)) ∨
    (∃ kind r', r.offer bytes = (.error kind, r') ∧ r'.taken = r.taken ∧ r'.respond = r.respond ∧ ¬r.Obliging) := by
  have hlength : bytes.length ≠ 0 := fun h => hbytes (List.length_eq_zero_iff.1 h)
  unfold offer
  cases hresponse : r.respond r.offers r.taken.length with
  | takeAll =>
    refine .inl ⟨_, _, rfl, ?_, rfl, fun _ => ?_⟩
    · rw [Nat.min_self]
    · -- the offer was not empty, so taking all of it is taking something
      rwa [Nat.min_self]
  | take count =>
    refine .inl ⟨_, _, rfl, ?_, rfl, fun hobliging => ?_⟩
    · rw [← List.take_eq_take_min]
    · have hcount : count ≠ 0 := by
        rintro rfl
        exact (hobliging r.offers r.taken.length).1 hresponse
      omega
  | fail kind =>
    refine .inr ⟨kind, _, rfl, rfl, rfl, fun hobliging => ?_⟩
    exact (hobliging r.offers r.taken.length).2 kind hresponse

/-- The connection's next response to an offer is to fail, or to take nothing, which is a failure of this kind. -/
def Receiver.Refuses (r : Receiver) (kind : IoKind) : Prop :=
  r.respond r.offers r.taken.length = .fail kind ∨
    (r.respond r.offers r.taken.length = .take 0 ∧ kind = .writeZero)

/-! ## A flush

Each offer that is not refused leaves less in the queue, which is why a flush ends. The recursion of the program is on
the queue, and so are the inductions here. -/

namespace Outgoing

/-- Everything that was queued: what has been taken, and behind it what is still to be sent. -/
def stream (o : Outgoing) : Bytes :=
  o.receiver.taken ++ o.queued

@[simp] theorem stream_push (o : Outgoing) (bytes : Bytes) : (o.push bytes).stream = o.stream ++ bytes :=
  (List.append_assoc _ _ _).symm

/-- One round of a flush that has bytes to send and time to do so. The time decides only whether there is a round. -/
theorem flush_cases (o : Outgoing) (hqueued : o.queued ≠ []) :
    (∃ o' : Outgoing, o'.stream = o.stream ∧ o'.receiver.respond = o.receiver.respond ∧
      o'.queued.length < o.queued.length ∧
      ∀ patience, patience ≠ some 0 → o.flush patience = o'.flush (patience.map (· - 1))) ∨
    (∃ kind o', o'.stream = o.stream ∧ o'.receiver.respond = o.receiver.respond ∧ ¬o.receiver.Obliging ∧
      ∀ patience, patience ≠ some 0 → o.flush patience = (.failed kind, o')) := by
  have hlength : 0 < o.queued.length := List.length_pos_iff.2 hqueued
  rcases o.receiver.offer_cases hqueued with
    ⟨n, r, hoffer, htaken, hrespond, hobliging⟩ | ⟨kind, r, hoffer, htaken, hrespond, hrefused⟩
  · -- what has been taken is no longer queued
    have hstream : stream ⟨o.queued.drop n, r⟩ = o.stream := by
      show r.taken ++ o.queued.drop n = o.receiver.taken ++ o.queued
      rw [htaken, List.append_assoc, List.take_append_drop]
    by_cases hn : n = 0
    · subst hn
      refine .inr ⟨.writeZero, _, hstream, hrespond, fun h => hobliging h rfl, fun patience hpatience => ?_⟩
      rw [flush, if_neg hqueued, if_neg hpatience, hoffer]
      exact if_pos rfl
    · refine .inl ⟨⟨o.queued.drop n, r⟩, hstream, hrespond, ?_, fun patience hpatience => ?_⟩
      · show (o.queued.drop n).length < o.queued.length
        rw [List.length_drop]
        omega
      · rw [flush, if_neg hqueued, if_neg hpatience, hoffer]
        exact if_neg hn
  · refine .inr ⟨kind, { o with receiver := r }, ?_, hrespond, hrefused, fun patience hpatience => ?_⟩
    · show r.taken ++ o.queued = o.stream
      rw [htaken]
      rfl
    · rw [flush, if_neg hqueued, if_neg hpatience, hoffer]

/-- **A flush loses nothing, adds nothing and keeps the order.** Induction on how much is queued, which every round
that goes on shortens. -/
theorem stream_flush (o : Outgoing) (patience : Option Nat) :
    (o.flush patience).2.stream = o.stream ∧ (o.flush patience).2.receiver.respond = o.receiver.respond := by
  by_cases hqueued : o.queued = []
  · rw [flush, if_pos hqueued]
    exact ⟨rfl, rfl⟩
  by_cases hpatience : patience = some 0
  · rw [flush, if_neg hqueued, if_pos hpatience]
    exact ⟨rfl, rfl⟩
  -- an offer that was taken leaves fewer bytes, and the rest is a flush of those with one offer less
  rcases o.flush_cases hqueued with ⟨o', hstream, hrespond, hlt, heq⟩ | ⟨kind, o', hstream, hrespond, -, heq⟩
  · obtain ⟨hstream', hrespond'⟩ := o'.stream_flush (patience.map (· - 1))
    rw [heq patience hpatience]
    exact ⟨hstream'.trans hstream, hrespond'.trans hrespond⟩
  · rw [heq patience hpatience]
    exact ⟨hstream, hrespond⟩
termination_by o.queued.length

/-- A flush that is done has nothing left in the queue. -/
theorem queued_of_flush_done (o : Outgoing) {patience : Option Nat} (h : (o.flush patience).1 = .done) :
    (o.flush patience).2.queued = [] := by
  by_cases hqueued : o.queued = []
  · rw [flush, if_pos hqueued]
    exact hqueued
  -- a flush that may make no more offers is broken off, not done
  by_cases hpatience : patience = some 0
  · rw [flush, if_neg hqueued, if_pos hpatience] at h
    cases h
  rcases o.flush_cases hqueued with ⟨o', -, -, hlt, heq⟩ | ⟨kind, o', -, -, -, heq⟩
  · rw [heq patience hpatience] at h ⊢
    exact o'.queued_of_flush_done h
  · rw [heq patience hpatience] at h
    cases h
termination_by o.queued.length

/-- A flush that has failed leaves something in the queue: the bytes of the offer that was refused. -/
theorem queued_of_flush_failed (o : Outgoing) {patience : Option Nat} {kind : IoKind}
    (h : (o.flush patience).1 = .failed kind) : (o.flush patience).2.queued ≠ [] := by
  fun_induction flush patience o with
  | case1 | case2 => cases h
  | case3 patience o hqueued => exact hqueued
  | case4 patience o hqueued => exact hqueued
  | case5 patience o hqueued hpatience n receiver hoffer hn ih => exact ih h

/-- **How a flush without a limit ends.** It is done with nothing left in the queue, or an offer has failed, which does
not happen to an obliging connection. -/
theorem flush_none_cases (o : Outgoing) :
    ((o.flush none).1 = .done ∧ (o.flush none).2.queued = []) ∨
      ((∃ kind, (o.flush none).1 = .failed kind) ∧ ¬o.receiver.Obliging) := by
  by_cases hqueued : o.queued = []
  · rw [flush, if_pos hqueued]
    exact .inl ⟨rfl, hqueued⟩
  have hpatience : (none : Option Nat) ≠ some 0 := nofun
  -- what the rest does is decided by the same receiver: it answers as it did before
  rcases o.flush_cases hqueued with ⟨o', -, hrespond, hlt, heq⟩ | ⟨kind, o', -, -, hrefused, heq⟩
  · rw [heq none hpatience]
    rcases o'.flush_none_cases with hdone | ⟨hfailed, hrefused⟩
    · exact .inl hdone
    · refine .inr ⟨hfailed, fun hobliging => hrefused ?_⟩
      rwa [Receiver.Obliging, hrespond]
  · rw [heq none hpatience]
    exact .inr ⟨⟨kind, rfl⟩, hrefused⟩
termination_by o.queued.length

/-! ## Limits

A limit to the number of offers ends a flush where it stands, and never changes what it would do next. -/

/-- As many offers as there are bytes are always enough: every offer that does not end the flush takes one. -/
theorem flush_of_length_le (o : Outgoing) {n : Nat} (h : o.queued.length ≤ n) : o.flush (some n) = o.flush none := by
  by_cases hqueued : o.queued = []
  · rw [flush, if_pos hqueued, flush, if_pos hqueued]
  -- an offer that succeeds takes a byte at least, so the offers that are left suffice for the bytes that are left
  have hlength : 0 < o.queued.length := List.length_pos_iff.2 hqueued
  have hn : some n ≠ some 0 := fun heq => by
    rw [Option.some.inj heq] at h
    omega
  have hnone : (none : Option Nat) ≠ some 0 := nofun
  rcases o.flush_cases hqueued with ⟨o', -, -, hlt, heq⟩ | ⟨kind, o', -, -, -, heq⟩
  · have hle : o'.queued.length ≤ n - 1 := by omega
    rw [heq _ hn, heq _ hnone]
    exact o'.flush_of_length_le hle
  · rw [heq _ hn, heq _ hnone]
termination_by o.queued.length

theorem queued_ne_nil_of_brokenOff {o o' : Outgoing} {patience : Option Nat}
    (h : o.flush patience = (.brokenOff, o')) : o.queued ≠ [] := by
  intro hnothing
  rw [flush, if_pos hnothing] at h
  cases h

/-- **A flush that was broken off goes on where it stood.** What it comes to when it is taken up again is what it would
have come to with so much more time. Induction on the offers before the break. -/
theorem flush_of_brokenOff {n : Nat} {o o' : Outgoing} (h : o.flush (some n) = (.brokenOff, o'))
    (patience : Option Nat) : o.flush (patience.map (· + n)) = o'.flush patience := by
  have hqueued := queued_ne_nil_of_brokenOff h
  -- on the offers that were made before it was broken off
  induction n generalizing o with
  | zero =>
    rw [flush, if_neg hqueued, if_pos rfl] at h
    cases h
    cases patience <;> rfl
  | succ n ih =>
    have hsome : some (n + 1) ≠ some 0 := nofun
    have hmore : patience.map (· + (n + 1)) ≠ some 0 := by cases patience <;> exact nofun
    rcases o.flush_cases hqueued with ⟨o₁, -, -, -, heq⟩ | ⟨kind, o₁, -, -, -, heq⟩
    · rw [heq _ hsome] at h
      have hless : (patience.map (· + (n + 1))).map (· - 1) = patience.map (· + n) := by cases patience <;> rfl
      rw [heq _ hmore, hless]
      exact ih h (queued_ne_nil_of_brokenOff h)
    · rw [heq _ hsome] at h
      cases h

/-- A refusal ends the flush, and what was queued stays queued. -/
theorem flush_of_refuses {o : Outgoing} {patience : Option Nat} {kind : IoKind} (hqueued : o.queued ≠ [])
    (hpatience : patience ≠ some 0) (h : o.receiver.Refuses kind) :
    ∃ r, o.flush patience = (.failed kind, { o with receiver := r }) ∧ r.taken = o.receiver.taken := by
  rw [flush, if_neg hqueued, if_neg hpatience]
  rcases h with hfail | ⟨htake, rfl⟩
  · have hoffer : o.receiver.offer o.queued = (.error kind, { o.receiver with offers := o.receiver.offers + 1 }) := by
      rw [Receiver.offer, hfail]
    rw [hoffer]
    exact ⟨_, rfl, rfl⟩
  · -- taking nothing of something is a failure too
    have hoffer : o.receiver.offer o.queued = (.ok 0, { o.receiver with offers := o.receiver.offers + 1 }) := by
      rw [Receiver.offer, htake]
      show o.receiver.takeFirst 0 o.queued = _
      rw [Receiver.takeFirst, Nat.zero_min, List.take_zero, List.append_nil]
    rw [hoffer]
    exact ⟨_, if_pos rfl, rfl⟩

/-- **Where a flush stops is where it fails.** If it was broken off and the next offer is refused, a flush that has more
time makes that offer, fails with it and leaves the rest queued. -/
theorem failed_of_brokenOff {n : Nat} {o o' : Outgoing} (h : o.flush (some n) = (.brokenOff, o')) {kind : IoKind}
    (hrefuses : o'.receiver.Refuses kind) {patience : Option Nat} (hlonger : ∀ limit ∈ patience, n < limit) :
    (o.flush patience).1 = .failed kind ∧ (o.flush patience).2.queued = o'.queued := by
  obtain ⟨more, rfl, hmore⟩ : ∃ more : Option Nat, more.map (· + n) = patience ∧ more ≠ some 0 := by
    cases patience with
    | none => exact ⟨none, rfl, nofun⟩
    | some limit =>
      have hlimit : n < limit := hlonger limit rfl
      refine ⟨some (limit - n), congrArg some (Nat.sub_add_cancel (Nat.le_of_lt hlimit)), fun heq => ?_⟩
      have hzero : limit - n = 0 := Option.some.inj heq
      omega
  have hqueued : o'.queued ≠ [] := by
    -- without any more time the flush breaks off right where it is taken up
    have hnow : o'.flush (some 0) = (.brokenOff, o') := by
      rw [← flush_of_brokenOff h, Option.map_some, Nat.zero_add, h]
    exact queued_ne_nil_of_brokenOff hnow
  obtain ⟨r, hrefused, -⟩ := flush_of_refuses hqueued hmore hrefuses
  rw [flush_of_brokenOff h more, hrefused]
  exact ⟨rfl, rfl⟩

/-- A connection that takes something of every offer has the flush done, if there is an offer for each byte. -/
theorem done_of_obliging (o : Outgoing) (hobliging : o.receiver.Obliging) {patience : Option Nat}
    (henough : ∀ limit ∈ patience, o.queued.length ≤ limit) : (o.flush patience).1 = .done := by
  have hunlimited : o.flush patience = o.flush none := by
    cases patience with
    | none => rfl
    | some limit => exact o.flush_of_length_le (henough limit rfl)
  rw [hunlimited]
  rcases o.flush_none_cases with ⟨hdone, -⟩ | ⟨-, hrefused⟩
  · exact hdone
  · exact absurd hobliging hrefused

end Outgoing

end FtpIntake
