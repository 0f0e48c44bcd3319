import FtpIntake.Proofs.Connection.Line
import FtpIntake.Proofs.Exchange.Channel
import FtpIntake.Proofs.Listing
import FtpIntake.Proofs.Server.Origin

/-!
# Listings over a data connection

What a client reads off the bytes of a listing are the names of the directories in it, because no name has a line feed:
names come from the arguments of command lines, and a line ends at its first line feed. That is a fact about everything
that was heard before, by whatever client.

* **`Server.oneLine_tree`** says it of every tree that a server comes to have.
* **`Exchange.history_list_sent`** and **`history_list_missing`** are the records of a listing that goes out as a whole
  and of one that has no target.
* **`Exchange.listing_read`** puts this together with the reading of a listing.
-/

namespace FtpIntake

open Text

variable {σ : Type}

/-! ## The names in a tree

A name has no line feed because the lines that were heard have none inside. That is an invariant of the server's tree.
-/

/-- The lines that a server hears, in order, whoever sends them. -/
def Server.linesHeard (steps : List ServerStep) : List Bytes :=
  steps.filterMap fun
    | .connection _ _ (.hear (.line bytes)) => some bytes
    | _ => none

/-- **No directory that clients have made has a line feed in its name**, if what they sent was read line by line. -/
theorem Server.oneLine_tree [Pipeline σ] {service : Service} {pipeline : σ} {steps : List ServerStep} {s : Server σ}
    (hrun : ({ service, pipeline } : Server σ).runSteps steps = some s)
    (hlines : ∀ bytes ∈ Server.linesHeard steps, 10 ∉ bytes.dropLast) :
    ∀ p ∈ s.tree, p.MadeOf (· ≠ '\n') := by
  have hplain (c : Char) (hc : isControl c = false) : c ≠ '\n' := by
    rintro rfl
    exact absurd hc (by decide)
  refine (runSteps_invariant hrun (spelled_new service _ pipeline) fun step hstep t t' hmoves ht => ?_).tree
  refine ht.moves hmoves hplain fun r hr _ text htext c hc => ?_
  -- a request is executed when a line of it was heard, which has no line feed in its argument
  have hone : OneLine text := by
    cases step with
    | connection i k step =>
      cases step with
      | hear input =>
        cases input with
        | line bytes =>
          have hexecuted : (Input.line bytes).executed? service = some r := hr
          cases hread : String.fromUTF8? ⟨bytes.toArray⟩ with
          | none =>
            simp only [Input.executed?, hread] at hexecuted
            cases hexecuted
          | some line =>
            obtain rfl := Exchange.eq_of_executed? hread hexecuted
            have hheard : bytes ∈ linesHeard steps := List.mem_filterMap.2 ⟨_, hstep, rfl⟩
            exact oneLine_argument (feed_notMem_of_fromUTF8? hread (hlines bytes hheard)) text htext
        | finished => cases hr
        | failed => cases hr
      | _ => cases hr
    | _ => cases hr
  rintro rfl
  exact hone hc

/-! ## The two records

A listing of a directory that exists, sent as a whole, and one of a directory that does not. -/

/-- A stream that takes all bytes delivers them, also when it cannot be closed. -/
theorem DataStream.sendAndClose_of_send {stream : DataStream} {bytes : Bytes} (h : (stream.send bytes).2 = .ok ()) :
    (stream.sendAndClose bytes).1 = bytes := by
  have hsend : stream.send bytes = (bytes, .ok ()) := by
    unfold send at h ⊢
    -- a send that has gone well has taken all bytes: there was room for them or no limit
    split at h
    · rfl
    · split at h
      · next hroom => rw [if_pos hroom]
      · cases h
  unfold sendAndClose
  rw [hsend]
  dsimp only
  split <;> rfl

namespace Exchange

/-- A listing that is announced and whose connection is opened and takes all bytes sends these bytes. -/
theorem history_list_sent {x : Exchange σ} {form : ListingForm} {argument : Option String} {stream : DataStream}
    (hmem : x.listingDirectory argument ∈ x.tree) (hannounce : (x.reset.answer listingMark).1 = .ok ())
    (hopen : x.client.channel.openWith x.circumstances.dial = .ok stream)
    (htakes : (stream.send (x.listingBytes form argument)).2 = .ok ()) :
    (x.list form argument).2.history = x.history ++ [.stateReset, .replyQueued listingMark, .channelOpened,
      .sent (x.listingBytes form argument),
      .replyQueued (listingEnd (stream.sendAndClose (x.listingBytes form argument)).2), .channelClosed] := by
  obtain ⟨added, hlisted, hsends, -⟩ := x.sends_list form argument
  rw [hsends.history]
  generalize (x.list form argument).1 = result at hlisted
  -- the hypotheses leave one way through the command
  cases hlisted with
  | refused hchannel =>
    rw [DataChannel.isNegotiated_of_openWith hopen] at hchannel
    cases hchannel
  | missing hchannel hmissing => exact absurd hmem hmissing
  | unannounced hchannel _ hfailed =>
    rw [hfailed] at hannounce
    cases hannounce
  | notOpened hchannel _ hfailed =>
    rw [hfailed] at hopen
    cases hopen
  | sent _ hopened =>
    obtain rfl := Except.ok.inj (hopened.symm.trans hopen)
    rw [DataStream.sendAndClose_of_send htakes]
    rfl

/-- A listing without a target is refused: nothing is announced and no data connection is opened. -/
theorem history_list_missing {x : Exchange σ} (form : ListingForm) {argument : Option String}
    (hnegotiated : x.client.channel.isNegotiated = true) (hmissing : x.listingDirectory argument ∉ x.tree) :
    (x.list form argument).2.history = x.history ++ [.stateReset,
      .replyQueued (Reply.noSuchDirectory (toString (x.listingDirectory argument))), .channelClosed] := by
  obtain ⟨added, hlisted, hsends, -⟩ := x.sends_list form argument
  rw [hsends.history]
  generalize (x.list form argument).1 = result at hlisted
  -- a directory that is missing is refused before anything is announced
  cases hlisted with
  | refused hchannel =>
    rw [hnegotiated] at hchannel
    cases hchannel
  | missing => rfl
  | unannounced _ hmem => exact absurd hmem hmissing
  | notOpened _ hmem => exact absurd hmem hmissing
  | sent hmem => exact absurd hmem hmissing

/--
**What a client reads off a listing are the names of the directories in it.** Whatever commands have made the tree,
from whatever place a client asks for a listing, and whatever argument it gives and its clock shows: if a channel was
negotiated, either the directory that the argument leads to does not exist, and the client is told so with 550 and with
nothing before it, and no data connection is opened. Or it exists, and then its directories can be put in such an order
that their names increase, strictly and by code points. If the announcement can be sent and the data connection opens
and takes all bytes, what goes out in any of the three forms is read as these names, one for each directory, in this
order and with nothing left over.
-/
theorem listing_read [Pipeline σ] {service : Service} {pipeline : σ} {steps : List ServerStep} {s : Server σ}
    (hrun : ({ service, pipeline } : Server σ).runSteps steps = some s)
    (hlines : ∀ bytes ∈ Server.linesHeard steps, 10 ∉ bytes.dropLast)
    (x : Exchange σ) (htree : x.tree = s.tree) (settings : StoreSettings) (argument : Option String)
    (hnegotiated : x.client.channel.isNegotiated = true) :
    let directory := x.listingDirectory argument
    (directory ∉ x.tree → ∀ form, ∃ reply, reply.code = 550 ∧
      (x.run settings (.list form) argument).2.history =
        x.history ++ [.stateReset, .replyQueued reply, .channelClosed]) ∧
    (directory ∈ x.tree → ∃ children : List Path,
      (∀ child, child ∈ children ↔ child ∈ x.tree ∧ child.parent? = some directory) ∧
      (children.map Path.fileName).Pairwise (· < ·) ∧
      ∀ form stream, (x.reset.answer listingMark).1 = .ok () →
        x.client.channel.openWith x.circumstances.dial = .ok stream →
        (stream.send (x.listingBytes form argument)).2 = .ok () →
        ∃ bytes final,
          (x.run settings (.list form) argument).2.history = x.history ++ [.stateReset, .replyQueued listingMark,
            .channelOpened, .sent bytes, .replyQueued final, .channelClosed] ∧
          Listing.read form bytes = (children.map fun child => child.fileName.toUTF8.toList, [])) := by
  intro directory
  refine ⟨fun hmissing form => ⟨_, rfl, history_list_missing form hnegotiated hmissing⟩, fun hmem => ?_⟩
  obtain ⟨children, hchildren, hsorted, hnames⟩ := Listing.exists_children hmem
  refine ⟨children, hchildren, hsorted, fun form stream hannounce hopen htakes => ?_⟩
  refine ⟨_, _, history_list_sent hmem hannounce hopen htakes, ?_⟩
  -- the names come from lines that were heard, and a line has no line feed before its end
  have hplain : ∀ name ∈ Listing.names x.tree directory, '\n' ∉ name.toList := by
    intro name hname
    rw [hnames] at hname
    obtain ⟨child, hchild, rfl⟩ := List.mem_map.1 hname
    have hmade := Server.oneLine_tree hrun hlines child (htree ▸ ((hchildren child).1 hchild).1)
    exact fun hfeed => hmade.of_mem_fileName (by decide) hfeed rfl
  rw [listingBytes, toList_toUTF8, String.toList_ofList, Listing.read_chars form _ hplain, hnames, List.map_map]
  simp only [Function.comp_def, toList_toUTF8]

/-- Names with a carriage return, with what ends the facts and with a letter of two bytes, and one that is deeper. -/
theorem listing_read_of_odd_names :
    let steps := Server.visit ["USER ftp", "PASS x", "MKD é", "MKD b; c", "MKD b\rc", "MKD b/x"]
    ∃ s : Server Memory,
      ({ service := ⟨{}, .anonymous⟩, pipeline := {} } : Server Memory).runSteps steps = some s ∧
      (∀ bytes ∈ Server.linesHeard steps, 10 ∉ bytes.dropLast) ∧
      let x : Exchange Memory :=
        { client := { peer := ⟨.v4 .loopback, 40000⟩, here := ⟨.v4 .loopback, 2121⟩,
                      channel := .active ⟨.v4 .loopback, 40001⟩ },
          tree := s.tree, surroundings := {}, pipeline := {},
          circumstances := { dial := .connected (.v4 .loopback) {}, clock := fun i => 1735689599 + i } }
      x.listingDirectory (some "-la /") ∈ x.tree ∧
        ∃ (children : List Path) (bytes : Bytes) (final : Reply), (children.map Path.fileName).Pairwise (· < ·) ∧
          (x.run ⟨8192, 100, 5⟩ (.list .facts) (some "-la /")).2.history =
            [.stateReset, .replyQueued listingMark, .channelOpened, .sent bytes, .replyQueued final, .channelClosed] ∧
          Listing.read .facts bytes = (children.map fun child => child.fileName.toUTF8.toList, []) ∧
          Path.parse "/b; c" ∈ children := by
  intro steps
  have hrun : (({ service := ⟨{}, .anonymous⟩, pipeline := {} } : Server Memory).runSteps steps).any
      (fun s => s.tree.contains (Path.parse "/b; c")) = true := by decide +kernel
  have hlines : ∀ bytes ∈ Server.linesHeard steps, 10 ∉ bytes.dropLast := by decide +kernel
  obtain ⟨s, hs, hcontains⟩ := (Option.any_eq_true _ _).1 hrun
  refine ⟨s, hs, hlines, ?_⟩
  intro x
  -- the dash begins an option, which is not part of the target
  have htarget : (some "-la /").bind Listing.target? = some "/" := by decide +kernel
  have hdirectory : x.listingDirectory (some "-la /") = Path.root := by
    rw [listingDirectory, htarget]
    exact show Cursor.start.lookup "/" = Path.root by decide
  have hmem : x.listingDirectory (some "-la /") ∈ x.tree := by
    rw [hdirectory]
    exact s.tree.root_mem
  obtain ⟨children, hchildren, hsorted, hread⟩ := (listing_read hs hlines x rfl ⟨8192, 100, 5⟩ (some "-la /") rfl).2 hmem
  have hannounce : (x.reset.answer listingMark).1 = .ok () := (sends_answer _ _).obliging fun _ _ => ⟨nofun, nofun⟩
  obtain ⟨bytes, final, hhistory, hnames⟩ := hread .facts {} hannounce rfl rfl
  refine ⟨hmem, children, bytes, final, hsorted, hhistory, hnames, (hchildren _).2 ⟨Tree.contains_iff.1 hcontains, ?_⟩⟩
  rw [hdirectory]
  decide

end Exchange

end FtpIntake
