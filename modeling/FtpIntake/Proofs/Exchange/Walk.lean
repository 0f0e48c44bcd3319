import FtpIntake.Proofs.Exchange.Answered
import FtpIntake.Proofs.Path.Join
import FtpIntake.Pipeline.Memory

/-!
# Walking through directories

`CWD` goes to the directory that its argument leads to, if it exists. A client may take a way in several steps or all at
once: where each directory on the way exists, the texts one after the other and the text they are joined to lead to the
same place.

* **`Path.waypoints`** are the directories that texts lead to one after the other, and **`Exchange.enterAll`** is one
  `CWD` after the other.
* **`Exchange.enterAll_of_forall_mem`**: along directories that exist every step is taken, and each is answered `250`.
* **`Exchange.walk_joined`** is about the joined text.
-/

namespace FtpIntake

/-- Where the texts lead, each followed from where the one before has led. -/
def Path.waypoints (base : Path) : List String → List Path
  | [] => []
  | text :: texts => base.resolve text :: waypoints (base.resolve text) texts

/-- The last of the waypoints is where the texts lead to. Induction on the texts. -/
theorem Path.foldl_resolve_mem_waypoints (base : Path) (text : String) (texts : List String) :
    (text :: texts).foldl resolve base ∈ waypoints base (text :: texts) := by
  induction texts generalizing base text with
  | nil => exact List.mem_singleton_self _
  | cons next texts ih => exact List.mem_cons_of_mem _ (ih (base.resolve text) next)

namespace Exchange

variable {σ : Type} [Pipeline σ]

/-- One `CWD` after the other. -/
def enterAll (x : Exchange σ) (settings : StoreSettings) (texts : List String) : Exchange σ :=
  texts.foldl (fun x text => (x.run settings .changeDirectory (some text)).2) x

/-- What a `CWD` leaves on record that has gone to a directory. -/
def entering (current : Path) : List Effect :=
  [.stateReset, .replyQueued (arrival current)]

/-- A `CWD` to a directory that exists goes there, says so and leaves the tree alone. -/
theorem run_changeDirectory_of_mem (x : Exchange σ) (settings : StoreSettings) {text : String}
    (h : x.lookup text ∈ x.tree) :
    let y := (x.run settings .changeDirectory (some text)).2
    y.client.cursor = ⟨x.lookup text⟩ ∧ y.tree = x.tree ∧ y.history = x.history ++ entering (x.lookup text) := by
  -- the current command is cleared, the client put down, and the arrival told
  have hrun : x.run settings .changeDirectory (some text) =
      (x.reset.place (x.lookup text)).answer (arrival (x.lookup text)) := by
    show x.reset.changeDirectory text = _
    unfold changeDirectory
    rw [move_of_mem h]
    rfl
  have hreset : (x.reset.place (x.lookup text)).history = x.history ++ [.stateReset] := List.reverse_cons
  dsimp only
  rw [hrun, history_answer, hreset, answer_snd, List.append_assoc]
  exact ⟨rfl, rfl, rfl⟩

/-- **Along directories that exist every step is taken.** Induction on the texts. -/
theorem enterAll_of_forall_mem {x : Exchange σ} (settings : StoreSettings) {texts : List String}
    (h : ∀ p ∈ x.client.cursor.current.waypoints texts, p ∈ x.tree) :
    (x.enterAll settings texts).client.cursor.current = texts.foldl Path.resolve x.client.cursor.current ∧
      (x.enterAll settings texts).tree = x.tree ∧
      (x.enterAll settings texts).history =
        x.history ++ (x.client.cursor.current.waypoints texts).flatMap entering := by
  induction texts generalizing x with
  | nil => exact ⟨rfl, rfl, (List.append_nil _).symm⟩
  | cons text texts ih =>
    obtain ⟨hmem, hrest⟩ := List.forall_mem_cons.1 h
    obtain ⟨hcursor, htree, hhistory⟩ := run_changeDirectory_of_mem x settings hmem
    have hcurrent : (x.run settings .changeDirectory (some text)).2.client.cursor.current =
        x.client.cursor.current.resolve text := congrArg Cursor.current hcursor
    -- the rest of the way starts where the first step has led, in the same tree
    rw [← hcurrent, ← htree] at hrest
    obtain ⟨hplace, htree', hhistory'⟩ := ih hrest
    rw [hcurrent] at hplace hhistory'
    refine ⟨hplace, htree'.trans htree, hhistory'.trans ?_⟩
    rw [hhistory, List.append_assoc]
    rfl

/-- **It makes no difference where a text is cut.** From any base, a text that is joined to another by either slash
leads on from where that one leads, and a text that begins with a slash starts over at the root. So a client that goes
through existing directories one by one, and a client that goes all the way with the joined text, come to the same
place. Every `CWD` of both is answered `250` with the directory that it has reached, and the tree stays as it is. -/
theorem walk_joined (x : Exchange σ) (settings : StoreSettings) :
    (∀ (base : Path) (a b : String), a ≠ "" → ¬Path.BeginsWithSeparator b → ∀ separator ∈ ["/", "\\"],
        base.resolve (a ++ separator ++ b) = (base.resolve a).resolve b) ∧
      (∀ (base : Path) (b : String), Path.BeginsWithSeparator b → base.resolve b = Path.parse b) ∧
      ∀ (first : String) (rest : List (String × String)), first ≠ "" → Path.Joinable rest →
        let texts := first :: rest.map Prod.snd
        let waypoints := x.client.cursor.current.waypoints texts
        let stepwise := x.enterAll settings texts
        let once := (x.run settings .changeDirectory (some (Path.joined first rest))).2
        (∀ p ∈ waypoints, p ∈ x.tree) →
          stepwise.client.cursor = once.client.cursor ∧ stepwise.tree = x.tree ∧ once.tree = x.tree ∧
            stepwise.history = x.history ++ waypoints.flatMap entering ∧
            once.history = x.history ++ entering once.client.cursor.current := by
  refine ⟨fun base a b ha hb separator hseparator => Path.resolve_join base ha hseparator hb,
    fun base b hb => Path.resolve_of_beginsWithSeparator base hb, ?_⟩
  intro first rest hfirst hrest texts waypoints stepwise once hexist
  obtain ⟨hplace, htree, hhistory⟩ := enterAll_of_forall_mem settings hexist
  -- the joined text leads to the last of the directories on the way, so it leads to one that exists
  have hlookup : x.lookup (Path.joined first rest) = texts.foldl Path.resolve x.client.cursor.current :=
    Path.resolve_joined x.client.cursor.current hfirst hrest
  have hmem : x.lookup (Path.joined first rest) ∈ x.tree :=
    hlookup ▸ hexist _ (Path.foldl_resolve_mem_waypoints x.client.cursor.current first _)
  obtain ⟨hcursor, honce, hanswered⟩ := run_changeDirectory_of_mem x settings hmem
  refine ⟨?_, htree, honce, hhistory, ?_⟩
  · rw [hcursor, hlookup, ← hplace]
  · rw [hcursor]
    exact hanswered

/-- Both slashes, a dot and two dots are on this way. -/
theorem walk_joined_of_mixed :
    let x : Exchange Memory :=
      { client := { peer := ⟨.v4 .loopback, 40000⟩, here := ⟨.v4 .loopback, 2121⟩ },
        tree := ((Tree.empty.create (Path.parse "/a")).2.create (Path.parse "/a/c")).2,
        surroundings := {}, pipeline := {}, circumstances := {} }
    let rest := [("\\", "./c"), ("/", "..\\\\.")]
    "../a//" ≠ "" ∧ Path.Joinable rest ∧
      (∀ p ∈ x.client.cursor.current.waypoints ("../a//" :: rest.map Prod.snd), p ∈ x.tree) ∧
      Path.joined "../a//" rest = "../a//\\./c/..\\\\." ∧
      (x.enterAll ⟨8192, 100, 5⟩ ("../a//" :: rest.map Prod.snd)).client.cursor =
        (x.run ⟨8192, 100, 5⟩ .changeDirectory (some (Path.joined "../a//" rest))).2.client.cursor := by
  intro x rest
  have hfirst : "../a//" ≠ "" := by decide
  have hrest : Path.Joinable rest := by decide
  have hexist : ∀ p ∈ x.client.cursor.current.waypoints ("../a//" :: rest.map Prod.snd), p ∈ x.tree := by decide
  exact ⟨hfirst, hrest, hexist, by decide,
    ((walk_joined x ⟨8192, 100, 5⟩).2.2 "../a//" rest hfirst hrest hexist).1⟩

end Exchange

end FtpIntake
