import FtpIntake.Proofs.Since
import FtpIntake.Tree
import Mathlib.Data.Set.Card

/-!
# The history of a tree

Everybody works on one tree, and every operation on it is atomic. Whatever the callers do and in whatever order they
come, it amounts to one list of operations on a new tree. What exists in the end is decided by that list and by the
answers that were given.

* **`Tree.mem_perform`** is one operation: a path exists after it if it was made just now, or if it existed before and
  the operation has spared it.
* **`Tree.mem_after_iff`** is the whole history, by induction from its end.
* **`Tree.contains_after_iff`** puts it together with what the operations answer, count and list.
-/

namespace FtpIntake

/-- What a caller does to a tree. -/
inductive TreeOperation where
  | create (p : Path)
  | delete (p : Path)
  /-- Everything but the root goes. -/
  | clear
  deriving DecidableEq

/-- An operation and what the tree answered to it. -/
structure TreeEvent where
  operation : TreeOperation
  answer : Bool
  deriving DecidableEq

/-- Whether an event leaves a path alone: it has neither cleared the tree nor removed the path or one above it. -/
def TreeEvent.Spares (p : Path) (e : TreeEvent) : Prop :=
  e.operation ≠ .clear ∧ ∀ q, e.operation = .delete q → e.answer = true → q.isAncestorOf p = false

namespace Tree

/-- Carries out an operation. A clearing has nothing to answer but that it is done. -/
def perform (t : Tree) : TreeOperation → Bool × Tree
  | .create p => t.create p
  | .delete p => t.delete p
  | .clear => (true, empty)

def after (t : Tree) (operations : List TreeOperation) : Tree :=
  operations.foldl (fun t operation => (t.perform operation).2) t

/-- The operations with the answers that they get one after the other. -/
def events (t : Tree) : List TreeOperation → List TreeEvent
  | [] => []
  | operation :: rest => ⟨operation, (t.perform operation).1⟩ :: (t.perform operation).2.events rest

theorem after_append (t : Tree) (earlier later : List TreeOperation) :
    t.after (earlier ++ later) = (t.after earlier).after later :=
  List.foldl_append

theorem events_append (t : Tree) (earlier later : List TreeOperation) :
    t.events (earlier ++ later) = t.events earlier ++ (t.after earlier).events later := by
  induction earlier generalizing t with
  | nil => rfl
  | cons operation earlier ih => exact congrArg (_ :: ·) (ih (t.perform operation).2)

/-! ## One operation

Whether a path exists after an operation depends on whether it was made, or existed and was spared. -/

/-- A path other than the root exists after an operation that has just made it, or that has spared it. -/
theorem mem_perform {t : Tree} {p : Path} (hroot : p ≠ Path.root) (operation : TreeOperation) :
    p ∈ (t.perform operation).2 ↔
      operation = .create p ∨ (p ∈ t ∧ TreeEvent.Spares p ⟨operation, (t.perform operation).1⟩) := by
  cases operation with
  -- a creation spares everything, so what is said of it is only whether it made the path
  | create q =>
    have hspares : TreeEvent.Spares p ⟨.create q, (t.create q).1⟩ := ⟨by simp, by simp⟩
    show p ∈ (t.create q).2 ↔ _
    rw [mem_create, TreeOperation.create.injEq, eq_comm (a := q)]
    exact or_congr_right (and_iff_left hspares).symm
  | delete q =>
    have hspares : TreeEvent.Spares p ⟨.delete q, (t.delete q).1⟩ ↔
        ¬((t.delete q).1 = true ∧ q.isAncestorOf p = true) := by
      simp [TreeEvent.Spares]
    show p ∈ (t.delete q).2 ↔ _ ∨ (p ∈ t ∧ TreeEvent.Spares p ⟨.delete q, (t.delete q).1⟩)
    rw [mem_delete, hspares]
    simp
  -- the root alone survives a clearing, and it is not what is asked for
  | clear =>
    show p ∈ empty ↔ _
    rw [mem_empty]
    simp [hroot, TreeEvent.Spares]

/-! ## The whole history

An event is the last one that made the path, or everything that made the path before it still counts. -/

/-- The path was made, and every event since then has spared it. -/
def MadeAndSpared (p : Path) (events : List TreeEvent) : Prop :=
  ∃ earlier answer later, events = earlier ++ ⟨.create p, answer⟩ :: later ∧ ∀ e ∈ later, e.Spares p

theorem madeAndSpared_iff_since {p : Path} {events : List TreeEvent} :
    MadeAndSpared p events ↔ Since (fun e => e.operation = .create p) (TreeEvent.Spares p) events := by
  constructor
  · rintro ⟨earlier, answer, later, heq, hspares⟩
    exact ⟨earlier, ⟨.create p, answer⟩, later, heq, rfl, hspares⟩
  · rintro ⟨earlier, ⟨operation, answer⟩, later, heq, hmade, hspares⟩
    obtain rfl : operation = .create p := hmade
    exact ⟨earlier, answer, later, heq, hspares⟩

/-- **What exists after a history**: the root, and every path that was made and has been spared since. -/
theorem mem_after_iff (operations : List TreeOperation) {p : Path} (hroot : p ≠ Path.root) :
    p ∈ empty.after operations ↔ MadeAndSpared p (empty.events operations) := by
  induction operations using List.reverseRecOn with
  | nil =>
    have hnone : ¬MadeAndSpared p [] := fun h => not_since_nil (madeAndSpared_iff_since.1 h)
    exact iff_of_false (fun h => hroot (mem_empty.1 h)) hnone
  | append_singleton operations operation ih =>
    rw [after_append, events_append]
    show p ∈ ((empty.after operations).perform operation).2 ↔ MadeAndSpared p (_ ++ [⟨operation, _⟩])
    rw [mem_perform hroot, madeAndSpared_iff_since, since_append_singleton, ← madeAndSpared_iff_since, ih]

/-! ## What is counted and listed

The counts and lists are about membership again, since a tree has each directory once. -/

theorem size_eq_ncard (t : Tree) : t.size = {p | t.contains p = true}.ncard := by
  have hset : {p | t.contains p = true} = (t.directories.toFinset : Set Path) := by
    ext p
    rw [Set.mem_ofPred_eq, contains_iff, Finset.mem_coe, List.mem_toFinset]
    rfl
  rw [hset, Set.ncard_coe_finset, List.toFinset_card_of_nodup t.nodup]
  rfl

theorem nodup_children (t : Tree) (d : Path) : (t.children d).Nodup := by
  unfold children
  split
  · exact t.nodup.filter _
  · exact List.nodup_nil

/-- What a successful removal takes away is told by the names from the root on, not by the letters of the text. -/
theorem contains_delete_iff {t : Tree} {q : Path} (h : (t.delete q).1 = true) (p : Path) :
    (t.delete q).2.contains p = true ↔ t.contains p = true ∧ ¬q.names <+: p.names := by
  have hroot : q.isRoot = false := by
    rw [Bool.eq_false_iff]
    exact fun hq => (delete_fst.1 h).1 (Path.isRoot_iff.1 hq)
  rw [contains_iff, contains_iff, mem_delete, h, Path.isAncestorOf, hroot]
  simp

/--
**What exists is what was made and spared.** After any operations on a new tree, a path exists just if it is the root or
was made at some time since when the tree has not been cleared and no removal has succeeded on the path or on one above
it. Whether the directories above it exist does not matter.

An operation that comes next makes a path just if it does not exist, and removes one just if it exists and is not the
root; then everything at or below it is gone and nothing else. The size is the number of paths that exist, and a
directory that exists lists those of which it is the parent, each once. One that does not exist lists nothing.
-/
theorem contains_after_iff (operations : List TreeOperation) :
    let t := empty.after operations
    (∀ p, t.contains p = true ↔ p = Path.root ∨
      ∃ earlier answer later, empty.events operations = earlier ++ ⟨.create p, answer⟩ :: later ∧
        ∀ e ∈ later, e.operation ≠ .clear ∧
          ∀ q, e.operation = .delete q → e.answer = true → q.isAncestorOf p = false) ∧
    (∀ p, (t.create p).1 = true ↔ t.contains p = false) ∧
    (∀ q, (t.delete q).1 = true ↔ q ≠ Path.root ∧ t.contains q = true) ∧
    (∀ q, (t.delete q).1 = true → ∀ p,
      (t.delete q).2.contains p = true ↔ t.contains p = true ∧ ¬q.names <+: p.names) ∧
    t.size = {p | t.contains p = true}.ncard ∧
    ∀ d, (t.children d).Nodup ∧
      ∀ p, p ∈ t.children d ↔ t.contains d = true ∧ t.contains p = true ∧ p.parent? = some d := by
  intro t
  refine ⟨fun p => ?_, fun p => ?_, fun q => ?_, fun q hq => contains_delete_iff hq, size_eq_ncard t,
    fun d => ⟨nodup_children t d, fun p => ?_⟩⟩
  · -- the history says nothing about the root, which is there from the beginning
    by_cases hroot : p = Path.root
    · have hmem : p ∈ t := hroot ▸ root_mem' t
      exact iff_of_true (contains_iff.2 hmem) (.inl hroot)
    · rw [contains_iff, or_iff_right hroot]
      exact mem_after_iff operations hroot
  · rw [create_fst, Bool.eq_false_iff, ne_eq, contains_iff]
  · rw [delete_fst, contains_iff]
  · rw [mem_children, contains_iff, contains_iff]

-- a directory without a parent outlives the removal of a directory that does not exist and of a namesake
example :
    let a := Path.parse "/a"
    let t := empty.after [.create (Path.parse "/a/b"), .delete a, .create (Path.parse "/ab"), .create a, .delete a]
    t.contains (Path.parse "/a/b") = false ∧ t.contains (Path.parse "/ab") = true ∧
      (empty.after [.create (Path.parse "/a/b"), .delete a]).contains (Path.parse "/a/b") = true := by
  decide

end Tree

end FtpIntake
