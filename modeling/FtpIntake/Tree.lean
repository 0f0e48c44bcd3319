import FtpIntake.Path

/-!
# The directory tree

A `Tree` is the set of directories that exist, and the root always does. It is flat: which directory lies in
which follows from the paths, so a directory can be made although the one above it does not exist, and removing
a directory removes what lies below it whether or not the directories in between exist.

The view of a tree is membership, `p ∈ t`. Every operation is described by what it does to membership.
-/

namespace FtpIntake

/-- The directories that exist, each listed once. -/
structure Tree where
  directories : List Path
  nodup : directories.Nodup
  root_mem : Path.root ∈ directories

namespace Tree

instance : Membership Path Tree where
  mem t p := p ∈ t.directories

instance (p : Path) (t : Tree) : Decidable (p ∈ t) :=
  inferInstanceAs (Decidable (p ∈ t.directories))

theorem mem_def {p : Path} {t : Tree} : p ∈ t ↔ p ∈ t.directories := Iff.rfl

/-- The tree that holds the root alone. -/
def empty : Tree := ⟨[Path.root], by simp, by simp⟩

instance : Inhabited Tree := ⟨empty⟩

/-- How many directories exist, the root included. -/
def size (t : Tree) : Nat :=
  t.directories.length

/-- Whether a directory exists. -/
def contains (t : Tree) (p : Path) : Bool :=
  decide (p ∈ t)

/-- Makes a directory, and tells whether it is new. The directories above it are not made. -/
def create (t : Tree) (p : Path) : Bool × Tree :=
  if h : p ∈ t.directories then (false, t)
  else (true, ⟨p :: t.directories, List.nodup_cons.2 ⟨h, t.nodup⟩, List.mem_cons_of_mem _ t.root_mem⟩)

/--
Removes a directory and everything below it, and tells whether it did. The root and a directory that does not
exist are not removed.
-/
def delete (t : Tree) (p : Path) : Bool × Tree :=
  if p.isRoot || !t.contains p then (false, t)
  else
    (true,
      -- a path is its own ancestor here, so it goes with the rest
      { directories := t.directories.filter (fun q => !p.isAncestorOf q)
        nodup := t.nodup.filter _
        root_mem := List.mem_filter.2 ⟨t.root_mem, by simp⟩ })

/-- The directories directly inside `p`, if `p` exists. -/
def children (t : Tree) (p : Path) : List Path :=
  if t.contains p then
    -- the depth alone would not do: it is the parent that has to be this directory
    t.directories.filter (fun q => q.depth == p.depth + 1 && q.parent? == some p)
  else []

/-! ## What the operations do to membership

These are the equations that everything else uses; how the directories are kept is not looked at again. -/

@[simp] theorem root_mem' (t : Tree) : Path.root ∈ t := t.root_mem

@[simp] theorem mem_empty {p : Path} : p ∈ empty ↔ p = Path.root := by
  simp [mem_def, empty]

@[simp] theorem contains_iff {t : Tree} {p : Path} : t.contains p = true ↔ p ∈ t := by
  simp [contains]

/-- Making a directory adds it and nothing else. -/
theorem mem_create {t : Tree} {p q : Path} : q ∈ (t.create p).2 ↔ q = p ∨ q ∈ t := by
  unfold create
  split
  · next h =>
    constructor
    · exact Or.inr
    · rintro (rfl | h')
      · exact h
      · exact h'
  · simp [mem_def]

/-- A directory is new exactly when it did not exist. -/
theorem create_fst {t : Tree} {p : Path} : (t.create p).1 = true ↔ p ∉ t := by
  unfold create
  split <;> simp_all [mem_def]

/-- A removal succeeds exactly on the existing directories other than the root. -/
theorem delete_fst {t : Tree} {p : Path} : (t.delete p).1 = true ↔ p ≠ Path.root ∧ p ∈ t := by
  unfold delete
  split
  · next h =>
    simp only [Bool.or_eq_true, Bool.not_eq_true'] at h
    -- there are two reasons to refuse: it is the root, or it does not exist
    rcases h with h | h
    · simp [Path.isRoot_iff.1 h]
    · have : p ∉ t := fun hm => by simp [contains_iff.2 hm] at h
      simp [this]
  · next h =>
    simp only [Bool.or_eq_true, not_or, Bool.not_eq_true', Bool.not_eq_false] at h
    simp only [true_iff]
    exact ⟨fun hr => h.1 (Path.isRoot_iff.2 hr), contains_iff.1 h.2⟩

/-- A successful removal takes away the directory and what lies below it, and nothing else. -/
theorem mem_delete {t : Tree} {p q : Path} :
    q ∈ (t.delete p).2 ↔ q ∈ t ∧ ¬((t.delete p).1 = true ∧ p.isAncestorOf q = true) := by
  unfold delete
  split
  · simp
  · simp [mem_def, List.mem_filter]

/-- The children of an existing directory are the existing directories whose parent it is. -/
theorem mem_children {t : Tree} {p q : Path} :
    q ∈ t.children p ↔ p ∈ t ∧ q ∈ t ∧ q.parent? = some p := by
  unfold children
  split
  · next h =>
    simp only [List.mem_filter, Bool.and_eq_true, beq_iff_eq, mem_def]
    constructor
    · rintro ⟨hq, -, hp⟩
      exact ⟨contains_iff.1 h, hq, hp⟩
    · rintro ⟨-, hq, hp⟩
      refine ⟨hq, ?_, hp⟩
      unfold Path.parent? at hp
      split at hp
      · simp at hp
      · next hr =>
        -- the depth follows from the parent, so the test for it takes nothing away
        obtain rfl := Option.some.inj hp
        have : q.names ≠ [] := fun hn => hr (by simp [Path.isRoot, hn])
        have := List.length_pos_iff.2 this
        simp only [Path.depth, List.length_dropLast]
        omega
  · next h =>
    have : p ∉ t := fun hm => h (contains_iff.2 hm)
    simp [this]

end Tree

end FtpIntake
