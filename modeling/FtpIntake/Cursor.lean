import FtpIntake.Tree

/-!
# Cursors

A `Cursor` is one client's place in the shared tree. It starts at the root and moves only to directories that
exist. The directory it stands in may be removed by somebody else; the cursor stays where it is, and texts are
still resolved against it.
-/

namespace FtpIntake

/-- A current directory. -/
structure Cursor where
  current : Path
  deriving DecidableEq

namespace Cursor

/-- A cursor at the root. -/
def start : Cursor := ⟨Path.root⟩

instance : Inhabited Cursor := ⟨start⟩

/-- The path a text leads to from here, whether or not it exists. -/
def lookup (c : Cursor) (raw : String) : Path :=
  c.current.resolve raw

/-- Goes to the directory a text leads to, if it exists, and tells whether it did. -/
def move (c : Cursor) (t : Tree) (raw : String) : Bool × Cursor :=
  if t.contains (c.lookup raw) then (true, ⟨c.lookup raw⟩) else (false, c)

/-- A move succeeds exactly when its target exists, and then the cursor is there. -/
theorem move_eq_true_iff {c d : Cursor} {t : Tree} {raw : String} :
    c.move t raw = (true, d) ↔ c.lookup raw ∈ t ∧ d.current = c.lookup raw := by
  obtain ⟨dir⟩ := d
  unfold move
  split
  · next h =>
    simp only [Prod.mk.injEq, true_and, Cursor.mk.injEq]
    exact ⟨fun he => ⟨Tree.contains_iff.1 h, he.symm⟩, fun he => he.2.symm⟩
  · next h =>
    constructor
    · intro he
      simp at he
    · exact fun he => absurd (Tree.contains_iff.2 he.1) h

/-- A failed move leaves the cursor where it was. -/
theorem move_snd_of_notMem {c : Cursor} {t : Tree} {raw : String} (h : c.lookup raw ∉ t) :
    c.move t raw = (false, c) := by
  simp [move, h]

end Cursor

end FtpIntake
