import FtpIntake.Cursor

/-!
# Which characters a path is made of

A path holds no character that nobody has sent: its names are pieces of the texts it was resolved from, and nothing is
added to them but slashes when they are written out. So whatever holds of all characters of these texts holds of all
characters of the path and of its texts.

**`Path.MadeOf`** says that every character of every name has a property. It is kept by `resolve`, and it is read off
each of the three texts of a path, up to the slashes.
-/

namespace FtpIntake.Path

open Text

/-- Every character of every name of the path has the property. -/
def MadeOf (P : Char → Prop) (p : Path) : Prop :=
  ∀ s ∈ p.names, ∀ c ∈ s.toList, P c

variable {P : Char → Prop} {p base : Path}

/-- The root has no names. -/
theorem madeOf_root : root.MadeOf P := by
  intro s hs
  exact absurd hs List.not_mem_nil

/-! ## Resolving

What a path is made of comes from the texts that it was resolved from. This is said for any property of characters
that the two separators have. -/

/-- A piece consists of characters of the text, because the slashes that stand for backslashes are not in it. -/
theorem mem_of_mem_pieces {raw piece : List Char} {c : Char} (hpiece : piece ∈ pieces raw) (hc : c ∈ piece) :
    c ∈ raw := by
  have hslash : c ≠ '/' := by
    rintro rfl
    exact (separator_notMem_of_mem_pieces hpiece).1 hc
  obtain ⟨d, hd, hunify⟩ := List.mem_map.1 (mem_of_mem_splitAt hpiece hc)
  unfold unifySeparator at hunify
  split at hunify
  · exact absurd hunify.symm hslash
  · exact hunify ▸ hd

/-- A step brings in one name, which is the piece that was followed. -/
theorem mem_follow {names : List String} {piece : List Char} {s : String} (h : s ∈ follow names piece) :
    s ∈ names ∨ s = String.ofList piece := by
  unfold follow at h
  split at h
  · exact .inl h
  · split at h
    · exact .inl (List.dropLast_subset _ h)
    · rcases List.mem_append.1 h with h | h
      · exact .inl h
      · exact .inr (List.mem_singleton.1 h)

/-- Following pieces only ever drops names or adds a piece. Induction on the pieces. -/
theorem mem_foldl_follow {pieces : List (List Char)} {names : List String} {s : String}
    (h : s ∈ pieces.foldl follow names) : s ∈ names ∨ ∃ piece ∈ pieces, s = String.ofList piece := by
  induction pieces generalizing names with
  | nil => exact .inl h
  | cons piece pieces ih =>
    rcases ih h with h | ⟨piece', hmem, heq⟩
    · rcases mem_follow h with h | heq
      · exact .inl h
      · exact .inr ⟨piece, List.mem_cons_self, heq⟩
    · exact .inr ⟨piece', List.mem_cons_of_mem _ hmem, heq⟩

/-- **A path is made of what it was resolved from.** -/
theorem MadeOf.resolve (hbase : base.MadeOf P) {raw : String} (hraw : ∀ c ∈ raw.toList, P c) :
    (base.resolve raw).MadeOf P := by
  intro s hs c hc
  -- a name was in the base already, or it is one of the pieces
  rcases mem_foldl_follow hs with hs | ⟨piece, hpiece, rfl⟩
  · split at hs
    · exact absurd hs List.not_mem_nil
    · exact hbase s hs c hc
  · rw [String.toList_ofList] at hc
    exact hraw c (mem_of_mem_pieces hpiece hc)

/-! ## The texts of a path

The other way: what is printed of a path has no other characters than its names, but for the slash. -/

/-- The text of a path has slashes and the characters of its names. -/
theorem mem_toString {c : Char} (h : c ∈ p.toString.toList) : c = '/' ∨ ∃ s ∈ p.names, c ∈ s.toList := by
  unfold Path.toString at h
  split at h
  · exact .inl (List.mem_singleton.1 h)
  · rw [String.toList_join] at h
    obtain ⟨chars, hchars, hc⟩ := List.mem_flatMap.1 h
    obtain ⟨s, hs, rfl⟩ := List.mem_map.1 hchars
    rw [String.toList_append, List.mem_append] at hc
    rcases hc with hc | hc
    · exact .inl (List.mem_singleton.1 hc)
    · exact .inr ⟨s, hs, hc⟩

/-- So what holds of all names and of slashes holds of the text. -/
theorem MadeOf.of_mem_toString (h : p.MadeOf P) (hslash : P '/') {c : Char} (hc : c ∈ p.toString.toList) : P c := by
  rcases mem_toString hc with rfl | ⟨s, hs, hc⟩
  · exact hslash
  · exact h s hs c hc

/-- The last name of a path is one of its names, and the root has a slash for one. -/
theorem MadeOf.of_mem_fileName (h : p.MadeOf P) (hslash : P '/') {c : Char} (hc : c ∈ p.fileName.toList) : P c := by
  unfold fileName at hc
  cases hlast : p.names.getLast? with
  | none =>
    rw [List.getLastD_eq_getLast?, hlast] at hc
    rw [List.mem_singleton.1 hc]
    exact hslash
  | some s =>
    rw [List.getLastD_eq_getLast?, hlast] at hc
    exact h s (List.mem_of_getLast? hlast) c hc

/-- The directory that holds a path has no names but those of the path. -/
theorem MadeOf.parent? (h : p.MadeOf P) {parent : Path} (hparent : p.parent? = some parent) : parent.MadeOf P := by
  unfold Path.parent? at hparent
  split at hparent
  · cases hparent
  · cases hparent
    intro s hs
    exact h s (List.dropLast_subset _ hs)

theorem MadeOf.of_mem_containerText (h : p.MadeOf P) (hslash : P '/') {c : Char} (hc : c ∈ p.containerText.toList) :
    P c := by
  unfold containerText at hc
  split at hc
  · rw [List.mem_singleton.1 hc]
    exact hslash
  · -- a slash, or the text of the directory with a slash behind it
    next parent hparent =>
    split at hc
    · rw [List.mem_singleton.1 hc]
      exact hslash
    · rw [String.toList_append, List.mem_append] at hc
      rcases hc with hc | hc
      · exact (h.parent? hparent).of_mem_toString hslash hc
      · rw [List.mem_singleton.1 hc]
        exact hslash

end FtpIntake.Path
