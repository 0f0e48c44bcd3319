import FtpIntake.Proofs.Path.Normal

/-!
# Joined texts

A text is followed piece by piece, and a separator between two texts is a cut between their pieces. So it makes no
difference where a text is cut: what two texts lead to one after the other, they lead to when they are joined by either
slash, as long as the second one does not start over at the root.

* **`Path.pieces_append_separator`**: the pieces of a joined text are those of its parts.
* **`Path.resolve_join`** and **`Path.resolve_of_beginsWithSeparator`**: a text that is joined to another, and one that
  starts over.
* **`Path.resolve_joined`** is the first of these for any number of texts.
-/

namespace FtpIntake

namespace Text

/-- A separator cuts a text wherever it stands. Induction on what is in front of it. -/
theorem splitAt_append_cons (d : Char) (s r : List Char) : splitAt d (s ++ d :: r) = splitAt d s ++ splitAt d r := by
  induction s with
  | nil => simp [splitAt]
  | cons c s ih =>
    rw [List.cons_append, splitAt, ih, splitAt]
    by_cases hc : c = d
    · simp only [if_pos hc, List.cons_append]
    · simp only [if_neg hc]
      obtain ⟨piece, pieces, hpieces⟩ := List.exists_cons_of_ne_nil (splitAt_ne_nil d s)
      simp only [hpieces, List.cons_append]

end Text

namespace Path

open Text

/-- Whether a text begins with a slash or a backslash. -/
def BeginsWithSeparator (s : String) : Prop :=
  s.toList.head? = some '/' ∨ s.toList.head? = some '\\'

instance (s : String) : Decidable (BeginsWithSeparator s) :=
  inferInstanceAs (Decidable (_ ∨ _))

/-! ## Cutting and starting over

Joining two texts joins their pieces, but a second text that begins with a separator starts over at the root. -/

theorem pieces_append_separator {separator : Char} (h : unifySeparator separator = '/') (s r : List Char) :
    pieces (s ++ separator :: r) = pieces s ++ pieces r := by
  rw [pieces, List.map_append, List.map_cons, h, splitAt_append_cons]
  rfl

theorem unifySeparator_eq_iff {c : Char} : unifySeparator c = '/' ↔ c = '/' ∨ c = '\\' := by
  unfold unifySeparator
  split
  · next hbackslash => simp [hbackslash]
  · next hother => simp [hother]

theorem isAbsolute_iff {s : String} : isAbsolute s.toList = true ↔ BeginsWithSeparator s := by
  rw [isAbsolute, beq_iff_eq, List.head?_map, Option.map_eq_some_iff, BeginsWithSeparator]
  constructor
  · rintro ⟨c, hc, hunified⟩
    rcases unifySeparator_eq_iff.1 hunified with rfl | rfl
    · exact .inl hc
    · exact .inr hc
  · rintro (hc | hc)
    · exact ⟨'/', hc, by decide⟩
    · exact ⟨'\\', hc, by decide⟩

theorem names_resolve (base : Path) (raw : String) :
    (base.resolve raw).names =
      (pieces raw.toList).foldl follow (if BeginsWithSeparator raw then [] else base.names) := by
  simp only [← isAbsolute_iff]
  rfl

/-- **A text that begins with a separator leads to the same place from everywhere.** -/
theorem resolve_of_beginsWithSeparator (base : Path) {b : String} (h : BeginsWithSeparator b) :
    base.resolve b = parse b := by
  refine ext ?_
  rw [parse, names_resolve, names_resolve, if_pos h, if_pos h]

/-- **Two texts that are joined lead to what they lead to one after the other.** -/
theorem resolve_join (base : Path) {a b separator : String} (ha : a ≠ "") (hseparator : separator ∈ ["/", "\\"])
    (hb : ¬BeginsWithSeparator b) : base.resolve (a ++ separator ++ b) = (base.resolve a).resolve b := by
  obtain ⟨c, hc, htext⟩ : ∃ c, unifySeparator c = '/' ∧ (a ++ separator ++ b).toList = a.toList ++ c :: b.toList := by
    rw [List.mem_pair] at hseparator
    rcases hseparator with rfl | rfl
    · exact ⟨'/', by decide, by simp⟩
    · exact ⟨'\\', by decide, by simp⟩
  -- the joined text starts over just if its first part does, because that part has a first character
  have hbegins : BeginsWithSeparator (a ++ separator ++ b) ↔ BeginsWithSeparator a := by
    have hhead : (a ++ separator ++ b).toList.head? = a.toList.head? := by
      rw [htext, List.head?_append_of_ne_nil _ (by simpa using ha)]
    rw [BeginsWithSeparator, BeginsWithSeparator, hhead]
  refine ext ?_
  rw [names_resolve, names_resolve (base.resolve a), if_neg hb, names_resolve base a, htext,
    pieces_append_separator hc, List.foldl_append]
  simp only [hbegins]

/-! ## Any number of texts

The separators may be different, and the texts may have separators of their own. -/

/-- One text made of several: the first, and each of the others behind its separator. -/
def joined (first : String) (rest : List (String × String)) : String :=
  rest.foldl (fun text part => text ++ part.1 ++ part.2) first

/-- Texts that can be joined: each stands behind a slash or a backslash, and none of them starts over at the root. -/
def Joinable (rest : List (String × String)) : Prop :=
  ∀ part ∈ rest, part.1 ∈ ["/", "\\"] ∧ ¬BeginsWithSeparator part.2

instance (rest : List (String × String)) : Decidable (Joinable rest) :=
  inferInstanceAs (Decidable (∀ part ∈ rest, _ ∧ _))

/-- **Joined texts lead to what they lead to one after the other.** Induction on the texts behind the first. -/
theorem resolve_joined (base : Path) {first : String} {rest : List (String × String)} (hfirst : first ≠ "")
    (hrest : Joinable rest) :
    base.resolve (joined first rest) = (first :: rest.map Prod.snd).foldl resolve base := by
  induction rest generalizing first with
  | nil => rfl
  | cons part rest ih =>
    obtain ⟨⟨hseparator, hpart⟩, hrest⟩ := List.forall_mem_cons.1 hrest
    have hlonger : first ++ part.1 ++ part.2 ≠ "" := by simp [hfirst]
    show base.resolve (joined (first ++ part.1 ++ part.2) rest) = _
    rw [ih hlonger hrest, List.map_cons, List.foldl_cons, resolve_join base hfirst hseparator hpart]
    rfl

end Path

end FtpIntake
