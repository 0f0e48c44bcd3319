import FtpIntake.Proofs.Path.Join
import FtpIntake.Proofs.Tree.History
import Mathlib.Logic.Relation

/-!
# Which paths stand above others

A path stands above another if one comes to it from there by going to the parent, and the root stands above all paths but
itself. The same can be told by the names and by the texts: the names from the root on begin with those of the upper
path, and so does the text, up to a slash. The slash matters, because `/a` does not stand above `/ab`.

* **`Path.isAncestorOf_iff_names`** is the relation as one of names. The rest is read off it.
* **`Path.leadsUpTo_iff`** and **`Path.isPrefix_names_iff_text`** say what it comes to for parents and for texts.
* **`Path.ancestor_laws`** puts these together, with the order of the paths above a third one.
-/

namespace FtpIntake

open Text

namespace Path

/-- One comes from the first path to the second by going to the parent any number of times. -/
def LeadsUpTo : Path → Path → Prop :=
  Relation.ReflTransGen fun p parent => p.parent? = some parent

variable {a b c : Path}

/-- **A path stands above those whose names begin with its own.** There is nothing above the root. -/
theorem isAncestorOf_iff_names : a.isAncestorOf b = true ↔ b ≠ root ∧ a.names <+: b.names := by
  by_cases hb : b = root
  · rw [hb, isAncestorOf_root]
    simp
  rw [and_iff_right hb, isAncestorOf]
  -- the root is asked for on its own, since its text is the slash that others have in front
  by_cases ha : a = root
  · have hbelow : (!b.isRoot) = true := by
      rw [Bool.not_eq_true', Bool.eq_false_iff]
      exact mt isRoot_iff.1 hb
    rw [if_pos (isRoot_iff.2 ha)]
    refine iff_of_true hbelow ?_
    rw [ha]
    exact List.nil_prefix
  · rw [if_neg (mt isRoot_iff.1 ha)]
    exact List.isPrefixOf_iff_prefix

/-! ## Parents

A path stands above another if one comes to it by going up, and going up takes names off the end. -/

theorem names_of_parent? (h : a.parent? = some b) : b.names = a.names.dropLast ∧ a ≠ root := by
  by_cases hroot : a = root
  · rw [hroot] at h
    cases h
  · have hparent : a.parent? = some (a.resolve "..") := parent?_eq_some hroot (names_resolve_dotDot a)
    obtain rfl : a.resolve ".." = b := Option.some.inj (hparent.symm.trans h)
    exact ⟨names_resolve_dotDot a, hroot⟩

/-- Names that come behind those of a path are taken off one by one on the way up. Induction on them from the end. -/
theorem leadsUpTo_of_append {rest : List String} (h : b.names = a.names ++ rest) : b.LeadsUpTo a := by
  -- on the names below the upper path, from the last one: going to the parent takes that one off
  induction rest using List.reverseRecOn generalizing b with
  | nil =>
    rw [List.append_nil] at h
    obtain rfl := ext h
    exact .refl
  | append_singleton rest s ih =>
    rw [← List.append_assoc] at h
    have hroot : b ≠ root := by
      rintro rfl
      exact List.append_ne_nil_of_right_ne_nil _ (List.cons_ne_nil s []) h.symm
    have hup : (b.resolve "..").names = a.names ++ rest := by
      rw [names_resolve_dotDot, h, List.dropLast_concat]
    exact .head (parent?_eq_some hroot (names_resolve_dotDot b)) (ih hup)

theorem leadsUpTo_iff : b.LeadsUpTo a ↔ a.names <+: b.names := by
  constructor
  · intro h
    induction h with
    | refl => exact List.prefix_rfl
    | tail _ hparent ih =>
      rw [(names_of_parent? hparent).1]
      exact (List.dropLast_prefix _).trans ih
  · rintro ⟨rest, hrest⟩
    exact leadsUpTo_of_append hrest.symm

/-! ## Texts

In the text of a path each name stands between slashes, so a text goes on with a slash where the names go on. -/

/-- The pieces of the text of a path are its names, and the empty one in front of the first slash. -/
theorem splitAt_toString (hroot : a ≠ root) :
    splitAt '/' (toString a).toList = [] :: a.names.map String.toList := by
  have hpieces : ∀ piece ∈ a.names.map String.toList, '/' ∉ piece :=
    fun piece hpiece => (separator_notMem_of_mem_names a.isName_of_mem piece hpiece).1
  rw [toList_toString hroot, ← List.nil_append (slashed _), splitAt_append_slashed List.not_mem_nil hpieces]

/-- **The names begin with those of a path just if the text is its own or goes on behind it with a slash.** -/
theorem isPrefix_names_iff_text (hroot : a ≠ root) :
    a.names <+: b.names ↔ toString b = toString a ∨ ∃ rest, toString b = toString a ++ "/" ++ rest := by
  constructor
  · rintro ⟨rest, hrest⟩
    cases rest with
    | nil =>
      rw [List.append_nil] at hrest
      rw [ext hrest]
      exact .inl rfl
    | cons s rest =>
      have hbelow : b ≠ root := by
        rintro rfl
        exact List.append_ne_nil_of_right_ne_nil _ (List.cons_ne_nil s rest) hrest
      refine .inr ⟨String.ofList (s.toList ++ slashed (rest.map String.toList)), String.toList_inj.1 ?_⟩
      rw [toList_toString hbelow, ← hrest, List.map_append, slashed_append, ← toList_toString hroot]
      simp [slashed]
  · rintro (hsame | ⟨rest, htext⟩)
    · rw [eq_of_toString_eq hsame]
    · -- the slash behind the text of the upper path is a cut, so what comes before it are pieces of both texts
      have hbelow : b ≠ root := by
        rintro rfl
        obtain ⟨first, hfirst⟩ := exists_toList_toString a
        have hchars : ['/'] = (toString a ++ "/" ++ rest).toList := congrArg String.toList htext
        rw [String.toList_append, String.toList_append, hfirst] at hchars
        simp at hchars
      have hcut := congrArg (splitAt '/') (congrArg String.toList htext)
      have hslash : (toString a ++ "/" ++ rest).toList = (toString a).toList ++ '/' :: rest.toList := by simp
      rw [hslash, splitAt_append_cons, splitAt_toString hbelow, splitAt_toString hroot, List.cons_append,
        List.cons_inj_right] at hcut
      have hprefix : a.names.map String.toList <+: b.names.map String.toList := ⟨_, hcut.symm⟩
      exact (List.prefix_map_iff_of_injective fun _ _ => String.toList_inj.1).1 hprefix

/-! ## The order of the paths above a path

The relation is strict in nothing but the root, and the paths above a third one are in a row. -/

theorem isAncestorOf_trans (hab : a.isAncestorOf b = true) (hbc : b.isAncestorOf c = true) :
    a.isAncestorOf c = true := by
  rw [isAncestorOf_iff_names] at hab hbc ⊢
  exact ⟨hbc.1, hab.2.trans hbc.2⟩

theorem isAncestorOf_antisymm (hab : a.isAncestorOf b = true) (hba : b.isAncestorOf a = true) : a = b := by
  rw [isAncestorOf_iff_names] at hab hba
  exact ext (hab.2.eq_of_length_le hba.2.length_le)

/-- Two paths above a third one are equal, or one is above the other. -/
theorem isAncestorOf_total (hac : a.isAncestorOf c = true) (hbc : b.isAncestorOf c = true) :
    a.isAncestorOf b = true ∨ b.isAncestorOf a = true ∨ a = b := by
  by_cases hsame : a = b
  · exact .inr (.inr hsame)
  rw [isAncestorOf_iff_names] at hac hbc
  -- of two beginnings of the same names one begins the other, and the longer one is not empty
  rcases List.prefix_or_prefix_of_prefix hac.2 hbc.2 with hprefix | hprefix
  · refine .inl (isAncestorOf_iff_names.2 ⟨?_, hprefix⟩)
    rintro rfl
    exact hsame (ext (List.prefix_nil.1 hprefix))
  · refine .inr (.inl (isAncestorOf_iff_names.2 ⟨?_, hprefix⟩))
    rintro rfl
    exact hsame (ext (List.prefix_nil.1 hprefix)).symm

/-- **Three ways to tell that a path stands above another.** It does just if the other is not the root and leads up to it
by going to the parent any number of times. Unless it is the root itself, it does just if the text of the other is its
own text or begins with its own text and a slash.

The relation is transitive and antisymmetric, and the paths above any path are in a line: of two of them one stands
above the other, or they are the same. -/
theorem ancestor_laws (a b : Path) :
    (a.isAncestorOf b = true ↔ b ≠ root ∧ b.LeadsUpTo a) ∧
      (a ≠ root → (a.isAncestorOf b = true ↔
        toString b = toString a ∨ ∃ rest, toString b = toString a ++ "/" ++ rest)) ∧
      (∀ c, a.isAncestorOf b = true → b.isAncestorOf c = true → a.isAncestorOf c = true) ∧
      (a.isAncestorOf b = true → b.isAncestorOf a = true → a = b) ∧
      ∀ c, a.isAncestorOf c = true → b.isAncestorOf c = true →
        a.isAncestorOf b = true ∨ b.isAncestorOf a = true ∨ a = b := by
  refine ⟨?_, fun hroot => ?_, fun c => isAncestorOf_trans, isAncestorOf_antisymm, fun c => isAncestorOf_total⟩
  · rw [isAncestorOf_iff_names, leadsUpTo_iff]
  · rw [isAncestorOf_iff_names, ← isPrefix_names_iff_text hroot, and_iff_right_iff_imp]
    rintro hprefix rfl
    exact names_ne_nil hroot (List.prefix_nil.1 hprefix)

/-- A namesake beside the upper path, and two paths below it. -/
theorem ancestor_laws_namesake :
    let a := parse "/a"
    let b := parse "/a/ab"
    let c := parse "/a/ab/a"
    a ≠ root ∧ a.isAncestorOf b = true ∧ b.isAncestorOf c = true ∧
      toString b = toString a ++ "/" ++ "ab" ∧ a.isAncestorOf c = true ∧ a.isAncestorOf (parse "/ab") = false := by
  intro a b c
  have hroot : a ≠ root := by decide
  have hbc : b.isAncestorOf c = true := by decide
  have htext : toString b = toString a ++ "/" ++ "ab" := by decide
  obtain ⟨-, habove, htrans, -, -⟩ := ancestor_laws a b
  -- that it is above is read off the texts here, by the law
  have hab : a.isAncestorOf b = true := (habove hroot).2 (.inr ⟨"ab", htext⟩)
  exact ⟨hroot, hab, hbc, htext, htrans c hab hbc, by decide⟩

end Path

end FtpIntake
