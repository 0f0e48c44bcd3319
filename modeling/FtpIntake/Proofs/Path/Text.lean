import FtpIntake.Proofs.Text.Trim
import FtpIntake.Path

/-!
# The text of a path

A path is written with a slash in front of each of its names, and a name holds no separator and is none of the pieces
that `resolve` gives a meaning to. So the text of a path leads back to the path.

* **`Path.names_resolve_slashed`** says what any pieces lead to that are written like that.
* **`Path.resolve_toString`**: from wherever it is resolved, the text of a path leads to that path.
* **`Path.resolve_trimEnd_iff`**: without the white space at its end it does so just if there is none.

White space at the end matters because a command line loses it. At the front there can be none, and in the middle it
is part of a name.
-/

namespace FtpIntake.Path

open Text

/-! ## Pieces

The text of a path is made of its names with a slash in front of each, and it is cut at these slashes. -/

/-- Some pieces with a slash in front of each. -/
def slashed (pieces : List (List Char)) : List Char :=
  pieces.flatMap ('/' :: ·)

theorem slashed_append (pieces more : List (List Char)) : slashed (pieces ++ more) = slashed pieces ++ slashed more :=
  List.flatMap_append

/-- A text of pieces with slashes in front is cut into these pieces again. Induction on the pieces. -/
theorem splitAt_append_slashed {first : List Char} {pieces : List (List Char)} (hfirst : '/' ∉ first)
    (h : ∀ piece ∈ pieces, '/' ∉ piece) : splitAt '/' (first ++ slashed pieces) = first :: pieces := by
  induction pieces generalizing first with
  | nil =>
    rw [slashed, List.flatMap_nil, List.append_nil]
    exact splitAt_of_notMem hfirst
  | cons piece pieces ih =>
    obtain ⟨hpiece, hpieces⟩ := List.forall_mem_cons.1 h
    have hcons : first ++ slashed (piece :: pieces) = first ++ '/' :: (piece ++ slashed pieces) := rfl
    rw [hcons, splitAt_append hfirst, ih hpiece hpieces]

/-- A text without backslashes stays as it is. -/
theorem map_unifySeparator {s : List Char} (h : '\\' ∉ s) : s.map unifySeparator = s := by
  have hsame : ∀ c ∈ s, unifySeparator c = c := by
    intro c hc
    refine if_neg ?_
    rintro rfl
    exact h hc
  exact (List.map_congr_left hsame).trans (List.map_id' s)

/-- Slashes bring no backslash in. -/
theorem backslash_notMem_slashed {pieces : List (List Char)} (h : ∀ piece ∈ pieces, '\\' ∉ piece) :
    '\\' ∉ slashed pieces := by
  intro hmem
  obtain ⟨piece, hpiece, hc⟩ := List.mem_flatMap.1 hmem
  rcases List.mem_cons.1 hc with hslash | hc
  · exact absurd hslash (by decide)
  · exact h piece hpiece hc

/-- **What some pieces lead to that are written with a slash in front of each.** They are followed from the root on,
wherever the text is resolved. -/
theorem names_resolve_slashed (base : Path) {pieces : List (List Char)} (hsome : pieces ≠ [])
    (h : ∀ piece ∈ pieces, '/' ∉ piece ∧ '\\' ∉ piece) :
    (base.resolve (String.ofList (slashed pieces))).names = pieces.foldl follow [] := by
  have hunified : (slashed pieces).map unifySeparator = slashed pieces :=
    map_unifySeparator (backslash_notMem_slashed fun piece hpiece => (h piece hpiece).2)
  have hsplit : splitAt '/' ([] ++ slashed pieces) = [] :: pieces :=
    splitAt_append_slashed List.not_mem_nil fun piece hpiece => (h piece hpiece).1
  -- the slash in front leaves an empty piece, which leads nowhere
  have hpieces : Path.pieces (slashed pieces) = [] :: pieces := by
    rw [Path.pieces, hunified]
    exact hsplit
  have habsolute : isAbsolute (slashed pieces) = true := by
    rw [isAbsolute, hunified]
    obtain ⟨piece, rest, rfl⟩ := List.exists_cons_of_ne_nil hsome
    rfl
  show (Path.pieces (String.ofList (slashed pieces)).toList).foldl follow
    (if isAbsolute (String.ofList (slashed pieces)).toList then [] else base.names) = _
  rw [String.toList_ofList, hpieces, habsolute, if_pos rfl, List.foldl_cons]
  rfl

/-! ## Names

A piece that is a name is gone into, so a list of names is followed from one end to the other. -/

/-- A name is gone into. -/
theorem follow_of_isName (names : List String) {s : String} (h : IsName s) : follow names s.toList = names ++ [s] := by
  unfold follow
  rw [if_neg (not_or.2 ⟨h.ne_empty, h.ne_dot⟩), if_neg h.ne_dotDot, String.ofList_toList]

/-- Names are followed one by one. Induction on the names. -/
theorem foldl_follow_names {names : List String} (h : ∀ s ∈ names, IsName s) (start : List String) :
    (names.map String.toList).foldl follow start = start ++ names := by
  induction names generalizing start with
  | nil => exact (List.append_nil start).symm
  | cons s names ih =>
    obtain ⟨hs, hnames⟩ := List.forall_mem_cons.1 h
    rw [List.map_cons, List.foldl_cons, follow_of_isName start hs, ih hnames, List.append_assoc]
    rfl

/-- A piece that leads into a name is that name. -/
theorem eq_of_append_eq_follow {names : List String} {s : String} {piece : List Char}
    (h : names ++ [s] = follow names piece) : piece = s.toList := by
  have hlength := congrArg List.length h
  rw [List.length_append, List.length_singleton] at hlength
  unfold follow at h hlength
  -- a dot or nothing adds no name, and two dots take one away, so neither can have added this one
  split at h
  · next hstays =>
    rw [if_pos hstays] at hlength
    omega
  next hmoves =>
  split at h
  · next hdots =>
    rw [if_neg hmoves, if_pos hdots, List.length_dropLast] at hlength
    omega
  · obtain rfl := List.singleton_inj.1 (List.append_cancel_left h)
    exact String.toList_ofList.symm

/-- Names hold no separators. -/
theorem separator_notMem_of_mem_names {names : List String} (h : ∀ s ∈ names, IsName s) :
    ∀ piece ∈ names.map String.toList, '/' ∉ piece ∧ '\\' ∉ piece := by
  intro piece hpiece
  obtain ⟨s, hs, rfl⟩ := List.mem_map.1 hpiece
  exact ⟨(h s hs).slash_notMem, (h s hs).backslash_notMem⟩

/-! ## The text

Reading the text of a path starts over at the root, because it begins with a slash. -/

variable {p : Path}

/-- Below the root the text of a path is its names, with slashes in front. -/
theorem toList_toString (hroot : p ≠ root) : (toString p).toList = slashed (p.names.map String.toList) := by
  have hnot : ¬p.isRoot = true := fun h => hroot (isRoot_iff.1 h)
  show p.toString.toList = _
  unfold Path.toString
  rw [if_neg hnot, String.toList_join, slashed, List.flatMap_map, List.flatMap_map]
  simp only [String.toList_append]
  rfl

theorem names_ne_nil (hroot : p ≠ root) : p.names ≠ [] := fun hnil => hroot (ext hnil)

/-- **The text of a path leads to the path**, from wherever it is resolved. -/
theorem resolve_toString (base p : Path) : base.resolve (toString p) = p := by
  by_cases hroot : p = root
  · subst hroot
    rfl
  refine ext ?_
  rw [← String.ofList_toList (s := toString p), toList_toString hroot,
    names_resolve_slashed base (by simpa using names_ne_nil hroot) (separator_notMem_of_mem_names p.isName_of_mem),
    foldl_follow_names p.isName_of_mem, List.nil_append]

/-! ## Trimming the text

A text that goes through a command line loses the white space around it. In front of a path there is none, but its
last name may end in some. -/

/-- The text of every path begins with a slash. -/
theorem exists_toList_toString (p : Path) : ∃ rest, (toString p).toList = '/' :: rest := by
  by_cases hroot : p = root
  · subst hroot
    exact ⟨[], rfl⟩
  obtain ⟨name, names, hnames⟩ := List.exists_cons_of_ne_nil (names_ne_nil hroot)
  rw [toList_toString hroot, hnames]
  exact ⟨_, rfl⟩

/-- There is no white space in front of the text of a path, and the slash is never trimmed. -/
theorem trim_toString (p : Path) : trim (toString p).toList = trimEnd (toString p).toList ∧
    trim (toString p).toList ≠ [] := by
  obtain ⟨rest, htext⟩ := exists_toList_toString p
  have hstart : trimStart (toString p).toList = (toString p).toList := by
    rw [htext]
    rfl
  refine ⟨congrArg trimEnd hstart, fun hnil => ?_⟩
  rw [trim, hstart, htext] at hnil
  have hslash : isBlank '/' = true := List.rdropWhile_eq_nil_iff.1 hnil '/' List.mem_cons_self
  exact absurd hslash (by decide)

/-- A slash is no white space, so only the last name of a text can lose something. -/
theorem trimEnd_slashed (pieces : List (List Char)) (last : List Char) :
    trimEnd (slashed (pieces ++ [last])) = slashed (pieces ++ [trimEnd last]) := by
  have hslashed (last : List Char) : slashed (pieces ++ [last]) = (slashed pieces ++ ['/']) ++ last := by
    rw [slashed, List.flatMap_append, List.flatMap_singleton, List.append_assoc]
    rfl
  have hslash : dropEndWhile isBlank ['/'] = ['/'] := by decide
  rw [hslashed, hslashed]
  by_cases hleft : trimEnd last = []
  · have hblank : ∀ c ∈ last, isBlank c = true := List.rdropWhile_eq_nil_iff.1 hleft
    rw [hleft, List.append_nil, trimEnd, dropEndWhile_append_of_forall hblank, dropEndWhile_append_of_ne (by decide),
      hslash]
  · rw [trimEnd, dropEndWhile_append_of_ne hleft]
    rfl

/-- **Without the white space at its end, the text of a path leads to the path just if there is none.** -/
theorem resolve_trimEnd_iff (base p : Path) :
    base.resolve (String.ofList (trimEnd (toString p).toList)) = p ↔
      trimEnd (toString p).toList = (toString p).toList := by
  constructor
  · intro hsame
    by_cases hroot : p = root
    · subst hroot
      decide
    obtain ⟨names, last, hnames⟩ := List.eq_nil_or_concat p.names |>.resolve_left (names_ne_nil hroot)
    rw [List.concat_eq_append] at hnames
    have hname : ∀ s ∈ names ++ [last], IsName s := hnames ▸ p.isName_of_mem
    have htext : (toString p).toList = slashed (names.map String.toList ++ [last.toList]) := by
      rw [toList_toString hroot, hnames, List.map_append]
      rfl
    obtain ⟨hfirst, hlast⟩ := List.forall_mem_append.1 hname
    have hleft : trimEnd last.toList ⊆ last.toList := (List.rdropWhile_prefix isBlank last.toList).subset
    have hpieces : ∀ piece ∈ names.map String.toList ++ [trimEnd last.toList], '/' ∉ piece ∧ '\\' ∉ piece := by
      have hlast : IsName last := List.forall_mem_singleton.1 hlast
      exact List.forall_mem_append.2 ⟨separator_notMem_of_mem_names hfirst, List.forall_mem_singleton.2
        ⟨fun hslash => hlast.slash_notMem (hleft hslash), fun hbackslash => hlast.backslash_notMem (hleft hbackslash)⟩⟩
    rw [htext, trimEnd_slashed] at hsame ⊢
    -- what is left of the last name is followed from the other names, and only the whole of it leads to the path
    have hresolved := names_resolve_slashed base (List.append_ne_nil_of_right_ne_nil _ (List.cons_ne_nil _ [])) hpieces
    rw [hsame, hnames, List.foldl_append, foldl_follow_names hfirst,
      List.nil_append, List.foldl_cons, List.foldl_nil] at hresolved
    rw [eq_of_append_eq_follow hresolved]
  · intro htrimmed
    rw [htrimmed, String.ofList_toList]
    exact resolve_toString base p

end FtpIntake.Path
