import FtpIntake.Proofs.Path.Text

/-!
# Paths in normal form

A path is only ever obtained from the root: by reading a text, from the root or from a directory, or as the directory
that holds a path. The names on the way are never empty, never a dot or two dots, and hold no separator, and every list
of such names is the path of some text. So the text of a path stands for that path and for no other, a step into a name
adds that name at the end, and two dots take the last name off again.

* **`Path.obtainable`**: every path can be obtained, by reading its own text.
* **`Path.resolve_dotDot`** and **`Path.names_resolve_name`**: where two dots lead, and where a name leads.
* **`Path.normal_forms`** puts these together.

A path may have been obtained in many steps. One step is always enough, which is to read the text of the path.
-/

namespace FtpIntake.Path

open Text

instance (s : String) : Decidable (IsName s) :=
  decidable_of_iff
    (s.toList ≠ [] ∧ s.toList ≠ ['.'] ∧ s.toList ≠ ['.', '.'] ∧ '/' ∉ s.toList ∧ '\\' ∉ s.toList)
    ⟨fun h => ⟨h.1, h.2.1, h.2.2.1, h.2.2.2.1, h.2.2.2.2⟩,
      fun h => ⟨h.ne_empty, h.ne_dot, h.ne_dotDot, h.slash_notMem, h.backslash_notMem⟩⟩

/-- The paths that can be obtained: the root, what a text leads to, and the directory that holds such a path. -/
inductive Obtainable : Path → Prop
  | root : Obtainable root
  | parse (raw : String) : Obtainable (parse raw)
  | resolve {p : Path} (h : Obtainable p) (raw : String) : Obtainable (p.resolve raw)
  | parent {p parent : Path} (h : Obtainable p) (hparent : p.parent? = some parent) : Obtainable parent

/-- **The text of a path is read as this path.** -/
theorem parse_toString (p : Path) : parse (toString p) = p :=
  resolve_toString root p

/-- So every path is obtained by reading its own text. -/
theorem obtainable (p : Path) : Obtainable p := by
  rw [← parse_toString p]
  exact .parse (toString p)

/-- Two paths have two texts. -/
theorem eq_of_toString_eq {p q : Path} (h : toString p = toString q) : p = q := by
  rw [← parse_toString p, h, parse_toString]

/-! ## A single piece

A text without separators is one piece, and there are three kinds of pieces: those that stay, the one that goes up,
and the names. -/

/-- A text without separators is one piece, and it is followed from where it is resolved. -/
theorem names_resolve_of_separator_notMem (base : Path) {raw : String} (hslash : '/' ∉ raw.toList)
    (hbackslash : '\\' ∉ raw.toList) : (base.resolve raw).names = follow base.names raw.toList := by
  have hpieces : pieces raw.toList = [raw.toList] := by
    rw [pieces, map_unifySeparator hbackslash, splitAt_of_notMem hslash]
  have hrelative : ¬isAbsolute raw.toList = true := by
    rw [isAbsolute, map_unifySeparator hbackslash, beq_iff_eq]
    exact fun hhead => hslash (List.mem_of_head? hhead)
  show (pieces raw.toList).foldl follow (if isAbsolute raw.toList then [] else base.names) = _
  rw [hpieces, if_neg hrelative, List.foldl_cons, List.foldl_nil]

/-- A name leads into a directory of that name. -/
theorem names_resolve_name (base : Path) {s : String} (h : IsName s) : (base.resolve s).names = base.names ++ [s] := by
  rw [names_resolve_of_separator_notMem base h.slash_notMem h.backslash_notMem, follow_of_isName base.names h]

/-- Two dots lead to the directory that holds the path, and from the root nowhere else. -/
theorem names_resolve_dotDot (base : Path) : (base.resolve "..").names = base.names.dropLast :=
  names_resolve_of_separator_notMem base (by decide) (by decide)

/-! ## The directory that holds a path

Going up takes the last name off, and at the root there is none to take. -/

/-- The directory that holds a path has all of its names but the last. -/
theorem parent?_eq_some {p parent : Path} (hroot : p ≠ root) (h : parent.names = p.names.dropLast) :
    p.parent? = some parent := by
  unfold parent?
  rw [if_neg (mt isRoot_iff.1 hroot)]
  exact congrArg some (ext h.symm)

/-- **Two dots lead to the directory that holds the path**, and from the root they lead nowhere else. -/
theorem resolve_dotDot (p : Path) : p.resolve ".." = p.parent?.getD root := by
  by_cases hroot : p = root
  · subst hroot
    decide
  · rw [parent?_eq_some hroot (names_resolve_dotDot p), Option.getD_some]

/-- Going into a name and up again leads back. -/
theorem parent?_resolve_name (p : Path) {s : String} (h : IsName s) : (p.resolve s).parent? = some p := by
  have hnames := names_resolve_name p h
  refine parent?_eq_some ?_ ?_
  · intro hroot
    rw [hroot] at hnames
    exact List.append_ne_nil_of_right_ne_nil _ (List.cons_ne_nil s []) hnames.symm
  · rw [hnames, List.dropLast_concat]

/-- The last name of a path is the one that was gone into. -/
theorem fileName_resolve_name (p : Path) {s : String} (h : IsName s) : (p.resolve s).fileName = s := by
  rw [fileName, names_resolve_name p h, List.getLastD_concat]

/-- It is one step deeper. -/
theorem depth_resolve_name (p : Path) {s : String} (h : IsName s) : (p.resolve s).depth = p.depth + 1 := by
  rw [depth, names_resolve_name p h, List.length_append, List.length_singleton, depth]

/-! ## The last name

It is the one name that a path and the directory that holds it do not share. -/

/-- A path is the directory that holds it and its own name. -/
theorem dropLast_concat_fileName {p : Path} (hroot : p ≠ root) : p.names.dropLast ++ [p.fileName] = p.names := by
  have hlast : p.fileName = p.names.getLast (names_ne_nil hroot) := by
    rw [fileName, List.getLastD_eq_getLast?, List.getLast?_eq_getLast_of_ne_nil (names_ne_nil hroot), Option.getD_some]
  rw [hlast, List.dropLast_concat_getLast]

/-- The last name of a path is a name like all others. -/
theorem isName_fileName {p : Path} (hroot : p ≠ root) : IsName p.fileName := by
  refine p.isName_of_mem _ ?_
  rw [← dropLast_concat_fileName hroot]
  exact List.mem_append_right _ List.mem_cons_self

/-! ## Normal forms

Which paths there are, and that nothing else can be obtained, whatever texts are resolved one after the other. -/

/-- **The paths that can be obtained are those in normal form**, and each is told by its text. Wherever it is read, the
text of a path leads to the path, so no two paths share a text. Two dots lead from a path to the directory that holds
it, a name leads to the entry of that name, and there is nothing above the root. -/
theorem normal_forms (base p q : Path) :
    (∀ names, (∃ r, Obtainable r ∧ r.names = names) ↔ ∀ s ∈ names, IsName s) ∧
      parse (toString p) = p ∧ base.resolve (toString p) = p ∧
      (toString p = toString q → p = q) ∧
      (p ≠ root → p.parent? = some (p.resolve "..")) ∧ root.resolve ".." = root ∧
      ∀ s, IsName s →
        (p.resolve s).parent? = some p ∧ (p.resolve s).fileName = s ∧ (p.resolve s).depth = p.depth + 1 := by
  refine ⟨fun names => ⟨?_, ?_⟩, parse_toString p, resolve_toString base p, eq_of_toString_eq, ?_, ?_, ?_⟩
  · rintro ⟨r, -, rfl⟩
    exact r.isName_of_mem
  · -- such names make a path, which is read off its own text
    intro h
    exact ⟨⟨names, h⟩, obtainable _, rfl⟩
  · intro hroot
    exact parent?_eq_some hroot (names_resolve_dotDot p)
  · exact resolve_dotDot root
  · intro s h
    exact ⟨parent?_resolve_name p h, fileName_resolve_name p h, depth_resolve_name p h⟩

/-- A name may begin with dots, and both slashes were read on the way to the directory. -/
theorem normal_forms_dots :
    IsName "..." ∧ parse "/a/./b\\..//c" ≠ root ∧
      (parse "/a/./b\\..//c").parent? = some ((parse "/a/./b\\..//c").resolve "..") ∧
      ((parse "/a/./b\\..//c").resolve "...").parent? = some (parse "/a/./b\\..//c") := by
  have hname : IsName "..." := by decide
  have hroot : parse "/a/./b\\..//c" ≠ root := by decide
  obtain ⟨-, -, -, -, hparent, -, hstep⟩ := normal_forms root (parse "/a/./b\\..//c") root
  exact ⟨hname, hroot, hparent hroot, (hstep "..." hname).1⟩

end FtpIntake.Path
