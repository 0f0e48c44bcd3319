import FtpIntake.Text.Pieces

/-!
# Paths of the directory namespace

A `Path` is absolute and in normal form: a list of names, none of which is empty, a dot, two dots, or holds a
separator. Clients send relative and absolute texts with either slash; `Path.resolve` reads such a text against
a directory and always lands on a normal form, because a step out of the root stays at the root.

The root is the path without names. Its text is a single slash, and so is its file name.
-/

namespace FtpIntake

open Text

/-- The texts that name an entry inside a directory. -/
structure IsName (s : String) : Prop where
  ne_empty : s.toList ≠ []
  ne_dot : s.toList ≠ ['.']
  ne_dotDot : s.toList ≠ ['.', '.']
  slash_notMem : '/' ∉ s.toList
  backslash_notMem : '\\' ∉ s.toList

/-- An absolute path in normal form, given by its names from the root on. -/
structure Path where
  names : List String
  isName_of_mem : ∀ s ∈ names, IsName s
  deriving DecidableEq

namespace Path

theorem ext {p q : Path} (h : p.names = q.names) : p = q := by
  cases p
  cases q
  simp_all

/-- The directory that everything is in. -/
def root : Path := ⟨[], by simp⟩

instance : Inhabited Path := ⟨root⟩

/-- Whether the path is the root. -/
def isRoot (p : Path) : Bool :=
  p.names.isEmpty

/-! ## Resolving what a client sent

A text is cut at its separators and followed piece by piece, and only names are ever added. So the result is in normal
form whatever the text was. -/

/-- Both slashes separate names; the backslash is read as a slash. -/
def unifySeparator (c : Char) : Char :=
  if c = '\\' then '/' else c

/-- The pieces between the separators of a text, empty pieces included. -/
def pieces (raw : List Char) : List (List Char) :=
  splitAt '/' (raw.map unifySeparator)

/-- A piece holds neither slash. -/
theorem separator_notMem_of_mem_pieces {raw piece : List Char} (h : piece ∈ pieces raw) :
    '/' ∉ piece ∧ '\\' ∉ piece := by
  refine ⟨notMem_of_mem_splitAt h, fun hc => ?_⟩
  obtain ⟨c, -, hc⟩ := List.mem_map.1 (mem_of_mem_splitAt h hc)
  unfold unifySeparator at hc
  split at hc
  · exact absurd hc (by decide)
  · next hne => exact hne hc

/--
Follows one piece from the directory with the given names: an empty piece and a dot stay, two dots go to the
parent or stay at the root, and anything else goes into the entry of that name.
-/
def follow (names : List String) (piece : List Char) : List String :=
  if piece = [] ∨ piece = ['.'] then names
  else if piece = ['.', '.'] then names.dropLast
  else names ++ [String.ofList piece]

theorem isName_of_mem_follow {names : List String} {piece : List Char}
    (hnames : ∀ s ∈ names, IsName s) (hpiece : '/' ∉ piece ∧ '\\' ∉ piece) :
    ∀ s ∈ follow names piece, IsName s := by
  intro s hs
  unfold follow at hs
  split at hs
  · exact hnames s hs
  · next h =>
    split at hs
    · exact hnames s (List.dropLast_subset _ hs)
    · -- the new name is a piece that is neither empty nor made of dots, and pieces have no separators
      next hdots =>
      rcases List.mem_append.1 hs with hs | hs
      · exact hnames s hs
      · obtain rfl := List.mem_singleton.1 hs
        simp only [not_or] at h
        constructor <;> simp_all

theorem isName_of_mem_foldl_follow {pieces : List (List Char)} {names : List String}
    (hnames : ∀ s ∈ names, IsName s) (hpieces : ∀ p ∈ pieces, '/' ∉ p ∧ '\\' ∉ p) :
    ∀ s ∈ pieces.foldl follow names, IsName s := by
  induction pieces generalizing names with
  | nil => simpa using hnames
  | cons p ps ih =>
    simp only [List.mem_cons, forall_eq_or_imp] at hpieces
    exact ih (isName_of_mem_follow hnames hpieces.1) hpieces.2

/-- Whether a text names its target from the root on. -/
def isAbsolute (raw : List Char) : Bool :=
  (raw.map unifySeparator).head? == some '/'

/-- The path that a text leads to from `base`. An absolute text leads there from anywhere. -/
def resolve (base : Path) (raw : String) : Path where
  -- the pieces of an absolute text begin with an empty one, which stays where it is
  names := (pieces raw.toList).foldl follow (if isAbsolute raw.toList then [] else base.names)
  isName_of_mem := by
    refine isName_of_mem_foldl_follow ?_ fun _ => separator_notMem_of_mem_pieces
    split
    · simp
    · exact base.isName_of_mem

/-- The path that a text leads to from the root. -/
def parse (raw : String) : Path :=
  root.resolve raw

/-! ## Parts and text

How a path is taken apart and written. The root is the exception in each of these. -/

/-- The directory that holds the path, or `none` at the root. -/
def parent? (p : Path) : Option Path :=
  if p.isRoot then none
  else some ⟨p.names.dropLast, fun s hs => p.isName_of_mem s (List.dropLast_subset _ hs)⟩

/-- The last name, or a slash at the root. -/
def fileName (p : Path) : String :=
  p.names.getLastD "/"

/-- How many names lead from the root to the path. -/
def depth (p : Path) : Nat :=
  p.names.length

/-- The absolute text of the path: each name after a slash, or a single slash at the root. -/
protected def toString (p : Path) : String :=
  if p.isRoot then "/" else String.join (p.names.map ("/" ++ ·))

instance : ToString Path := ⟨Path.toString⟩

/-- The text of the directory that holds the path, with a slash at its end. -/
def containerText (p : Path) : String :=
  match p.parent? with
  | none => "/"
  | some parent => if parent.isRoot then "/" else parent.toString ++ "/"

/--
Whether the path is `other` or leads to it from above. The root stands above every path but is not counted
as above itself.
-/
def isAncestorOf (p other : Path) : Bool :=
  -- the prefix alone would have the root above itself
  if p.isRoot then !other.isRoot else p.names.isPrefixOf other.names

@[simp] theorem isRoot_root : root.isRoot = true := rfl

theorem isRoot_iff {p : Path} : p.isRoot = true ↔ p = root := by
  constructor
  · intro h
    exact ext (by simpa [isRoot, root] using h)
  · rintro rfl
    rfl

/-- Nothing leads to the root from above. -/
@[simp] theorem isAncestorOf_root (p : Path) : p.isAncestorOf root = false := by
  unfold isAncestorOf
  split
  · simp
  · next h =>
    cases hn : p.names with
    | nil => simp [isRoot, hn] at h
    | cons s ss => simp [root]

end Path

end FtpIntake
