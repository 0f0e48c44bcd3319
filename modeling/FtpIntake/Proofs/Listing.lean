import FtpIntake.Listing
import FtpIntake.Pipeline.Basic
import FtpIntake.Proofs.Calendar
import FtpIntake.Proofs.Path.Ancestor
import FtpIntake.Proofs.Text.Utf8

/-!
# What a client reads off a listing

A client cuts what it gets at each pair of carriage return and line feed and takes the name out of each line: the line
itself, what follows the first semicolon with a space behind it, or what follows a start of fixed width, depending on
the form. Names may have spaces, semicolons and even carriage returns in them. As long as they have no line feed it
gets them back, letter by letter and in order.

* **`Listing.read`** is the reader, and **`read_chars`** says that it undoes the writing of a listing.
* **`Listing.exists_children`** says which names these are: those of the directories directly inside the one that is
  listed, each of them once and in strictly increasing order of their code points.
-/

namespace FtpIntake

open Text

/-- The directories in one directory are told apart by their names. -/
theorem Path.eq_of_fileName {p q directory : Path} (hp : p.parent? = some directory) (hq : q.parent? = some directory)
    (hname : p.fileName = q.fileName) : p = q := by
  obtain ⟨hpnames, hp⟩ := names_of_parent? hp
  obtain ⟨hqnames, hq⟩ := names_of_parent? hq
  refine ext ?_
  rw [← dropLast_concat_fileName hp, ← dropLast_concat_fileName hq, ← hpnames, ← hqnames, hname]

namespace Listing

/-! ## The reader

It works on bytes, as a client does. Only the pair of carriage return and line feed ends a line, so a name may have a
single carriage return in it. -/

/-- What stands before each pair of carriage return and line feed, and what is left behind the last one. -/
def cut : Bytes → List Bytes × Bytes
  | [] => ([], [])
  | 13 :: 10 :: rest => ([] :: (cut rest).1, (cut rest).2)
  | b :: rest =>
    match cut rest with
    | ([], left) => ([], b :: left)
    | (line :: lines, left) => ((b :: line) :: lines, left)

/-- What follows the first semicolon that has a space behind it. -/
def afterFacts : Bytes → Bytes
  | 59 :: 32 :: name => name
  | _ :: rest => afterFacts rest
  | [] => []

/-- How many bytes stand before the name in a long line: the start, the time and a space. -/
def longWidth : Nat := 49

/-- The name in a line of a listing. -/
def nameIn (form : ListingForm) (line : Bytes) : Bytes :=
  match form with
  | .names => line
  | .facts => afterFacts line
  | .long => line.drop longWidth

/-- The names in a listing, and what is left behind its last line. -/
def read (form : ListingForm) (bytes : Bytes) : List Bytes × Bytes :=
  ((cut bytes).1.map (nameIn form), (cut bytes).2)

theorem append_cons_ne {bytes : Bytes} {a b : UInt8} (hne : a ≠ b) (h : b ∉ bytes) (rest rest' : Bytes) :
    bytes ++ a :: rest ≠ b :: rest' := by
  intro heq
  cases bytes with
  | nil => exact hne (List.cons.inj heq).1
  | cons c bytes =>
    rw [(List.cons.inj heq).1] at h
    exact h List.mem_cons_self

/-- A line without line feed ends where its end was put, also if there are carriage returns in it. -/
theorem cut_append {line : Bytes} (h : 10 ∉ line) (rest : Bytes) :
    cut (line ++ 13 :: 10 :: rest) = (line :: (cut rest).1, (cut rest).2) := by
  induction line with
  | nil => rfl
  | cons b line ih =>
    obtain ⟨-, hline⟩ := not_or.1 (mt List.mem_cons.2 h)
    have hplain : ∀ rest', b = 13 → line ++ 13 :: 10 :: rest = 10 :: rest' → False :=
      fun rest' _ => append_cons_ne (by decide) hline _ rest'
    rw [List.cons_append, cut, ih hline]
    exact hplain

theorem cut_lines {lines : List Bytes} (h : ∀ line ∈ lines, 10 ∉ line) :
    cut (lines.flatMap (· ++ [13, 10])) = (lines, []) := by
  induction lines with
  | nil => rfl
  | cons line lines ih =>
    obtain ⟨hline, hlines⟩ := List.forall_mem_cons.1 h
    rw [List.flatMap_cons, List.append_assoc]
    show cut (line ++ 13 :: 10 :: lines.flatMap (· ++ [13, 10])) = _
    rw [cut_append hline, ih hlines]

theorem afterFacts_append {facts : Bytes} (h : 32 ∉ facts) (name : Bytes) :
    afterFacts (facts ++ 59 :: 32 :: name) = name := by
  induction facts with
  | nil => rfl
  | cons b facts ih =>
    obtain ⟨-, hfacts⟩ := not_or.1 (mt List.mem_cons.2 h)
    have hplain : ∀ name', b = 59 → facts ++ 59 :: 32 :: name = 32 :: name' → False :=
      fun name' _ => append_cons_ne (by decide) hfacts _ name'
    rw [List.cons_append, afterFacts, ih hfacts]
    exact hplain

/-! ## One line

Each of the three forms is read by a rule of its own: the whole line, what follows the first space behind a semicolon,
or what follows a fixed number of bytes. In each of them what stands before the name is of the server's making, so it
can be said where it ends. -/

/-- What stands in a line before the name. -/
def start (form : ListingForm) (seconds : Nat) : List Char :=
  match form with
  | .names => []
  | .facts => factsStart ++ (DateTime.ofSeconds seconds).compactChars ++ [';', ' ']
  | .long => longStart ++ (DateTime.ofSeconds seconds).listingChars ++ [' ']

theorem line_eq (form : ListingForm) (seconds : Nat) (name : String) :
    line form seconds name = start form seconds ++ name.toList ++ lineEnd := by
  cases form <;> simp [line, start]

theorem feed_notMem_start (form : ListingForm) (seconds : Nat) : '\n' ∉ start form seconds := by
  intro hfeed
  cases form with
  | names => exact absurd hfeed List.not_mem_nil
  -- no field of a line can bring a line feed with it: the fixed texts have none, and a time is ASCII from the space
  -- upwards
  | facts =>
    simp only [start, List.mem_append] at hfeed
    rcases hfeed with (hfeed | hfeed) | hfeed
    · exact absurd hfeed (by decide)
    · exact DateTime.notMem_compactChars _ (by decide) (by decide) hfeed
    · exact absurd hfeed (by decide)
  | long =>
    simp only [start, List.mem_append] at hfeed
    rcases hfeed with (hfeed | hfeed) | hfeed
    · exact absurd hfeed (by decide)
    · exact absurd ((DateTime.inRange_ofSeconds seconds).ascii_of_mem_listingChars hfeed).1 (by decide)
    · exact absurd hfeed (by decide)

/-- The facts before a name have no space in them. -/
theorem space_notMem_facts (t : DateTime) : ' ' ∉ factsStart ++ t.compactChars := by
  rw [List.mem_append, not_or]
  exact ⟨by decide, t.notMem_compactChars (by decide) (by decide)⟩

theorem length_start_long (seconds : Nat) : (utf8 (start .long seconds)).length = longWidth := by
  have htime := DateTime.inRange_ofSeconds seconds
  -- the width is counted in bytes, so each character must be a single one
  have hascii : ∀ c ∈ start .long seconds, c.toNat < 128 := by
    have hstart : DateTime.isPlain longStart = true := by decide
    intro c hc
    simp only [start, List.mem_append] at hc
    rcases hc with (hc | hc) | hc
    · exact (DateTime.range_of_isPlain hstart hc).2
    · exact (htime.ascii_of_mem_listingChars hc).2
    · rw [List.mem_singleton.1 hc]
      decide
  have hlongStart : longStart.length = 36 := by decide
  rw [length_utf8_of_lt hascii, start, List.length_append, List.length_append, htime.length_listingChars, hlongStart]
  rfl

/-- **The name is found behind what stands before it**, whatever the clock shows and whatever the name is. -/
theorem nameIn_append (form : ListingForm) (seconds : Nat) (name : Bytes) :
    nameIn form (utf8 (start form seconds) ++ name) = name := by
  cases form with
  | names => rfl
  | facts =>
    -- the reader stops at the first space behind a semicolon, so the facts before it must not have any
    have hspace : 32 ∉ utf8 (factsStart ++ (DateTime.ofSeconds seconds).compactChars) :=
      notMem_utf8 (by decide) rfl (space_notMem_facts _)
    have hend : utf8 [';', ' '] = [59, 32] := by decide
    show afterFacts (utf8 (factsStart ++ (DateTime.ofSeconds seconds).compactChars ++ [';', ' ']) ++ name) = name
    rw [utf8_append, hend, List.append_assoc]
    exact afterFacts_append hspace name
  | long =>
    show (utf8 (start .long seconds) ++ name).drop longWidth = name
    rw [← length_start_long seconds, List.drop_left]

/-! ## The whole listing

The lines are put one behind the other, and the reader finds the same cuts. -/

/-- **A client reads the names off a listing**, in their order and with nothing left over, if there is no line feed in
them. -/
theorem read_chars (form : ListingForm) (clock : Nat → Nat) {t : Tree} {directory : Path}
    (hnames : ∀ name ∈ names t directory, '\n' ∉ name.toList) :
    read form (utf8 (chars form clock t directory)) =
      ((names t directory).map fun name => utf8 name.toList, []) := by
  let lineOf : String × Nat → Bytes := fun row => utf8 (start form (clock row.2)) ++ utf8 row.1.toList
  -- the bytes as lines and line ends, which is how the reader takes them apart
  have hbytes : utf8 (chars form clock t directory) =
      ((names t directory).zipIdx.map lineOf).flatMap (· ++ [13, 10]) := by
    have hend : utf8 lineEnd = [13, 10] := by decide
    have hrow (row : String × Nat) : utf8 (line form (clock row.2) row.1) = lineOf row ++ [13, 10] := by
      rw [line_eq, utf8_append, utf8_append, hend]
    rw [chars, utf8_flatten, List.flatMap_map, List.flatMap_map]
    exact congrArg (fun f => List.flatMap f (names t directory).zipIdx) (funext hrow)
  -- a name with a line feed would be cut in two here, hence the hypothesis on names
  have hlines : ∀ line ∈ (names t directory).zipIdx.map lineOf, 10 ∉ line := by
    intro line hline
    obtain ⟨row, hrow, rfl⟩ := List.mem_map.1 hline
    have hname : row.1 ∈ names t directory := List.fst_mem_of_mem_zipIdx hrow
    rw [List.mem_append, not_or]
    exact ⟨feed_notMem_utf8 (feed_notMem_start form _), feed_notMem_utf8 (hnames row.1 hname)⟩
  have hread (row : String × Nat) : nameIn form (lineOf row) = utf8 row.1.toList := nameIn_append form _ _
  rw [read, hbytes, cut_lines hlines, List.map_map, Prod.mk.injEq]
  refine ⟨?_, rfl⟩
  calc (names t directory).zipIdx.map (nameIn form ∘ lineOf)
      = (names t directory).zipIdx.map ((fun name => utf8 name.toList) ∘ Prod.fst) :=
        List.map_congr_left fun row _ => hread row
    _ = (names t directory).map fun name => utf8 name.toList := by
        rw [← List.map_map, List.zipIdx_map_fst]

/-! ## Which names they are

The tree gives the children of a directory in no particular order, and the listing sorts them by name. Two children of
one directory have different names. -/

/-- **The names are those of the directories directly inside**, in strictly increasing order. -/
theorem exists_children {t : Tree} {directory : Path} (h : directory ∈ t) :
    ∃ children : List Path,
      (∀ child, child ∈ children ↔ child ∈ t ∧ child.parent? = some directory) ∧
      (children.map Path.fileName).Pairwise (· < ·) ∧ names t directory = children.map Path.fileName := by
  let before : Path → Path → Bool := fun p q => decide (p.fileName ≤ q.fileName)
  have hnames : names t directory = ((t.children directory).mergeSort before).map Path.fileName :=
    (List.map_mergeSort (f := Path.fileName) fun _ _ _ _ => rfl).symm
  have hmem : ∀ child, child ∈ (t.children directory).mergeSort before ↔ child ∈ t ∧ child.parent? = some directory := by
    intro child
    rw [List.mem_mergeSort, Tree.mem_children, and_iff_right h]
  refine ⟨_, hmem, ?_, hnames⟩
  have hsorted : ((t.children directory).mergeSort before).Pairwise fun p q => before p q = true := by
    refine List.pairwise_mergeSort (fun p q r hpq hqr => ?_) (fun p q => ?_) _
    · exact decide_eq_true (String.le_trans (of_decide_eq_true hpq) (of_decide_eq_true hqr))
    · rw [Bool.or_eq_true, decide_eq_true_eq, decide_eq_true_eq]
      exact String.le_total _ _
  have hdistinct : ((t.children directory).mergeSort before).Nodup :=
    (List.mergeSort_perm _ _).nodup_iff.2 (t.nodup_children directory)
  rw [List.pairwise_map]
  refine (hsorted.and hdistinct).imp_of_mem fun {p q} hp hq hboth => ?_
  -- one is not behind the other, so it is before it or has the same name, and then it is the same
  by_contra hlt
  have hname : p.fileName = q.fileName :=
    String.le_antisymm (of_decide_eq_true hboth.1) (String.not_lt.1 hlt)
  exact hboth.2 (Path.eq_of_fileName ((hmem p).1 hp).2 ((hmem q).1 hq).2 hname)

end Listing

end FtpIntake
