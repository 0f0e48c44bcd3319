import FtpIntake.Toml.Value

/-!
# Sections of a TOML document

A section is a header and the pairs below it. Its header is a path of names, told from the table whose sections are
looked at: the section with the empty path is that table's own, and all others belong to one of its fields.

A name is given once, and so is a table, but a table that only led to the headers of others may still be given by a
header of its own. An array of tables takes one more element with every header of its kind. Where the pairs of a table
make it a date, further sections are not looked at, and it depends on the table around it whether they may be there.
-/

namespace FtpIntake.Toml

/-- A header, and the pairs below it. -/
structure Section where
  header : List String
  /-- Whether the header is that of an element of an array. -/
  element : Bool
  pairs : Pairs

namespace Section

/-! ## The sections of a field -/

/-- Whether a section begins the next element of the array that its path leads to. -/
def beginsElement (s : Section) : Bool :=
  s.header.isEmpty && s.element

/-- The sections of the field with a name, as they are told from there. -/
def inside (name : String) (sections : List Section) : List Section :=
  sections.filterMap fun s =>
    match s.header with
    | [] => none
    | n :: path => if n = name then some { s with header := path } else none

/-- The other sections. -/
def outside (name : String) (sections : List Section) : List Section :=
  sections.filter fun s => s.header.head? != some name

/-- The number of headers and of names in them. -/
def extent : List Section → Nat
  | [] => 0
  | s :: rest => s.header.length + 1 + extent rest

theorem extent_append (before after : List Section) : extent (before ++ after) = extent before + extent after := by
  induction before with
  | nil => simp [extent]
  | cons s rest ih => simp only [List.cons_append, extent, ih, Nat.add_assoc]

theorem extent_inside_le (name : String) (sections : List Section) :
    extent (inside name sections) ≤ extent sections := by
  induction sections with
  | nil => simp [inside]
  | cons s rest ih =>
    rw [inside, List.filterMap_cons, ← inside]
    split
    · rw [extent]
      omega
    · -- a section that stays has one name less
      next t ht =>
      split at ht
      · simp at ht
      · next n path hs =>
        split at ht
        · simp only [Option.some.injEq] at ht
          simp only [extent, ← ht, hs, List.length_cons]
          omega
        · simp at ht

theorem extent_outside_le (name : String) (sections : List Section) :
    extent (outside name sections) ≤ extent sections := by
  induction sections with
  | nil => simp [outside]
  | cons s rest ih =>
    rw [outside, List.filter_cons, ← outside]
    split <;> simp only [extent] <;> omega

/-! ## What sections make -/

mutual

/-- The table that sections make together with the fields found before them, and the sections that were not looked at
because the table is a date. `given` says whether the table's own section has been seen. -/
def table? (found : Settings) (given : Bool) (sections : List Section) : Option (Setting × List Section) :=
  match sections with
  | [] => some (.table found, [])
  | ⟨[], element, pairs⟩ :: rest =>
    -- a table of its own that comes twice, or an element where no array is
    if element || given then none
    else
      match Pairs.table? found pairs with
      | some (.table found) => table? found true rest
      -- the rest is given back unread, for the table around to decide
      | some date => some (date, rest)
      | none => none
  | ⟨name :: path, element, pairs⟩ :: rest =>
    if (found.get? name).isSome ∨ (found.isEmpty ∧ name = dateName) then none
    else
      -- all sections of the field are taken together, wherever they stand
      match field? (⟨path, element, pairs⟩ :: inside name rest) with
      | some value => table? (found.put name value) given (outside name rest)
      | none => none
termination_by 2 * extent sections
decreasing_by
  · rw [extent]
    omega
  · have := extent_inside_le name rest
    simp only [extent, List.length_cons]
    omega
  · have := extent_outside_le name rest
    simp only [extent, List.length_cons]
    omega

/-- The value of the field that sections belong to: an array if the first of them begins an element, and a table
otherwise. -/
def field? (sections : List Section) : Option Setting :=
  if sections.head?.any beginsElement then (elements? [] sections).map .sequence
  else
    match table? [] false sections with
    -- a single table has nobody to leave sections to
    | some (value, []) => some value
    | _ => none
termination_by 2 * extent sections + 1
decreasing_by
  · rw [extent]
    omega
  · omega

/-- The elements of an array, each of which a header begins. A date leaves the sections behind it to the next element;
`left` are those left so far. -/
def elements? (left sections : List Section) : Option (List Setting) :=
  match sections with
  | [] => if left.isEmpty then some [] else none
  | first :: rest =>
    match Pairs.table? [] first.pairs with
    | some (.table found) =>
      -- the sections up to the next header of the array are those of this element
      match table? found true (left ++ rest.takeWhile (!·.beginsElement)) with
      | some (item, []) => (elements? [] (rest.dropWhile (!·.beginsElement))).map (item :: ·)
      | _ => none
    | some date =>
      (elements? (left ++ rest.takeWhile (!·.beginsElement)) (rest.dropWhile (!·.beginsElement))).map (date :: ·)
    | none => none
termination_by 2 * (extent left + extent sections)
decreasing_by
  all_goals
    have h : extent (rest.takeWhile (!·.beginsElement)) + extent (rest.dropWhile (!·.beginsElement)) = extent rest := by
      rw [← extent_append, List.takeWhile_append_dropWhile]
    simp only [extent, extent_append]
    omega

end

end Section

end FtpIntake.Toml
