import FtpIntake.Toml.Scalar
import FtpIntake.Toml.Section

/-!
# TOML documents

A document is a list of statements: headers that open a section, and pairs of a key and a value. A key is a path of
names. Each header begins a section, the pairs below it are gathered into it, and the sections together make the
settings of the document.

Reading a piece of a document consumes at least one token. `Read` carries that fact, which is what makes the readers of
nested values end.
-/

namespace FtpIntake.Toml

/-! ## Reading

White space counts only where a date may need it, and line ends only between statements. -/

/-- What was read from the front of some tokens, and the fewer ones behind it. -/
structure Read (α : Type) (ts : List Token) where
  value : α
  rest : List Token
  shorter : rest.length < ts.length

/-- Passes over white space within a line. -/
def skipBlanks : List Token → List Token
  | .blanks _ :: r => skipBlanks r
  | ts => ts

/-- Passes over white space and line ends. -/
def skipBreaks : List Token → List Token
  | .blanks _ :: r => skipBreaks r
  | .newline :: r => skipBreaks r
  | ts => ts

theorem length_skipBlanks_le (ts : List Token) : (skipBlanks ts).length ≤ ts.length := by
  fun_induction skipBlanks ts with
  | case1 _ r ih => exact Nat.le_succ_of_le ih
  | case2 => exact Nat.le_refl _

theorem length_skipBreaks_le (ts : List Token) : (skipBreaks ts).length ≤ ts.length := by
  fun_induction skipBreaks ts with
  | case1 _ r ih => exact Nat.le_succ_of_le ih
  | case2 r ih => exact Nat.le_succ_of_le ih
  | case3 => exact Nat.le_refl _

/-- The name that a token is as a part of a key. -/
def Token.key? : Token → Option String
  | .bare word => some (String.ofList word)
  | .quoted text false => some (String.ofList text)
  | _ => none

/-- Reads a key and the white space behind it. -/
def readKey (ts : List Token) : Option (Read (List String) ts) :=
  match ts with
  | [] => none
  | t :: r =>
    match t.key?, h : skipBlanks r with
    | none, _ => none
    -- white space is passed over on both sides of the period
    | some name, .period :: more =>
      match readKey (skipBlanks more) with
      | none => none
      | some key =>
        some ⟨name :: key.value, key.rest, by
          have h1 := length_skipBlanks_le r
          have h2 := length_skipBlanks_le more
          have h3 := key.shorter
          rw [h, List.length_cons] at h1
          rw [List.length_cons]
          omega⟩
    | some name, rest =>
      some ⟨[name], rest, by
        have h1 := length_skipBlanks_le r
        rw [h] at h1
        rw [List.length_cons]
        omega⟩
termination_by ts.length
decreasing_by
  have h1 := length_skipBlanks_le r
  have h2 := length_skipBlanks_le more
  rw [h, List.length_cons] at h1
  rw [List.length_cons]
  omega

/-- Reads a key and the equals sign behind it, with white space on both sides. -/
def readKeyEquals (ts : List Token) : Option (Read (List String) ts) :=
  match readKey ts with
  | none => none
  | some key =>
    match h : key.rest with
    | .equals :: r =>
      some ⟨key.value, skipBlanks r, by
        have h1 := length_skipBlanks_le r
        have h2 := key.shorter
        rw [h, List.length_cons] at h2
        omega⟩
    | _ => none

/-! ## Values

Values are nested in arrays and inline tables. The three readers call each other, each on fewer tokens. -/

/-- The pairs that keys and values make. -/
def pairsOf? (entries : List (List String × Value)) : Option Pairs :=
  entries.foldlM (fun (pairs : Pairs) (key, value) => pairs.add key value) []

mutual

/-- Reads a value. -/
def readValue (ts : List Token) : Option (Read Value ts) :=
  match ts with
  | .quoted text _ :: r => some ⟨.plain (.text (String.ofList text)), r, by simp⟩
  | .bare word :: r =>
    (scalar? word r).map fun (value, used) => ⟨value, r.drop used, by
      rw [List.length_drop, List.length_cons]
      omega⟩
  -- a sign is a token of its own, unlike the hyphen, which is part of a word
  | .plus :: .bare word :: r =>
    (number? word r).map fun (number, used) => ⟨.plain number, r.drop used, by
      simp only [List.length_drop, List.length_cons]
      omega⟩
  | .openBracket :: r =>
    match readItems r with
    | none => none
    | some items => some ⟨.array items.value, items.rest, Nat.lt_succ_of_lt items.shorter⟩
  | .openBrace :: r =>
    -- line ends are allowed between brackets but not between braces
    match _h : skipBlanks r with
    | .closeBrace :: rest =>
      some ⟨.table false [], rest, by
        have h1 := length_skipBlanks_le r
        rw [_h, List.length_cons] at h1
        rw [List.length_cons]
        omega⟩
    | _ =>
      match readEntries (skipBlanks r) with
      | none => none
      | some entries =>
        (pairsOf? entries.value).map fun pairs => ⟨.table false pairs, entries.rest, by
          have h1 := length_skipBlanks_le r
          have h2 := entries.shorter
          rw [List.length_cons]
          omega⟩
  | _ => none
termination_by 2 * ts.length
decreasing_by
  · simp only [List.length_cons]
    omega
  · have := length_skipBlanks_le r
    simp only [List.length_cons]
    omega

/-- Reads the items of an array up to its closing bracket. -/
def readItems (ts : List Token) : Option (Read (List Value) ts) :=
  match h : skipBreaks ts with
  | .closeBracket :: r =>
    some ⟨[], r, by
      have h1 := length_skipBreaks_le ts
      rw [h, List.length_cons] at h1
      omega⟩
  | _ =>
    match readValue (skipBreaks ts) with
    | none => none
    | some item =>
      match h2 : skipBreaks item.rest with
      | .closeBracket :: r =>
        some ⟨[item.value], r, by
          have h3 := length_skipBreaks_le ts
          have h4 := length_skipBreaks_le item.rest
          have h5 := item.shorter
          rw [h2, List.length_cons] at h4
          omega⟩
      -- a comma may stand behind the last item, since the next round may find the bracket
      | .comma :: r =>
        match readItems r with
        | none => none
        | some items =>
          some ⟨item.value :: items.value, items.rest, by
            have h3 := length_skipBreaks_le ts
            have h4 := length_skipBreaks_le item.rest
            have h5 := item.shorter
            have h6 := items.shorter
            rw [h2, List.length_cons] at h4
            omega⟩
      | _ => none
termination_by 2 * ts.length + 1
decreasing_by
  · have := length_skipBreaks_le ts
    omega
  · have h3 := length_skipBreaks_le ts
    have h4 := length_skipBreaks_le item.rest
    have h5 := item.shorter
    rw [h2, List.length_cons] at h4
    omega

/-- Reads the keys and values of an inline table up to its closing brace. -/
def readEntries (ts : List Token) : Option (Read (List (List String × Value)) ts) :=
  match readKeyEquals ts with
  | none => none
  | some key =>
    match readValue key.rest with
    | none => none
    | some value =>
      match h : skipBlanks value.rest with
      | .closeBrace :: r =>
        some ⟨[(key.value, value.value)], r, by
          have h1 := length_skipBlanks_le value.rest
          have h2 := value.shorter
          have h3 := key.shorter
          rw [h, List.length_cons] at h1
          omega⟩
      -- here it may not: another pair has to follow
      | .comma :: r =>
        match readEntries (skipBlanks r) with
        | none => none
        | some entries =>
          some ⟨(key.value, value.value) :: entries.value, entries.rest, by
            have h1 := length_skipBlanks_le value.rest
            have h2 := value.shorter
            have h3 := key.shorter
            have h4 := length_skipBlanks_le r
            have h5 := entries.shorter
            rw [h, List.length_cons] at h1
            omega⟩
      | _ => none
termination_by 2 * ts.length + 1
decreasing_by
  · have := key.shorter
    omega
  · have h1 := length_skipBlanks_le value.rest
    have h2 := value.shorter
    have h3 := key.shorter
    have h4 := length_skipBlanks_le r
    rw [h, List.length_cons] at h1
    omega

end

/-! ## Statements

A statement takes one line, except for the arrays in it. -/

/-- A statement of a document. -/
inductive Statement where
  /-- The header of a section: of a table, or of one more element of an array of tables. -/
  | header (key : List String) (element : Bool)
  | pair (key : List String) (value : Value)

/-- Reads the end of a line, or of the document. -/
def readLineEnd (ts : List Token) : Option (List Token) :=
  match skipBlanks ts with
  | [] => some []
  | .newline :: r => some r
  | _ => none

theorem length_le_of_readLineEnd {ts rest : List Token} (h : readLineEnd ts = some rest) :
    rest.length ≤ ts.length := by
  have h1 := length_skipBlanks_le ts
  unfold readLineEnd at h
  split at h
  · simp only [Option.some.injEq] at h
    simp [← h]
  · next r hr =>
    simp only [Option.some.injEq] at h
    rw [hr, List.length_cons] at h1
    rw [← h]
    omega
  · simp at h

/-- Reads a header behind its first bracket. -/
def readHeader (ts : List Token) : Option (Read Statement ts) :=
  match ts with
  | .openBracket :: r =>
    match readKey (skipBlanks r) with
    | none => none
    | some key =>
      match h : key.rest with
      -- the two brackets stand close together, with nothing between them
      | .closeBracket :: .closeBracket :: rest =>
        some ⟨.header key.value true, rest, by
          have h1 := length_skipBlanks_le r
          have h2 := key.shorter
          simp only [h, List.length_cons] at h2
          rw [List.length_cons]
          omega⟩
      | _ => none
  | ts =>
    match readKey (skipBlanks ts) with
    | none => none
    | some key =>
      match h : key.rest with
      | .closeBracket :: rest =>
        some ⟨.header key.value false, rest, by
          have h1 := length_skipBlanks_le ts
          have h2 := key.shorter
          simp only [h, List.length_cons] at h2
          omega⟩
      | _ => none

/-- Reads a statement without the end of its line. -/
def readStatement (ts : List Token) : Option (Read Statement ts) :=
  match ts with
  | .openBracket :: r =>
    (readHeader r).map fun header => ⟨header.value, header.rest, Nat.lt_succ_of_lt header.shorter⟩
  | ts =>
    match readKeyEquals ts with
    | none => none
    | some key =>
      (readValue key.rest).map fun value =>
        ⟨.pair key.value value.value, value.rest, Nat.lt_trans value.shorter key.shorter⟩

/-- Reads all statements. -/
def readStatements (ts : List Token) : Option (List Statement) :=
  match _h : skipBreaks ts with
  | [] => some []
  | t :: r =>
    match readStatement (t :: r) with
    | none => none
    | some statement =>
      match _hEnd : readLineEnd statement.rest with
      | none => none
      | some rest => (readStatements rest).map (statement.value :: ·)
termination_by ts.length
decreasing_by
  have h1 := length_skipBreaks_le ts
  have h2 := statement.shorter
  have h3 := length_le_of_readLineEnd _hEnd
  rw [_h] at h1
  omega

/-! ## Sections

The pairs that follow a header belong to it up to the next header. -/

/-- Gathers statements into sections, the last one first. What comes before any header is a section without a name. -/
def gather (statements : List Statement) : Option (List Section) :=
  statements.foldlM (fun sections statement =>
    match statement, sections with
    | .header key element, sections => some (⟨key, element, []⟩ :: sections)
    -- a pair belongs to the section that was opened last
    | .pair key value, current :: before =>
      (current.pairs.add key value).map fun pairs => { current with pairs } :: before
    | .pair _ _, [] => none) [⟨[], false, []⟩]

/-- The settings of a document, or `none` if it is malformed. A document that is a date as a whole has none. -/
def settings? (document : String) : Option Settings := do
  let sections ← gather (← readStatements (← tokenize document))
  -- sections that a date leaves over count for nothing at the top
  let (setting, _) ← Section.table? [] false sections.reverse
  return setting.fields

end FtpIntake.Toml
