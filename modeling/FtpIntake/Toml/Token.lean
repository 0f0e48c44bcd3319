import FtpIntake.Text.Numeral

/-!
# Tokens of a TOML document

A document is cut into tokens before anything is made of it. White space is kept, because dates are held together by
it, and line ends are tokens because they end a statement; a comment leaves no token, because a line end always
follows it. What begins like a token but does not end like one makes the whole document malformed.
-/

namespace FtpIntake.Toml

open Text

/-- A token. -/
inductive Token where
  | newline
  | blanks (run : List Char)
  | equals
  | period
  | comma
  | colon
  | plus
  | openBrace
  | closeBrace
  | openBracket
  | closeBracket
  /-- A run of letters, digits, underscores and hyphens: a name, a number, a truth value or a piece of a date. -/
  | bare (word : List Char)
  /-- A text between quotes. A long one stands between triple quotes and may go over several lines. -/
  | quoted (text : List Char) (long : Bool)
  deriving DecidableEq

/-! ## Character classes -/

/-- The characters of a bare word. -/
def isBareChar (c : Char) : Bool :=
  c.isAlphanum || c == '-' || c == '_'

/-- The white space within a line. -/
def isSpace (c : Char) : Bool :=
  c == ' ' || c == '\t'

/-- The characters that a comment may hold. -/
def isCommentChar (c : Char) : Bool :=
  c == '\t' || 0x20 ≤ c.toNat

/-- The characters that a text may hold as they are. -/
def isTextChar (c : Char) : Bool :=
  isCommentChar c && c != '\x7f'

/-- The token that a character is by itself. -/
def single? : Char → Option Token
  | '\n' => some .newline
  | '=' => some .equals
  | '.' => some .period
  | ',' => some .comma
  | ':' => some .colon
  | '+' => some .plus
  | '\x7b' => some .openBrace
  | '\x7d' => some .closeBrace
  | '[' => some .openBracket
  | ']' => some .closeBracket
  | _ => none

/-! ## Texts between quotes

There are four kinds: with single or double quotes, on one line or between triple quotes on several. Only in double
quotes does a backslash mean something. -/

/-- The character with a number given by exactly `n` hexadecimal digits, which the text begins with. -/
def numbered? (n : Nat) (s : List Char) : Option Char :=
  let digits := s.take n
  let code := digitsValue 16 digits
  if digits.length = n ∧ digits.all (isDigitOf 16) ∧ code.isValidChar then some (Char.ofNat code) else none

/--
Reads what follows a backslash: the characters that it stands for, and what comes after it. In a long text a backslash
at the end of a line stands for nothing and hides all white space up to the next character.
-/
def readEscape (long : Bool) : List Char → Option (List Char × List Char)
  | [] => none
  | '"' :: r => some (['"'], r)
  | '\\' :: r => some (['\\'], r)
  | 'b' :: r => some (['\x08'], r)
  | 'f' :: r => some (['\x0c'], r)
  | 'n' :: r => some (['\n'], r)
  | 'r' :: r => some (['\r'], r)
  | 't' :: r => some (['\t'], r)
  | 'u' :: r => (numbered? 4 r).map fun c => ([c], r.drop 4)
  | 'U' :: r => (numbered? 8 r).map fun c => ([c], r.drop 8)
  | s =>
    -- white space may stand between the backslash and the line end
    match s.dropWhile isSpace with
    | '\n' :: r => if long then some ([], r.dropWhile (fun c => isSpace c || c == '\n')) else none
    | _ => none

theorem length_le_of_readEscape {long : Bool} {s cs rest : List Char} (h : readEscape long s = some (cs, rest)) :
    rest.length ≤ s.length := by
  unfold readEscape at h
  split at h
  case h_1 => simp at h
  case h_11 =>
    split at h
    · next r hr =>
      have h1 := (List.dropWhile_sublist isSpace (l := s)).length_le
      have h2 := (List.dropWhile_sublist (fun c => isSpace c || c == '\n') (l := r)).length_le
      rw [hr, List.length_cons] at h1
      split at h
      · simp only [Option.some.injEq, Prod.mk.injEq] at h
        rw [← h.2]
        omega
      · simp at h
    · simp at h
  all_goals
    simp only [Option.map_eq_some_iff, Option.some.injEq, Prod.mk.injEq] at h
    try obtain ⟨_, _, _, rfl⟩ := h
    try obtain ⟨_, rfl⟩ := h
    simp only [List.length_cons, List.length_drop]
    omega

/--
Reads a text up to its closing quotes, and what comes after them. A backslash is special between double quotes only. A
long text may end in one or two quotes of its own, which then stand before the closing ones.
-/
def readText (quote : Char) (long : Bool) (s : List Char) : Option (List Char × List Char) :=
  match s with
  | [] => none
  | c :: r =>
    if c = quote then
      if !long then some ([], r)
      else if [quote, quote].isPrefixOf r then
        -- up to two quotes in front of the closing ones belong to the text
        let own := ((r.drop 2).takeWhile (· == quote)).take 2
        some (own, r.drop (2 + own.length))
      else (readText quote long r).map (Prod.map (c :: ·) id)
    -- single quotes take everything as it is
    else if c = '\\' ∧ quote = '"' then
      match _h : readEscape long r with
      | none => none
      | some (cs, rest) => (readText quote long rest).map (Prod.map (cs ++ ·) id)
    else if isTextChar c || (long && c == '\n') then (readText quote long r).map (Prod.map (c :: ·) id)
    else none
termination_by s.length
decreasing_by
  · simp
  · have := length_le_of_readEscape _h
    simp only [List.length_cons]
    omega
  · simp

theorem length_lt_of_readText {quote : Char} {long : Bool} {s text rest : List Char}
    (h : readText quote long s = some (text, rest)) : rest.length < s.length := by
  fun_induction readText quote long s generalizing text <;>
    simp_all only [Option.map_eq_some_iff, Prod.exists, Prod.map_apply, id_eq, Prod.mk.injEq, Option.some.injEq,
      reduceCtorEq, List.length_cons]
  case case2 => omega
  case case3 => rw [← h.2, List.length_drop]; omega
  case case4 ih =>
    obtain ⟨t, u, hu, _, rfl⟩ := h
    exact Nat.lt_succ_of_lt (ih hu)
  case case6 he ih =>
    obtain ⟨t, u, hu, _, rfl⟩ := h
    have := length_le_of_readEscape he
    have := ih hu
    omega
  case case7 ih =>
    obtain ⟨t, u, hu, _, rfl⟩ := h
    exact Nat.lt_succ_of_lt (ih hu)

/-- Reads a text behind its first quote. Two more quotes open a long text, whose first character may be a line end that
does not count. -/
def readQuoted (quote : Char) (s : List Char) : Option (Token × List Char) :=
  -- an empty text has only one more quote here, the one that closes it
  if [quote, quote].isPrefixOf s then
    let body := s.drop 2
    let body := if body.head? = some '\n' then body.drop 1 else body
    (readText quote true body).map fun (text, rest) => (.quoted text true, rest)
  else (readText quote false s).map fun (text, rest) => (.quoted text false, rest)

theorem length_lt_of_readQuoted {quote : Char} {s rest : List Char} {token : Token}
    (h : readQuoted quote s = some (token, rest)) : rest.length < s.length := by
  unfold readQuoted at h
  split at h
  · simp only [Option.map_eq_some_iff, Prod.exists, Prod.mk.injEq] at h
    obtain ⟨t, u, hu, _, rfl⟩ := h
    have hlt := length_lt_of_readText hu
    -- the line end at the beginning, if it is there, is one character less
    split at hlt <;> simp only [List.length_drop] at hlt <;> omega
  · simp only [Option.map_eq_some_iff, Prod.exists, Prod.mk.injEq] at h
    obtain ⟨t, u, hu, _, rfl⟩ := h
    exact length_lt_of_readText hu

/-! ## The whole document

One token after the other, from the front. There is no way back. -/

/-- A line end may be written with a carriage return. -/
def foldLineEnds : List Char → List Char
  | [] => []
  | '\r' :: '\n' :: r => '\n' :: foldLineEnds r
  | c :: r => c :: foldLineEnds r

/-- Cuts a text into tokens. -/
def tokens (s : List Char) : Option (List Token) :=
  match s with
  | [] => some []
  | c :: r =>
    match single? c with
    | some token => (tokens r).map (token :: ·)
    | none =>
      if isSpace c then (tokens (r.dropWhile isSpace)).map (.blanks (c :: r.takeWhile isSpace) :: ·)
      else if isBareChar c then (tokens (r.dropWhile isBareChar)).map (.bare (c :: r.takeWhile isBareChar) :: ·)
      -- the line end is left, and becomes a token
      else if c = '#' then tokens (r.dropWhile isCommentChar)
      else if c = '"' ∨ c = '\'' then
        match _h : readQuoted c r with
        | none => none
        | some (token, rest) => (tokens rest).map (token :: ·)
      else none
termination_by s.length
decreasing_by
  · simp
  · exact Nat.lt_succ_of_le (List.dropWhile_sublist _).length_le
  · exact Nat.lt_succ_of_le (List.dropWhile_sublist _).length_le
  · exact Nat.lt_succ_of_le (List.dropWhile_sublist _).length_le
  · exact Nat.lt_succ_of_lt (length_lt_of_readQuoted _h)

/-- The tokens of a document, which may begin with a byte order mark. -/
def tokenize (document : String) : Option (List Token) :=
  let s := foldLineEnds document.toList
  tokens (if s.head? = some '\ufeff' then s.drop 1 else s)

end FtpIntake.Toml
