import FtpIntake.Toml.Token
import FtpIntake.Toml.Value

/-!
# Numbers, truth values and dates of a TOML document

What a bare word stands for as a value. A word may be the beginning of something longer: a fraction, an exponent with
a plus sign, or a date with a time. `scalar?` gives the value together with the number of further tokens that belong
to it.

Whole numbers are at most 64 bits wide. Digits may be grouped by single underscores, and only the other radices allow
leading zeros.
-/

namespace FtpIntake.Toml

open Text

/-! ## Digits

Runs of digits are read with their underscores, which are taken out when they stand well. -/

/-- Whether underscores stand only between digits. -/
def groupedWell : List Char → Bool
  | [] => true
  | '_' :: [] => false
  | '_' :: '_' :: _ => false
  | _ :: r => groupedWell r

/-- Reads a run of digits, grouped by underscores: the digits alone, and what comes after them. -/
def readGrouped (isDigit : Char → Bool) (leadingZeros : Bool) (s : List Char) : Option (List Char × List Char) :=
  let inRun := fun c => isDigit c || c == '_'
  let run := s.takeWhile inRun
  -- the first character is a digit, and a leading zero stands alone unless it may lead
  let wellFormed := run.head?.any isDigit && groupedWell run && (leadingZeros || run.head? != some '0' || run.length == 1)
  if wellFormed then some (run.filter (· != '_'), s.dropWhile inRun) else none

/-- A run of digits with an optional sign in front: whether it is negative, the digits, and what comes after them. -/
def readSigned (leadingZeros : Bool) : List Char → Option (Bool × List Char × List Char)
  | '-' :: r => (readGrouped Char.isDigit leadingZeros r).map (true, ·)
  | '+' :: r => (readGrouped Char.isDigit leadingZeros r).map (false, ·)
  | r => (readGrouped Char.isDigit leadingZeros r).map (false, ·)

/-! ## Whole numbers -/

/-- A whole number that fits 64 bits. -/
def integer? (negative : Bool) (n : Nat) : Option Setting :=
  -- there is one more below zero than above
  if negative then if n ≤ maxSigned64 + 1 then some (.integer (-(n : Int))) else none
  else if n ≤ maxSigned64 then some (.integer n) else none

/-- The whole number that a word stands for. -/
def decimal? (word : List Char) : Option Setting :=
  match readSigned false word with
  | some (negative, digits, []) => integer? negative (digitsValue 10 digits)
  | _ => none

/-- The whole number that some digits of another radix stand for. -/
def radix? (radix : Nat) (digits : List Char) : Option Setting :=
  match readGrouped (isDigitOf radix) true digits with
  | some (digits, []) => integer? false (digitsValue radix digits)
  | _ => none

/-! ## Numbers with a fraction or an exponent

The tokens have cut such a number at its period and at a plus sign, so it is put together from several of them. -/

/-- Whether a character begins an exponent. -/
def isExponentMark (c : Char) : Bool :=
  c == 'e' || c == 'E'

/--
Reads the exponent that some text and the tokens behind it give: its value, and the number of these tokens. A word
that ends with the mark of the exponent goes on behind a plus sign.
-/
def readExponent (s : List Char) (rest : List Token) : Option (Int × Nat) :=
  match s with
  | [] => some (0, 0)
  | c :: digits =>
    if !isExponentMark c then none
    else if digits.isEmpty then
      match rest with
      -- the sign has become a token, and the digits behind it another
      | .plus :: .bare word :: _ =>
        match readGrouped Char.isDigit true word with
        | some (digits, []) => some (digitsValue 10 digits, 2)
        | _ => none
      | _ => none
    else
      -- a hyphen stayed in the word
      match readSigned true digits with
      | some (negative, digits, []) =>
        let n : Int := digitsValue 10 digits
        some (if negative then -n else n, 0)
      | _ => none

/-- The number with the given parts. It has to be finite. -/
def real? (negative : Bool) (whole fraction : List Char) (exponent : Int) : Option Setting :=
  let value := Binary64.ofDecimal negative (digitsValue 10 (whole ++ fraction)) (exponent - fraction.length)
  if value.isFinite then some (.real value) else none

/-- The number that a word and the tokens behind it stand for, where there is a fraction or an exponent. -/
def float? (word : List Char) (rest : List Token) : Option (Setting × Nat) := do
  let (negative, whole, more) ← readSigned false word
  match rest with
  | .period :: .bare after :: rest =>
    -- the period belongs to the number only if its whole part ends there
    if more.isEmpty then
      let (fraction, more) ← readGrouped Char.isDigit true after
      let (exponent, used) ← readExponent more rest
      return (← real? negative whole fraction exponent, used + 2)
    else
      let (exponent, used) ← readExponent more (.period :: .bare after :: rest)
      return (← real? negative whole [] exponent, used)
  | rest =>
    let (exponent, used) ← readExponent more rest
    return (← real? negative whole [] exponent, used)

/-- The number that a word and the tokens behind it stand for. -/
def number? (word : List Char) (rest : List Token) : Option (Setting × Nat) :=
  match word with
  | '0' :: 'x' :: digits => (radix? 16 digits).map (·, 0)
  | '0' :: 'o' :: digits => (radix? 8 digits).map (·, 0)
  | '0' :: 'b' :: digits => (radix? 2 digits).map (·, 0)
  | word =>
    -- a whole number has neither an exponent nor a period behind it
    if word.any isExponentMark || rest.head? == some .period then float? word rest
    else if word = "inf".toList then some (.real (.infinite false), 0)
    else if word = "-inf".toList then some (.real (.infinite true), 0)
    else if word = "nan".toList ∨ word = "-nan".toList then some (.real .nan, 0)
    else (decimal? word).map (·, 0)

/-! ## Dates

A date is cut at colons, at its period, and at a blank. What it is put together to is read as a date later, if it is
needed. -/

/-- Whether a word can only be the beginning of a date. -/
def looksLikeDate (word : List Char) : Bool :=
  word.any (fun c => c == 'T' || c == 't') ||
    ((word.drop 1).contains '-' && !(word.zip (word.drop 1)).any (fun p => isExponentMark p.1 && p.2 == '-'))

/-- The word behind a separator, with the separator in front, and the number of tokens that they are. -/
def wordAfter (separator : Token) (mark : Char) (rest : List Token) : Option (List Char × Nat) :=
  match rest with
  | token :: .bare word :: _ => if token = separator then some (mark :: word, 2) else some ([], 0)
  | token :: _ => if token = separator then none else some ([], 0)
  | [] => some ([], 0)

/-- The text of a time behind its hour, and the number of tokens that it is. -/
def readClock (rest : List Token) : Option (List Char × Nat) :=
  match rest with
  | .colon :: .bare minute :: .colon :: .bare second :: rest => do
    let (fraction, n) ← wordAfter .period '.' rest
    -- the offset is put together again from its tokens
    let (ahead, m) ← wordAfter .plus '+' (rest.drop n)
    let (offset, k) ← wordAfter .colon ':' (rest.drop (n + m))
    return (':' :: minute ++ ':' :: second ++ fraction ++ ahead ++ offset, 4 + n + m + k)
  | .colon :: _ => none
  | _ => some ([], 0)

/-- The date that a word and the tokens behind it are meant to be. -/
def date? (word : List Char) (rest : List Token) : Option (Value × Nat) := do
  let (hour, n) :=
    match rest with
    -- one blank may stand between the day and the time
    | .blanks [' '] :: .bare hour :: _ => (' ' :: hour, 2)
    | _ => ([], 0)
  let (clock, m) ← readClock (rest.drop n)
  return (.date (word ++ hour ++ clock), n + m)

/-! ## All of them -/

/-- The value that a word stands for, and the number of tokens behind it that belong to the value. -/
def scalar? (word : List Char) (rest : List Token) : Option (Value × Nat) :=
  if word = "true".toList then some (.plain (.boolean true), 0)
  else if word = "false".toList then some (.plain (.boolean false), 0)
  else if word = "inf".toList ∨ word = "nan".toList ∨ word.head?.any (fun c => c == '-' || c.isDigit) then
    -- an hour looks like a number, but for the colon behind it
    if looksLikeDate word || rest.head? == some .colon then date? word rest
    else (number? word rest).map fun (number, used) => (.plain number, used)
  else none

end FtpIntake.Toml
