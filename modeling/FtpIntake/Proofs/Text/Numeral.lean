import FtpIntake.Proofs.Text.Trim
import FtpIntake.Text.Numeral

/-!
# Numerals as texts

A number is written with digits alone, so that it can stand beside separators and white space. What is read as a number
has a wider form, `IsUnsigned`: there may be zeros in front, and a sign.
-/

namespace FtpIntake.Text

/-- Decimal digits that stand for a number up to `max`, with a plus sign in front of them or none. -/
def IsUnsigned (max : Nat) (s : List Char) (n : Nat) : Prop :=
  ∃ digits, (s = digits ∨ s = '+' :: digits) ∧ digits ≠ [] ∧ (∀ c ∈ digits, c.isDigit = true) ∧
    Nat.ofDigitChars 10 digits 0 = n ∧ n ≤ max

theorem readDigits_bind_atMost_iff {max n : Nat} {s : List Char} :
    (readDigits s >>= atMost max) = some n ↔
      s ≠ [] ∧ (∀ c ∈ s, c.isDigit = true) ∧ Nat.ofDigitChars 10 s 0 = n ∧ n ≤ max := by
  -- what is read are digits only; the bound is looked at afterwards
  by_cases h : s ≠ [] ∧ s.all Char.isDigit = true
  · simp only [readDigits, if_pos h, Option.bind_eq_bind, Option.bind_some, atMost, Option.ite_none_right_eq_some,
      Option.some.injEq]
    have hdigits : ∀ c ∈ s, c.isDigit = true := List.all_eq_true.1 h.2
    constructor
    · rintro ⟨hle, rfl⟩
      exact ⟨h.1, hdigits, rfl, hle⟩
    · rintro ⟨-, -, rfl, hle⟩
      exact ⟨hle, rfl⟩
  · simp only [readDigits, if_neg h, Option.bind_eq_bind, Option.bind_none, reduceCtorEq, false_iff]
    rintro ⟨hne, hdigits, -⟩
    exact h ⟨hne, List.all_eq_true.2 hdigits⟩

theorem readUnsigned_eq_some_iff {max n : Nat} {s : List Char} :
    readUnsigned max s = some n ↔ IsUnsigned max s n := by
  unfold readUnsigned IsUnsigned
  split
  · next r =>
    rw [readDigits_bind_atMost_iff]
    constructor
    · exact fun h => ⟨r, .inr rfl, h⟩
    · rintro ⟨digits, rfl | hplus, h⟩
      · -- a plus that was not taken for the sign would have to be a digit
        exact absurd (h.2.1 '+' List.mem_cons_self) (by decide)
      · obtain rfl := (List.cons.inj hplus).2
        exact h
  · next hsign =>
    rw [readDigits_bind_atMost_iff]
    constructor
    · exact fun h => ⟨s, .inl rfl, h⟩
    · rintro ⟨digits, rfl | rfl, h⟩
      · exact h
      · exact absurd rfl (hsign digits)

/-- A run of characters of a class ends where the text goes on with a character of another. -/
theorem takeWhile_dropWhile_append {p : Char → Bool} {run rest : List Char} (hrun : ∀ c ∈ run, p c = true)
    (hrest : ∀ c ∈ rest.head?, p c = false) : (run ++ rest).takeWhile p = run ∧ (run ++ rest).dropWhile p = rest := by
  rw [List.takeWhile_append_of_pos hrun, List.dropWhile_append_of_pos hrun]
  cases rest with
  | nil => simp
  | cons c rest => simp [show p c = false from hrest c rfl]

/-! ## Numbers that were written

A numeral has nothing but digits, and so it is told apart from what stands around it. -/

theorem isDigit_of_mem_numeral {n : Nat} {c : Char} (h : c ∈ numeral n) : c.isDigit = true :=
  Nat.isDigit_of_mem_toDigits (by decide) (by decide) h

theorem isBlank_eq_false_of_isDigit {c : Char} (h : c.isDigit = true) : isBlank c = false := by
  rw [Char.isDigit_iff_toNat] at h
  obtain ⟨hlow, hhigh⟩ : 48 ≤ c.toNat ∧ c.toNat ≤ 57 := h
  simp only [isBlank, Bool.or_eq_false_iff, Bool.and_eq_false_iff, decide_eq_false_iff_not, beq_eq_false_iff_ne]
  omega

theorem trim_numeral (n : Nat) : trim (numeral n) = numeral n :=
  trim_of_forall fun _ hc => isBlank_eq_false_of_isDigit (isDigit_of_mem_numeral hc)

theorem comma_notMem_numeral (n : Nat) : ',' ∉ numeral n :=
  fun hcomma => absurd (isDigit_of_mem_numeral hcomma) (by decide)

/-- Numbers in range that were written are read back, one by one. Induction on the numbers. -/
theorem mapM_readUnsigned_numeral {max : Nat} {numbers : List Nat} (h : ∀ n ∈ numbers, n ≤ max) :
    (numbers.map numeral).mapM (fun field => readUnsigned max (trim field)) = some numbers := by
  induction numbers with
  | nil => rfl
  | cons n numbers ih =>
    obtain ⟨hn, hnumbers⟩ := List.forall_mem_cons.1 h
    rw [List.map_cons, List.mapM_cons, ih hnumbers, trim_numeral, readUnsigned_numeral hn]
    rfl

end FtpIntake.Text
