import FtpIntake.Net.Ipv4
import FtpIntake.Proofs.Text.Numeral

/-!
# IPv4 addresses as texts

`Ipv4.read_chars_append` reads an address that was written, whatever text follows, as long as it does not go on with a
digit. `Ipv4.read_eq_none` is for the texts that begin with something else: without a dot behind the first digits there
is no address.
-/

namespace FtpIntake.Ipv4

open Text

theorem isOctet_numeral : ∀ n < 256, isOctet (numeral n) = true := by
  decide +kernel

theorem readOctet_numeral_append (octet : UInt8) {rest : List Char} (h : ∀ c ∈ rest.head?, c.isDigit = false) :
    readOctet (numeral octet.toNat ++ rest) = some (octet, rest) := by
  have hlt : octet.toNat < 256 := octet.toNat_lt
  have hvalue : Nat.ofDigitChars 10 (numeral octet.toNat) 0 = octet.toNat := Nat.ofDigitChars_ten_toDigits
  have hdigits : ∀ c ∈ numeral octet.toNat, c.isDigit = true := fun _ => isDigit_of_mem_numeral
  obtain ⟨htake, hdrop⟩ := takeWhile_dropWhile_append hdigits h
  simp [readOctet, htake, hdrop, hvalue, isOctet_numeral octet.toNat hlt, show octet.toNat ≤ 255 by omega]

/-- **An address that was written is read again**, up to where it ends. -/
theorem read_chars_append (ip : Ipv4) {rest : List Char} (h : ∀ c ∈ rest.head?, c.isDigit = false) :
    read (ip.chars ++ rest) = some (ip, rest) := by
  have hdotted (octet : UInt8) (s : List Char) : readOctet (numeral octet.toNat ++ '.' :: s) = some (octet, '.' :: s) :=
    readOctet_numeral_append octet (by simp)
  simp [read, chars, hdotted, readOctet_numeral_append _ h, expect]

theorem read_chars (ip : Ipv4) : read ip.chars = some (ip, []) := by
  have hnothing : ∀ c ∈ ([] : List Char).head?, c.isDigit = false := by simp
  simpa using read_chars_append ip hnothing

theorem read_eq_none {s : List Char} (h : (s.dropWhile Char.isDigit).head? ≠ some '.') : read s = none := by
  have hdot : expect '.' (s.dropWhile Char.isDigit) = none := by
    cases hs : s.dropWhile Char.isDigit with
    | nil => rfl
    | cons c rest => simpa [expect, hs] using h
  cases hoctet : readOctet s with
  | none => simp [read, hoctet]
  | some found =>
    -- if there is an octet at all, it takes all the digits, and the dot is looked for behind them
    have hrest : found.2 = s.dropWhile Char.isDigit := by
      simp only [readOctet, Option.ite_none_right_eq_some, Option.some.injEq] at hoctet
      exact (congrArg Prod.snd hoctet.2).symm
    simp [read, hoctet, hrest, hdot]

end FtpIntake.Ipv4
