import FtpIntake.Calendar

/-!
# How wide a written time is

A long listing is read by counting characters, so the time in its lines must take the same number of them at every
clock reading. In the other form, which is read up to the first space, there must be none.

* **`DateTime.InRange`** bounds the numbers that take part in a long line, and **`inRange_ofSeconds`** says that every
  clock reading keeps to the bounds.
* **`DateTime.InRange.length_listingChars`** is what follows for long lines, and **`DateTime.mem_compactChars`** what
  the other form is made of.
-/

namespace FtpIntake.DateTime

/-! ## Numbers

Numbers are filled up to a width, and a number that is wider is written as it is. So the width is right only for
numbers that are small enough. -/

theorem mem_padded {fill c : Char} {width n : Nat} (h : c ∈ padded fill width n) : c = fill ∨ c.isDigit = true := by
  unfold padded at h
  rcases List.mem_append.1 h with h | h
  · exact .inl (List.eq_of_mem_replicate h)
  · exact .inr (Nat.isDigit_of_mem_toDigits (by decide) (by decide) h)

/-- A number with no more than two digits takes two characters. -/
theorem length_padded_two (fill : Char) {n : Nat} (h : n < 100) : (padded fill 2 n).length = 2 := by
  have hdigits : (Nat.toDigits 10 n).length ≤ 2 := (Nat.length_toDigits_le_iff (by decide) (by decide)).2 h
  unfold padded
  rw [List.length_append, List.length_replicate]
  omega

/-- The time of a line of facts is made of digits, and a sign in front of a year that has more than four. -/
theorem mem_compactChars {t : DateTime} {c : Char} (h : c ∈ t.compactChars) : c = '+' ∨ c.isDigit = true := by
  have hnumber {n width : Nat} (hc : c ∈ padded '0' width n) : c = '+' ∨ c.isDigit = true := by
    rcases mem_padded hc with rfl | hdigit
    · exact .inr rfl
    · exact .inr hdigit
  simp only [compactChars, List.mem_append] at h
  rcases h with ((((h | h) | h) | h) | h) | h
  · -- only the year can bring a sign with it, and it does so when it has more than four digits
    unfold yearChars at h
    split at h
    · exact hnumber h
    · rcases List.mem_cons.1 h with rfl | h
      · exact .inl rfl
      · exact hnumber h
  all_goals exact hnumber h

theorem notMem_compactChars (t : DateTime) {c : Char} (hsign : c ≠ '+') (hdigit : c.isDigit = false) :
    c ∉ t.compactChars := by
  intro hc
  rcases mem_compactChars hc with rfl | hc
  · exact hsign rfl
  · rw [hdigit] at hc
    cases hc

/-! ## Clock readings

The numbers of a date come from divisions, which bound all of them but the year. A long line does not show the
year. -/

/-- The numbers of a long line have two digits at most, and the month has a name. -/
structure InRange (t : DateTime) : Prop where
  month : 1 ≤ t.month ∧ t.month ≤ 12
  day : t.day < 100
  hour : t.hour < 100
  minute : t.minute < 100

theorem dayOf_inRange (days : Nat) :
    1 ≤ (dayOf days).2.1 ∧ (dayOf days).2.1 ≤ 12 ∧ (dayOf days).2.2 < 100 := by
  unfold dayOf
  dsimp only
  generalize hera : (days + 719468) % 146097 = dayOfEra
  generalize hyears : (dayOfEra - dayOfEra / 1460 + dayOfEra / 36524 - dayOfEra / 146096) / 365 = yearOfEra
  generalize hday : dayOfEra - (365 * yearOfEra + yearOfEra / 4 - yearOfEra / 100) = dayOfYear
  -- a year that begins in March has at most 366 days, so no day of it is in a thirteenth month
  have hyear : dayOfYear ≤ 366 := by omega
  generalize hmonth : (5 * dayOfYear + 2) / 153 = monthFromMarch
  have hlast : monthFromMarch ≤ 11 := by omega
  have hdayOfMonth : dayOfYear - (153 * monthFromMarch + 2) / 5 + 1 < 100 := by omega
  refine ⟨?_, ?_, hdayOfMonth⟩ <;> split <;> omega

theorem inRange_ofSeconds (seconds : Nat) : (ofSeconds seconds).InRange := by
  obtain ⟨hfirst, hlast, hday⟩ := dayOf_inRange (seconds / 86400)
  refine ⟨⟨hfirst, hlast⟩, hday, ?_, ?_⟩
  · show seconds % 86400 / 3600 < 100
    omega
  · show seconds % 86400 / 60 % 60 < 100
    omega

/-- Whether all characters are of one byte and none of them is a control character below the space. -/
def isPlain (s : List Char) : Bool :=
  s.all fun c => 32 ≤ c.toNat && c.toNat < 128

theorem range_of_isPlain {s : List Char} (h : isPlain s = true) {c : Char} (hc : c ∈ s) :
    32 ≤ c.toNat ∧ c.toNat < 128 := by
  have := List.all_eq_true.1 h c hc
  rwa [Bool.and_eq_true, decide_eq_true_eq, decide_eq_true_eq] at this

theorem monthName_inRange {month : Nat} (h : 1 ≤ month ∧ month ≤ 12) :
    (monthName month).length = 3 ∧ isPlain (monthName month) = true := by
  have hall : ∀ i < 12, (monthName (i + 1)).length = 3 ∧ isPlain (monthName (i + 1)) = true := by decide
  have := hall (month - 1) (by omega)
  rwa [Nat.sub_add_cancel h.1] at this

/-- **The time of a long line takes twelve characters.** -/
theorem InRange.length_listingChars {t : DateTime} (h : t.InRange) : t.listingChars.length = 12 := by
  have hname : (monthName t.month).length = 3 := (monthName_inRange h.month).1
  simp [listingChars, hname, length_padded_two, h.day, h.hour, h.minute]

/-- None of them takes more than one byte, and none is a line feed. -/
theorem InRange.ascii_of_mem_listingChars {t : DateTime} (h : t.InRange) {c : Char} (hc : c ∈ t.listingChars) :
    32 ≤ c.toNat ∧ c.toNat < 128 := by
  -- both fields of two characters are alike but for what they are filled with
  have hdigits {fill : Char} (hfill : 32 ≤ fill.toNat ∧ fill.toNat < 128) {n : Nat} (hc : c ∈ padded fill 2 n) :
      32 ≤ c.toNat ∧ c.toNat < 128 := by
    rcases mem_padded hc with rfl | hdigit
    · exact hfill
    · simp only [Char.isDigit, Bool.and_eq_true, decide_eq_true_eq, ge_iff_le, UInt32.le_iff_toNat_le] at hdigit
      exact ⟨Nat.le_trans (by decide) hdigit.1, Nat.lt_of_le_of_lt hdigit.2 (by decide)⟩
  simp only [listingChars, List.mem_append, List.mem_cons] at hc
  rcases hc with ((hc | rfl | hc) | rfl | hc) | rfl | hc
  · exact range_of_isPlain (monthName_inRange h.month).2 hc
  · decide
  · exact hdigits (by decide) hc
  · decide
  · exact hdigits (by decide) hc
  · decide
  · exact hdigits (by decide) hc

end FtpIntake.DateTime
