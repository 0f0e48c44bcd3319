import FtpIntake.Request

/-!
# Upper and lower case

Raising and lowering a letter move its number by 32 and leave all other characters alone. That is all that is used of
them: a text in upper case stays as it is when it is raised again, and of a text and its lower case the same is raised.
-/

namespace FtpIntake.Text

theorem toNat_toUpper (c : Char) :
    c.toUpper.toNat = if 97 ≤ c.toNat ∧ c.toNat ≤ 122 then c.toNat - 32 else c.toNat := by
  have hrange : ('a'.val ≤ c.val ∧ c.val ≤ 'z'.val) ↔ (97 ≤ c.toNat ∧ c.toNat ≤ 122) := by
    rw [UInt32.le_iff_toNat_le, UInt32.le_iff_toNat_le]
    rfl
  by_cases h : 'a'.val ≤ c.val ∧ c.val ≤ 'z'.val
  · have hval : c.toUpper.val = c.val + ('A'.val - 'a'.val) := by
      -- the library gives no equation for the letter as a number, so the definition is opened here, once
      delta Char.toUpper
      rw [dif_pos h]
    have hge : 97 ≤ c.val.toNat := (hrange.1 h).1
    have hle : c.val.toNat ≤ 122 := (hrange.1 h).2
    rw [if_pos (hrange.1 h)]
    show c.toUpper.val.toNat = c.val.toNat - 32
    -- the difference of the two cases wraps around, and so does the sum
    rw [hval, UInt32.toNat_add, show ('A'.val - 'a'.val).toNat = 4294967264 from rfl]
    omega
  · rw [if_neg fun h' => h (hrange.2 h'), show c.toUpper = c from dif_neg h]

theorem toNat_toLower (c : Char) :
    c.toLower.toNat = if 65 ≤ c.toNat ∧ c.toNat ≤ 90 then c.toNat + 32 else c.toNat := by
  have hrange : ('A'.val ≤ c.val ∧ c.val ≤ 'Z'.val) ↔ (65 ≤ c.toNat ∧ c.toNat ≤ 90) := by
    rw [UInt32.le_iff_toNat_le, UInt32.le_iff_toNat_le]
    rfl
  by_cases h : 'A'.val ≤ c.val ∧ c.val ≤ 'Z'.val
  · have hval : c.toLower.val = c.val + ('a'.val - 'A'.val) := by
      delta Char.toLower
      rw [dif_pos h]
    have hle : c.val.toNat ≤ 90 := (hrange.1 h).2
    rw [if_pos (hrange.1 h)]
    show c.toLower.val.toNat = c.val.toNat + 32
    rw [hval, UInt32.toNat_add, show ('a'.val - 'A'.val).toNat = 32 from rfl]
    omega
  · rw [if_neg fun h' => h (hrange.2 h'), show c.toLower = c from dif_neg h]

theorem toUpper_toUpper (c : Char) : c.toUpper.toUpper = c.toUpper := by
  rw [← Char.toNat_inj]
  simp only [toNat_toUpper]
  grind

theorem toUpper_toLower (c : Char) : c.toLower.toUpper = c.toUpper := by
  rw [← Char.toNat_inj]
  simp only [toNat_toUpper, toNat_toLower]
  grind

theorem toLower_toUpper (c : Char) : c.toUpper.toLower = c.toLower := by
  rw [← Char.toNat_inj]
  simp only [toNat_toUpper, toNat_toLower]
  grind

end FtpIntake.Text
