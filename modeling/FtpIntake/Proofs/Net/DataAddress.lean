import FtpIntake.Net.DataAddress
import FtpIntake.Proofs.Text.Numeral
import FtpIntake.Proofs.Text.Pieces

/-!
# Six numbers for an endpoint

An IPv4 endpoint is written as six numbers with commas between them: the four octets of the address, and the upper and
the lower byte of the port. What is written like that is read back as the same endpoint, so whoever follows the rule
comes to where the server listens.

**`DataAddress.readPort_portChars`** is the round trip of an endpoint.
-/

namespace FtpIntake

namespace DataAddress

open Text

/-- The six numbers of an endpoint. -/
def numbers (ip : Ipv4) (port : UInt16) : List Nat :=
  [ip.a.toNat, ip.b.toNat, ip.c.toNat, ip.d.toNat, port.toNat / 256, port.toNat % 256]

theorem le_of_mem_numbers {ip : Ipv4} {port : UInt16} {n : Nat} (h : n ∈ numbers ip port) : n ≤ 255 := by
  have ha := ip.a.toNat_lt
  have hb := ip.b.toNat_lt
  have hc := ip.c.toNat_lt
  have hd := ip.d.toNat_lt
  have hport := port.toNat_lt
  simp only [numbers, List.mem_cons, List.not_mem_nil, or_false] at h
  omega

/-- Only digits and commas are written. -/
theorem mem_portChars {ip : Ipv4} {port : UInt16} {c : Char} (h : c ∈ portChars ip port) : c.isDigit = true ∨ c = ',' := by
  simp only [portChars, List.intercalate_cons_cons, List.intercalate_singleton, List.mem_append, List.mem_singleton] at h
  have hnumeral (n : Nat) (hc : c ∈ numeral n) : c.isDigit = true := isDigit_of_mem_numeral hc
  grind

/-- **The six numbers of an endpoint are read back as that endpoint.** -/
theorem readPort_portChars (ip : Ipv4) (port : UInt16) : readPort (portChars ip port) = some ⟨.v4 ip, port⟩ := by
  -- digits and commas are no white space, and commas are no digits
  have htrim : trim (portChars ip port) = portChars ip port := by
    refine trim_of_forall fun c hc => ?_
    rcases mem_portChars hc with hdigit | rfl
    · exact isBlank_eq_false_of_isDigit hdigit
    · decide
  have hsplit : splitAt ',' (portChars ip port) = (numbers ip port).map numeral := by
    refine splitAt_intercalate fun piece hpiece => ?_
    obtain ⟨n, -, rfl⟩ := List.mem_map.1 (show piece ∈ (numbers ip port).map numeral from hpiece)
    exact comma_notMem_numeral n
  -- the two bytes of the port make the port again
  have hport : portOfBytes (port.toNat / 256) (port.toNat % 256) = port := by
    rw [portOfBytes, Nat.div_add_mod, UInt16.ofNat_toNat]
  unfold readPort
  rw [htrim, hsplit, mapM_readUnsigned_numeral fun n => le_of_mem_numbers]
  simp only [numbers, UInt8.ofNat_toNat, hport]

end DataAddress

end FtpIntake
