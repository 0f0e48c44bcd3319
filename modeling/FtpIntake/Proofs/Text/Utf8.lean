import FtpIntake.Text.Blank

/-!
# Texts as bytes

What goes over a connection is the UTF-8 form of a text. All that is used of it is that a text can be read back, and
that a byte below 128 is a character by itself: line feeds, digits and spaces can be told among the bytes just as among
the characters.

Texts are lists of characters wherever something is proved of them, and strings only where the program has strings.
-/

namespace FtpIntake.Text

/-- The bytes of a text, character by character. -/
def utf8 (s : List Char) : List UInt8 :=
  s.flatMap String.utf8EncodeChar

theorem utf8_append (s t : List Char) : utf8 (s ++ t) = utf8 s ++ utf8 t :=
  List.flatMap_append

theorem utf8_cons (c : Char) (s : List Char) : utf8 (c :: s) = String.utf8EncodeChar c ++ utf8 s :=
  rfl

/-- The bytes of a text that is put together are those of its parts. -/
theorem utf8_flatten (lines : List (List Char)) : utf8 lines.flatten = lines.flatMap utf8 := by
  rw [utf8, ← List.flatMap_id, List.flatMap_assoc]
  rfl

/-! ## Byte arrays as lists

The library encodes texts as byte arrays. Everything here is about lists of bytes, so the two are brought together
once. -/

/-- The loop has the bytes before `i` in its accumulator; the induction is on how many are left. -/
theorem toList_loop (bytes : ByteArray) (left i : Nat) (seen : List UInt8) (hleft : i + left = bytes.size) :
    ByteArray.toList.loop bytes i seen = seen.reverse ++ bytes.data.toList.drop i := by
  -- the induction is on how many bytes are left, as the loop counts upwards
  induction left generalizing i seen with
  | zero =>
    have hend : bytes.data.toList.length ≤ i := by
      rw [Array.length_toList]
      exact Nat.le_of_eq hleft.symm
    rw [ByteArray.toList.loop, if_neg (by omega), List.drop_eq_nil_of_le hend, List.append_nil]
  | succ left ih =>
    have hlt : i < bytes.data.toList.length := by
      rw [Array.length_toList]
      show i < bytes.size
      omega
    have hget : bytes.get! i = bytes.data.toList[i] := by
      rw [Array.getElem_toList]
      exact getElem!_pos bytes.data i _
    rw [ByteArray.toList.loop, if_pos (by omega), ih _ _ (by omega), List.reverse_cons, List.append_assoc, hget,
      List.drop_eq_getElem_cons hlt]
    rfl

/-- A byte array and its list of bytes are the same. -/
theorem toList_byteArray (bytes : ByteArray) : bytes.toList = bytes.data.toList :=
  toList_loop bytes bytes.size 0 [] (Nat.zero_add _)

/-- What the library encodes are these bytes. -/
theorem toList_toUTF8 (s : String) : s.toUTF8.toList = utf8 s.toList := by
  have hbytes : s.toUTF8 = (utf8 s.toList).toByteArray := by
    show s.toByteArray = s.toList.utf8Encode
    rw [← String.toByteArray_ofList, String.ofList_toList]
  rw [hbytes, toList_byteArray, List.toList_data_toByteArray]

/-- A text that has been sent is read as the same text. -/
theorem fromUTF8?_toUTF8 (s : String) : String.fromUTF8? ⟨s.toUTF8.toList.toArray⟩ = some s := by
  rw [toList_byteArray, Array.toArray_toList]
  exact dif_pos s.isValidUTF8

/-- The bytes that are read as a text are those of the text. -/
theorem utf8_of_fromUTF8? {bytes : List UInt8} {s : String} (h : String.fromUTF8? ⟨bytes.toArray⟩ = some s) :
    utf8 s.toList = bytes := by
  unfold String.fromUTF8? at h
  split at h
  · obtain rfl := Option.some.inj h
    rw [← toList_toUTF8, toList_byteArray]
    exact List.toList_toArray
  · cases h

/-! ## Bytes below 128

A character beyond ASCII is encoded without any byte below 128. So the separators of the protocol can be looked for in
the bytes. -/

/-- A byte below 128 stands for one character, and nothing else of that character is sent. -/
theorem utf8EncodeChar_eq_singleton {c : Char} {b : UInt8} (hb : b.toNat < 128) (h : b ∈ String.utf8EncodeChar c) :
    String.utf8EncodeChar c = [b] ∧ c.toNat = b.toNat := by
  -- the bytes of a longer form are numbers of the form 128 + n, so only the shortest form is left
  unfold String.utf8EncodeChar at h ⊢
  dsimp only at h ⊢
  split at h
  · next hshort =>
    rw [if_pos hshort]
    obtain rfl := List.mem_singleton.1 h
    refine ⟨rfl, ?_⟩
    rw [UInt8.toNat_ofNat', Nat.mod_eq_of_lt (by omega)]
    rfl
  · exfalso
    split at h
    · simp only [List.mem_cons, List.not_mem_nil, or_false] at h
      rcases h with rfl | rfl <;> rw [UInt8.toNat_ofNat'] at hb <;> omega
    · split at h
      · simp only [List.mem_cons, List.not_mem_nil, or_false] at h
        rcases h with rfl | rfl | rfl <;> rw [UInt8.toNat_ofNat'] at hb <;> omega
      · simp only [List.mem_cons, List.not_mem_nil, or_false] at h
        rcases h with rfl | rfl | rfl | rfl <;> rw [UInt8.toNat_ofNat'] at hb <;> omega

/-- A character below 128 is one byte, with its own number. -/
theorem utf8EncodeChar_of_lt {c : Char} (h : c.toNat < 128) : String.utf8EncodeChar c = [UInt8.ofNat c.toNat] := by
  unfold String.utf8EncodeChar
  exact if_pos (Nat.le_of_lt_succ h)

/-- So a text of such characters has as many bytes as characters. -/
theorem length_utf8_of_lt {s : List Char} (h : ∀ c ∈ s, c.toNat < 128) : (utf8 s).length = s.length := by
  induction s with
  | nil => rfl
  | cons c s ih =>
    obtain ⟨hc, hs⟩ := List.forall_mem_cons.1 h
    rw [utf8_cons, utf8EncodeChar_of_lt hc, List.singleton_append, List.length_cons, List.length_cons, ih hs]

/-- If the bytes of a text begin with a byte below 128, the text begins with that character. -/
theorem exists_cons_of_utf8_eq_cons {s : List Char} {b : UInt8} {bytes : List UInt8} (h : utf8 s = b :: bytes)
    (hb : b.toNat < 128) : ∃ c t, s = c :: t ∧ c.toNat = b.toNat ∧ utf8 t = bytes := by
  cases s with
  | nil => exact absurd h (by simp [utf8])
  | cons c t =>
    rw [utf8_cons] at h
    -- the first byte belongs to the first character, because no character is without bytes
    have hmem : b ∈ String.utf8EncodeChar c := by
      cases hencoded : String.utf8EncodeChar c with
      | nil =>
        have hlength := String.length_utf8EncodeChar c
        rw [hencoded] at hlength
        exact absurd hlength.symm (Nat.pos_iff_ne_zero.1 c.utf8Size_pos)
      | cons b' bytes' =>
        rw [hencoded, List.cons_append] at h
        rw [(List.cons.inj h).1]
        exact List.mem_cons_self
    obtain ⟨hsingle, hnumber⟩ := utf8EncodeChar_eq_singleton hb hmem
    rw [hsingle] at h
    exact ⟨c, t, rfl, hnumber, (List.cons.inj h).2⟩

/-- A character of one byte that is not in a text leaves its byte out of the bytes of the text. -/
theorem notMem_utf8 {s : List Char} {c : Char} {b : UInt8} (hb : b.toNat < 128) (hc : c.toNat = b.toNat) (h : c ∉ s) :
    b ∉ utf8 s := by
  intro hmem
  obtain ⟨d, hd, hbyte⟩ := List.mem_flatMap.1 hmem
  obtain ⟨-, hnumber⟩ := utf8EncodeChar_eq_singleton hb hbyte
  obtain rfl : d = c := Char.toNat_inj.1 (hnumber.trans hc.symm)
  exact h hd

/-- The bytes of a text have a line feed only where the text has one. -/
theorem feed_notMem_utf8 {s : List Char} (h : '\n' ∉ s) : 10 ∉ utf8 s :=
  notMem_utf8 (by decide) rfl h

/-- And they have it there. -/
theorem feed_mem_utf8 {s : List Char} (h : '\n' ∈ s) : 10 ∈ utf8 s := by
  have hencoded : String.utf8EncodeChar '\n' = [10] := by decide
  refine List.mem_flatMap.2 ⟨'\n', h, ?_⟩
  rw [hencoded]
  exact List.mem_singleton_self 10

end FtpIntake.Text
