import SwitchAgent.Text.Utf8

/-!
# Texts and their bytes

A text is decoded from its bytes, and the bytes below 128 are its characters below 128.
-/

namespace SwitchAgent.Text.Utf8

theorem toByteArray_encode (s : String) : (encode s).toByteArray = s.toByteArray :=
  String.utf8Encode_toList

theorem decode_encode (s : String) : decode (encode s) = some s := by
  rw [decode, toByteArray_encode, String.fromUTF8?, dif_pos s.isValidUTF8]
  rfl

/-- Only the first 128 characters have a byte below 128. -/
theorem eq_of_mem_utf8EncodeChar {c : Char} {b : UInt8} (among : b ∈ String.utf8EncodeChar c)
    (low : b.toNat < 128) : b.toNat = c.toNat := by
  rw [String.utf8EncodeChar] at among
  split at among
  · next one =>
    rw [List.mem_singleton] at among
    subst among
    have value : c.val.toNat = c.toNat := rfl
    simp only [UInt8.toNat_ofNat']
    omega
  · split at among
    · simp only [List.mem_cons, List.not_mem_nil, or_false] at among
      rcases among with rfl | rfl <;>
        simp only [UInt8.toNat_ofNat'] at low <;> omega
    · split at among
      · simp only [List.mem_cons, List.not_mem_nil, or_false] at among
        rcases among with rfl | rfl | rfl <;>
          simp only [UInt8.toNat_ofNat'] at low <;> omega
      · simp only [List.mem_cons, List.not_mem_nil, or_false] at among
        rcases among with rfl | rfl | rfl | rfl <;>
          simp only [UInt8.toNat_ofNat'] at low <;> omega

/-- A text without controls has no control among its bytes. -/
theorem printed_of_mem_encode {s : String} (printed : ∀ c ∈ s.toList, 0x20 ≤ c.toNat) {b : UInt8}
    (among : b ∈ encode s) : 0x20 ≤ b.toNat := by
  obtain ⟨c, present, among⟩ := List.mem_flatMap.mp among
  by_cases low : b.toNat < 128
  · rw [eq_of_mem_utf8EncodeChar among low]
    exact printed c present
  · omega

end SwitchAgent.Text.Utf8
