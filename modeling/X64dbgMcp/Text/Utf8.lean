import Mathlib.Data.List.Basic

/-!
# Texts as bytes

Both sides of the pipe measure a text by its UTF-8 bytes.  The sidecar inspects
characters where the plugin inspects bytes, so the lemmas here say what a
condition on the characters means for the bytes.
-/

namespace X64dbgMcp.Text

/-- The UTF-8 bytes of a text. -/
def utf8 (text : String) : List UInt8 :=
  text.toList.flatMap String.utf8EncodeChar

theorem utf8_injective : Function.Injective utf8 := by
  intro left right same
  have encoded : left.toList.utf8Encode = right.toList.utf8Encode := by
    simp only [List.utf8Encode]
    rw [show left.toList.flatMap String.utf8EncodeChar =
      right.toList.flatMap String.utf8EncodeChar from same]
  rw [String.utf8Encode_toList, String.utf8Encode_toList] at encoded
  exact String.toByteArray_inj.mp encoded

theorem utf8_append (left right : String) : utf8 (left ++ right) = utf8 left ++ utf8 right := by
  simp [utf8]

/-- `char::is_control`. -/
def isControl (character : Char) : Bool :=
  character.toNat ≤ 0x1f || (0x7f ≤ character.toNat && character.toNat ≤ 0x9f)

/-- An ASCII byte is a character of its own. -/
theorem toNat_of_mem_utf8EncodeChar {character : Char} {byte : UInt8}
    (member : byte ∈ String.utf8EncodeChar character) (ascii : byte < 0x80) :
    character.toNat = byte.toNat := by
  have small : byte.toNat < 128 := ascii
  have range : character.toNat < 1114112 := by
    have valid := character.valid
    rcases valid with below | ⟨_, below⟩
    · exact Nat.lt_of_lt_of_le below (by decide)
    · exact below
  unfold String.utf8EncodeChar at member
  dsimp only at member
  split_ifs at member with one two three
  · simp only [List.mem_cons, List.not_mem_nil, or_false] at member
    have value := congrArg UInt8.toNat member
    rw [UInt8.toNat_ofNat'] at value
    simp only [Char.toNat]
    omega
  all_goals
    exfalso
    simp only [List.mem_cons, List.not_mem_nil, or_false] at member
    rcases member with rfl | rfl | rfl | rfl <;>
      rw [UInt8.toNat_ofNat'] at small <;> omega

/-- The largest first byte of a character is 0xf4. -/
theorem toNat_lt_of_mem_utf8EncodeChar {character : Char} {byte : UInt8}
    (member : byte ∈ String.utf8EncodeChar character) : byte.toNat < 0xf8 := by
  unfold String.utf8EncodeChar at member
  dsimp only at member
  split_ifs at member with one two three <;>
    simp only [List.mem_cons, List.not_mem_nil, or_false] at member
  · rw [member, UInt8.toNat_ofNat']
    omega
  · rcases member with rfl | rfl <;> rw [UInt8.toNat_ofNat'] <;> omega
  · rcases member with rfl | rfl | rfl <;> rw [UInt8.toNat_ofNat'] <;> omega
  · rcases member with rfl | rfl | rfl | rfl <;> rw [UInt8.toNat_ofNat'] <;> omega

end X64dbgMcp.Text
