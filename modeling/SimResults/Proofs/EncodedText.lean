import SimResults.Text.Utf8

/-! Text as bytes. A byte below 0x80 stands for the ASCII character of that code and is no part
of a longer character, so that ASCII delimiters can be found in the bytes of a text. -/

namespace SimResults.Proofs.EncodedText
open Text

def bytesOf (chars : List Char) : Bytes := chars.flatMap String.utf8EncodeChar

theorem bytesOf_append (chars more : List Char) : bytesOf (chars ++ more) = bytesOf chars ++ bytesOf more :=
  List.flatMap_append

theorem bytesOf_cons (char : Char) (chars : List Char) :
    bytesOf (char :: chars) = String.utf8EncodeChar char ++ bytesOf chars := List.flatMap_cons

theorem encode_ofList (chars : List Char) : encode (String.ofList chars) = bytesOf chars := by
  rw [encode, String.toUTF8, String.toByteArray_ofList, List.utf8Encode, List.data_toByteArray]
  rfl

theorem encode_eq (text : String) : encode text = bytesOf text.toList := by
  rw [← encode_ofList, String.ofList_toList]

theorem decode?_encode (text : String) : decode? (encode text) = some text := by
  have whole : (⟨(encode text).toArray⟩ : ByteArray) = text.toByteArray := rfl
  rw [decode?, whole, String.fromUTF8?, dif_pos text.isValidUTF8]
  rfl

def byteOf (char : Char) : UInt8 := UInt8.ofNat char.toNat

theorem utf8EncodeChar_ascii {char : Char} (ascii : char.toNat < 0x80) :
    String.utf8EncodeChar char = [byteOf char] := by
  have small : char.val.toNat ≤ 127 := Nat.le_of_lt_succ ascii
  rw [String.utf8EncodeChar, if_pos small]
  rfl

private theorem utf8EncodeChar_ne_nil (char : Char) : String.utf8EncodeChar char ≠ [] := by
  rw [String.utf8EncodeChar]
  split
  next => exact List.cons_ne_nil _ _
  next =>
    split
    next => exact List.cons_ne_nil _ _
    next => split <;> exact List.cons_ne_nil _ _

theorem bytesOf_eq_nil {chars : List Char} : bytesOf chars = [] ↔ chars = [] := by
  cases chars with
  | nil => exact iff_of_true rfl rfl
  | cons char chars =>
    refine iff_of_false ?_ (List.cons_ne_nil _ _)
    rw [bytesOf_cons]
    exact List.append_ne_nil_of_left_ne_nil (utf8EncodeChar_ne_nil char) _

/-- All bytes of a longer character have their highest bit set. -/
private theorem char_of_ascii {char : Char} {byte : UInt8} (member : byte ∈ String.utf8EncodeChar char)
    (ascii : byte.toNat < 0x80) : char.toNat = byte.toNat := by
  by_cases single : char.toNat < 0x80
  · rw [utf8EncodeChar_ascii single, List.mem_singleton] at member
    rw [member, byteOf, UInt8.toNat_ofNat']
    omega
  · have longer : ¬ char.val.toNat ≤ 127 := fun small => single (Nat.lt_succ_of_le small)
    have high {code : Nat} (low : 0x80 ≤ code) (top : code < 0x100) : byte ≠ UInt8.ofNat code := by
      rintro rfl
      rw [UInt8.toNat_ofNat'] at ascii
      omega
    rw [String.utf8EncodeChar, if_neg longer] at member
    split at member
    next =>
      simp only [List.mem_cons, List.not_mem_nil, or_false] at member
      rcases member with same | same <;> exact absurd same (high (by omega) (by omega))
    next =>
      split at member
      next =>
        simp only [List.mem_cons, List.not_mem_nil, or_false] at member
        rcases member with same | same | same <;> exact absurd same (high (by omega) (by omega))
      next =>
        simp only [List.mem_cons, List.not_mem_nil, or_false] at member
        rcases member with same | same | same | same <;> exact absurd same (high (by omega) (by omega))

/-- An ASCII character is in a text if its byte is in the bytes of the text. -/
theorem mem_of_encoded {chars : List Char} {char : Char} (ascii : char.toNat < 0x80)
    (member : byteOf char ∈ bytesOf chars) : char ∈ chars := by
  obtain ⟨other, present, inside⟩ := List.mem_flatMap.mp member
  have code : (byteOf char).toNat = char.toNat := by
    rw [byteOf, UInt8.toNat_ofNat']
    omega
  have same := char_of_ascii inside (by omega)
  rw [code] at same
  rwa [← Char.toNat_inj.mp same]

/-- A text that starts with the byte of an ASCII character starts with that character. -/
theorem head_of_encoded {chars : List Char} {char : Char} (ascii : char.toNat < 0x80)
    (first : (bytesOf chars).head? = some (byteOf char)) : chars.head? = some char := by
  cases chars with
  | nil => cases first
  | cons other rest =>
    obtain ⟨byte, bytes, encoded⟩ := List.exists_cons_of_ne_nil (utf8EncodeChar_ne_nil other)
    rw [bytesOf_cons, encoded] at first
    cases Option.some.inj first
    have started : byteOf char ∈ String.utf8EncodeChar other := encoded ▸ List.mem_cons_self
    have single : byteOf char ∈ bytesOf [other] := by simpa [bytesOf] using started
    cases List.mem_singleton.mp (mem_of_encoded ascii single)
    rfl

end SimResults.Proofs.EncodedText
