import ArithScan.Text.Offset

set_option autoImplicit false

namespace ArithScan.Text

def toBytes (text : Text) : List UInt8 :=
  text.flatMap String.utf8EncodeChar

def ofBytes? (bytes : List UInt8) : Option Text :=
  bytes.toByteArray.utf8Decode?.map Array.toList

@[simp] theorem of_bytes_to_bytes (text : Text) : ofBytes? text.toBytes = some text := by
  show (List.utf8Encode text).utf8Decode?.map Array.toList = some text
  simp

theorem of_bytes_iff (bytes : List UInt8) (text : Text) : ofBytes? bytes = some text ↔ bytes = text.toBytes := by
  constructor
  · intro read
    obtain ⟨chars, decoded, rfl⟩ := Option.map_eq_some_iff.mp read
    obtain ⟨encoded, same⟩ := ByteArray.isSome_utf8Decode?_iff.mp (Option.isSome_of_eq_some decoded)
    rw [same, List.utf8Decode?_utf8Encode] at decoded
    cases decoded
    have data := congrArg (fun bytes => bytes.data.toList) same
    simpa [List.utf8Encode, toBytes] using data
  · rintro rfl
    exact of_bytes_to_bytes text

@[simp] theorem to_bytes_length (text : Text) : text.toBytes.length = text.byteLength := by
  induction text with
  | nil => rfl
  | cons c rest ih =>
      rw [byte_length_cons, ← ih]
      simp [toBytes]

@[simp] theorem to_bytes_cons (c : Char) (rest : Text) : toBytes (c :: rest) = String.utf8EncodeChar c ++ toBytes rest :=
  List.flatMap_cons

@[simp] theorem to_bytes_append (left right : Text) : toBytes (left ++ right) = toBytes left ++ toBytes right :=
  List.flatMap_append

theorem ascii_bytes (c : Char) (ascii : c.toNat < 128) : String.utf8EncodeChar c = [UInt8.ofNat c.toNat] :=
  if_pos (Nat.le_of_lt_succ ascii)

theorem wide_bytes (c : Char) (wide : 128 ≤ c.toNat) : ∀ byte ∈ String.utf8EncodeChar c, 128 ≤ byte.toNat := by
  have high : ∀ n, 128 ≤ n → n < 256 → 128 ≤ (UInt8.ofNat n).toNat := by
    intro n above small
    rwa [UInt8.toNat_ofNat_of_lt' small]
  have code : c.val.toNat = c.toNat := rfl
  simp only [String.utf8EncodeChar, code, if_neg (Nat.not_le_of_lt wide)]
  split
  · simp only [List.forall_mem_cons]
    exact ⟨high _ (by omega) (by omega), high _ (by omega) (by omega), List.forall_mem_nil _⟩
  · split
    · simp only [List.forall_mem_cons]
      exact ⟨high _ (by omega) (by omega), high _ (by omega) (by omega), high _ (by omega) (by omega),
        List.forall_mem_nil _⟩
    · simp only [List.forall_mem_cons]
      exact ⟨high _ (by omega) (by omega), high _ (by omega) (by omega), high _ (by omega) (by omega),
        high _ (by omega) (by omega), List.forall_mem_nil _⟩

theorem ascii_byte_iff (c : Char) (byte : UInt8) (ascii : byte.toNat < 128) :
    byte ∈ String.utf8EncodeChar c ↔ c.toNat = byte.toNat := by
  by_cases wide : 128 ≤ c.toNat
  · constructor
    · intro member
      have high := wide_bytes c wide byte member
      omega
    · intro same
      omega
  · have small : c.toNat < 256 := by omega
    rw [ascii_bytes c (Nat.lt_of_not_le wide), List.mem_singleton, ← UInt8.toNat_inj, UInt8.toNat_ofNat_of_lt' small,
      eq_comm]

end ArithScan.Text
