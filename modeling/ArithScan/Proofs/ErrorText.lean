import ArithScan.LexError
import ArithScan.Proofs.Readback

set_option autoImplicit false

namespace ArithScan

namespace Text

def digitValue (c : Char) : Nat :=
  if c.isDigit then c.toNat - '0'.toNat else c.toNat - 'a'.toNat + 10

def numeralValue (base : Nat) (numeral : Text) : Nat :=
  numeral.foldl (fun value c => base * value + digitValue c) 0

theorem digit_value (n : Nat) (small : n < 16) : digitValue n.digitChar = n := by
  revert n
  decide

theorem numeral_value (base n : Nat) (lower : 1 < base) (upper : base ≤ 16) :
    numeralValue base (Nat.toDigits base n) = n := by
  induction n using Nat.strongRecOn with
  | ind n ih =>
      by_cases small : n < base
      · rw [Nat.toDigits_of_lt_base small, numeralValue, List.foldl_cons, List.foldl_nil, Nat.mul_zero, Nat.zero_add]
        exact digit_value n (by omega)
      · have leading := ih (n / base) (Nat.div_lt_self (by omega) lower)
        have last := digit_value (n % base) (by have := Nat.mod_lt n (show 0 < base by omega); omega)
        rw [Nat.toDigits_of_base_le lower (Nat.le_of_not_lt small), numeralValue, List.foldl_append, List.foldl_cons,
          List.foldl_nil, last]
        rw [numeralValue] at leading
        rw [leading, Nat.div_add_mod]

theorem numeral_unique (base a b : Nat) (lower : 1 < base) (upper : base ≤ 16)
    (same : Nat.toDigits base a = Nat.toDigits base b) : a = b := by
  rw [← numeral_value base a lower upper, same, numeral_value base b lower upper]

end Text

def letterEscapes : List (Char × Char) :=
  [('\x00', '0'), ('\t', 't'), ('\r', 'r'), ('\n', 'n'), ('\'', '\''), ('\\', '\\')]

def escaped (c : Char) : Text := (escape? c).getD [c]

theorem letter_unique (a b letter : Char) (left : (a, letter) ∈ letterEscapes) (right : (b, letter) ∈ letterEscapes) :
    a = b := by
  have table : ∀ entry ∈ letterEscapes, ∀ other ∈ letterEscapes, entry.2 = other.2 → entry.1 = other.1 := by decide
  exact table _ left _ right rfl

theorem letter_escaped : ∀ entry ∈ letterEscapes, escaped entry.1 = ['\\', entry.2] := by
  decide

theorem escaped_cases (c : Char) :
    escaped c = [c] ∨ (∃ letter, (c, letter) ∈ letterEscapes ∧ escaped c = ['\\', letter]) ∨ escaped c = hexEscape c := by
  by_cases listed : ∃ letter, (c, letter) ∈ letterEscapes
  · obtain ⟨letter, member⟩ := listed
    exact .inr (.inl ⟨letter, member, letter_escaped _ member⟩)
  · have other : escape? c = if isHexEscaped c then some (hexEscape c) else none := by
      simp only [letterEscapes, List.mem_cons, Prod.mk.injEq, List.not_mem_nil, or_false, exists_or, exists_and_left,
        exists_eq, and_true, not_or] at listed
      simp only [escape?, listed, if_false]
    rw [escaped, other]
    split
    · exact .inr (.inr rfl)
    · exact .inl rfl

theorem hex_escape_long (c : Char) : 4 ≤ (hexEscape c).length := by
  simp [hexEscape]

theorem hex_escape_unique (a b : Char) (same : hexEscape a = hexEscape b) : a = b := by
  have digits : Text.hexadecimal a.toNat = Text.hexadecimal b.toNat :=
    List.append_cancel_left (List.append_cancel_right same)
  exact Char.toNat_inj.mp (Text.numeral_unique 16 _ _ (by decide) (by decide) digits)

-- One character, two, or at least four: the length tells how a character is quoted,
-- so that no raw character passes for an escape.
theorem escaped_single (a c : Char) (same : escaped a = [c]) : a = c := by
  rcases escaped_cases a with plain | ⟨letter, _, short⟩ | long
  · exact List.singleton_inj.mp (plain.symm.trans same)
  · cases short.symm.trans same
  · have wide := hex_escape_long a
    rw [← long, same] at wide
    simp at wide

theorem escaped_letter (a letter : Char) (same : escaped a = ['\\', letter]) : (a, letter) ∈ letterEscapes := by
  rcases escaped_cases a with plain | ⟨other, listed, short⟩ | long
  · cases plain.symm.trans same
  · obtain rfl : other = letter := by simpa using short.symm.trans same
    exact listed
  · have wide := hex_escape_long a
    rw [← long, same] at wide
    simp at wide

theorem escaped_hex (a c : Char) (same : escaped a = hexEscape c) : a = c := by
  have wide := hex_escape_long c
  rcases escaped_cases a with plain | ⟨letter, _, short⟩ | long
  · rw [← same, plain] at wide
    simp at wide
  · rw [← same, short] at wide
    simp at wide
  · exact hex_escape_unique a c (long.symm.trans same)

theorem escaped_unique (a b : Char) (same : escaped a = escaped b) : a = b := by
  rcases escaped_cases b with plain | ⟨letter, listed, short⟩ | long
  · exact escaped_single a b (same.trans plain)
  · exact letter_unique a b letter (escaped_letter a letter (same.trans short)) listed
  · exact escaped_hex a b (same.trans long)

theorem quoted_iff (a b : Char) : quoted a = quoted b ↔ a = b := by
  apply Iff.intro
  · intro same
    exact escaped_unique a b (List.append_cancel_left (List.append_cancel_right same))
  · intro same
    rw [same]

namespace LexError

theorem cause_iff (a b : LexError) : a.cause = b.cause ↔ a.character = b.character :=
  (List.append_right_inj _).trans (quoted_iff a.character b.character)

theorem message_parts (error : LexError) :
    error.message = (error.cause ++ " at offset".toList) ++ ' ' :: Text.decimal error.position := by
  have words : " at offset ".toList = " at offset".toList ++ [' '] := by decide
  rw [message, words]
  simp only [List.append_assoc, List.singleton_append]

-- The offset is read from the end of the text, where it stands behind the last
-- space, since the character ahead of it may be any.
theorem message_tells_error (a b : LexError) :
    (a.message = b.message ↔ a.character = b.character ∧ a.position = b.position) ∧
      (a.cause = b.cause ↔ a.character = b.character) := by
  refine ⟨?_, cause_iff a b⟩
  rw [message_parts, message_parts]
  apply Iff.intro
  · intro same
    obtain ⟨causes, numerals⟩ := parted_unique_last ' ' _ _ _ _ (Text.decimal_without a.position ' ' rfl)
      (Text.decimal_without b.position ' ' rfl) same
    exact ⟨(cause_iff a b).mp (List.append_cancel_right causes),
      Text.numeral_unique 10 _ _ (by decide) (by decide) numerals⟩
  · intro same
    rw [(cause_iff a b).mpr same.1, same.2]

end LexError

end ArithScan
