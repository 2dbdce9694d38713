set_option autoImplicit false

namespace ArithScan

-- A place in a text is a byte offset into its UTF-8 form. An offset past the end, or one
-- inside a character, is no place: nothing stands there.
abbrev Text := List Char

namespace Text

def byteLength (text : Text) : Nat :=
  text.foldl (fun total c => total + c.utf8Size) 0

def charIndexFrom? : Text → Nat → Nat → Option Nat
  | _, 0, index => some index
  | [], _ + 1, _ => none
  | c :: rest, left + 1, index =>
      if c.utf8Size ≤ left + 1 then charIndexFrom? rest (left + 1 - c.utf8Size) (index + 1) else none

def charIndex? (text : Text) (offset : Nat) : Option Nat :=
  charIndexFrom? text offset 0

def dropBytes (text : Text) (offset : Nat) : Text :=
  match text.charIndex? offset with
  | some index => text.drop index
  | none => []

def charAt? (text : Text) (offset : Nat) : Option Char :=
  (text.dropBytes offset).head?

theorem byte_length_fold (text : Text) (total : Nat) :
    text.foldl (fun total c => total + c.utf8Size) total = total + text.byteLength := by
  unfold byteLength
  induction text generalizing total with
  | nil => rfl
  | cons c rest ih =>
      simp only [List.foldl_cons]
      rw [ih (total + c.utf8Size), ih (0 + c.utf8Size)]
      omega

@[simp] theorem byte_length_nil : byteLength [] = 0 := rfl

@[simp] theorem byte_length_cons (c : Char) (rest : Text) :
    byteLength (c :: rest) = c.utf8Size + byteLength rest := by
  unfold byteLength
  rw [List.foldl_cons, byte_length_fold, Nat.zero_add]
  rfl

@[simp] theorem byte_length_append (left right : Text) :
    byteLength (left ++ right) = byteLength left + byteLength right := by
  induction left with
  | nil => simp
  | cons c rest ih => rw [List.cons_append, byte_length_cons, byte_length_cons, ih, Nat.add_assoc]

theorem byte_length_zero (text : Text) (empty : byteLength text = 0) : text = [] := by
  cases text with
  | nil => rfl
  | cons c rest =>
      have positive := c.utf8Size_pos
      rw [byte_length_cons] at empty
      omega

theorem char_index_from (text : Text) (offset index found : Nat) :
    charIndexFrom? text offset index = some found ↔
      ∃ count, found = index + count ∧ count ≤ text.length ∧ byteLength (text.take count) = offset := by
  induction text generalizing offset index with
  | nil =>
      cases offset with
      | zero => simp [charIndexFrom?, eq_comm]
      | succ left => simp [charIndexFrom?]
  | cons c rest ih =>
      have positive := c.utf8Size_pos
      cases offset with
      | zero =>
          simp only [charIndexFrom?, Option.some.injEq]
          constructor
          · rintro rfl
            exact ⟨0, rfl, Nat.zero_le _, rfl⟩
          · rintro ⟨count, rfl, _, filled⟩
            cases count with
            | zero => rfl
            | succ n =>
                rw [List.take_succ_cons, byte_length_cons] at filled
                omega
      | succ left =>
          rw [charIndexFrom?]
          split
          · rename_i fits
            rw [ih]
            constructor
            · rintro ⟨count, rfl, bounded, filled⟩
              refine ⟨count + 1, by omega, by simpa using bounded, ?_⟩
              rw [List.take_succ_cons, byte_length_cons, filled]
              omega
            · rintro ⟨count, rfl, bounded, filled⟩
              cases count with
              | zero => simp at filled
              | succ n =>
                  rw [List.take_succ_cons, byte_length_cons] at filled
                  exact ⟨n, by omega, by simpa using bounded, by omega⟩
          · rename_i tooWide
            constructor
            · intro absent
              cases absent
            · rintro ⟨count, rfl, _, filled⟩
              cases count with
              | zero => simp at filled
              | succ n =>
                  rw [List.take_succ_cons, byte_length_cons] at filled
                  omega

theorem char_index_iff (text : Text) (offset index : Nat) :
    text.charIndex? offset = some index ↔
      index ≤ text.length ∧ byteLength (text.take index) = offset := by
  simp [charIndex?, char_index_from]

@[simp] theorem char_index_split (left right : Text) :
    charIndex? (left ++ right) (byteLength left) = some left.length := by
  simp [char_index_iff]

@[simp] theorem drop_bytes_split (left right : Text) :
    dropBytes (left ++ right) (byteLength left) = right := by
  simp [dropBytes]

end Text

end ArithScan
