import ArithScan.Text.Offset

set_option autoImplicit false

namespace ArithScan.Text

-- The text between two byte offsets that are places of the text, in this order.
def slice? (text : Text) (start stop : Nat) : Option Text :=
  match text.charIndex? start, text.charIndex? stop with
  | some first, some last => if first ≤ last then some ((text.take last).drop first) else none
  | _, _ => none

theorem byte_length_pos (text : Text) (nonempty : text ≠ []) : 0 < text.byteLength := by
  apply Nat.pos_of_ne_zero
  intro empty
  exact nonempty (byte_length_zero text empty)

theorem byte_length_single (c : Char) : byteLength [c] = c.utf8Size := by
  simp

theorem narrow_byte_length (text : Text) (narrow : ∀ c ∈ text, c.utf8Size = 1) : text.byteLength = text.length := by
  induction text with
  | nil => rfl
  | cons c rest ih =>
      obtain ⟨here, later⟩ := List.forall_mem_cons.mp narrow
      simp [here, ih later, Nat.add_comm]

@[simp] theorem char_at_split (before after : Text) : charAt? (before ++ after) before.byteLength = after.head? := by
  rw [charAt?, drop_bytes_split]

theorem slice_iff (text part : Text) (start stop : Nat) :
    text.slice? start stop = some part ↔
      ∃ before after, text = before ++ part ++ after ∧ before.byteLength = start ∧ start + part.byteLength = stop := by
  constructor
  · intro found
    rw [slice?] at found
    split at found
    · rename_i first last startPlace stopPlace
      split at found
      · rename_i ordered
        cases found
        obtain ⟨_, startBytes⟩ := (char_index_iff text start first).mp startPlace
        obtain ⟨_, stopBytes⟩ := (char_index_iff text stop last).mp stopPlace
        have joined : text.take first ++ (text.take last).drop first = text.take last := by
          have shorter : text.take first = (text.take last).take first := by rw [List.take_take, Nat.min_eq_left ordered]
          rw [shorter, List.take_append_drop]
        refine ⟨text.take first, text.drop last, ?_, startBytes, ?_⟩
        · rw [joined, List.take_append_drop]
        · rw [← startBytes, ← byte_length_append, joined, stopBytes]
      · cases found
    · cases found
  · intro cut
    obtain ⟨before, after, rfl, rfl, rfl⟩ := cut
    have startPlace := char_index_split before (part ++ after)
    have stopPlace := char_index_split (before ++ part) after
    rw [byte_length_append] at stopPlace
    rw [← List.append_assoc] at startPlace
    rw [slice?, startPlace, stopPlace]
    dsimp only
    rw [if_pos (by simp), List.take_left, List.drop_left]

theorem slice_reads (text part : Text) (start stop : Nat) (shown : text.slice? start stop = some part) :
    ∃ after, text.dropBytes start = part ++ after ∧ text.charAt? stop = after.head? ∧ start + part.byteLength = stop := by
  obtain ⟨before, after, rfl, rfl, rfl⟩ := (slice_iff text part start stop).mp shown
  refine ⟨after, ?_, ?_, rfl⟩
  · rw [List.append_assoc, drop_bytes_split]
  · rw [← byte_length_append, char_at_split]

end ArithScan.Text
