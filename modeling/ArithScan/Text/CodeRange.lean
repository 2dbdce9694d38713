set_option autoImplicit false

namespace ArithScan

-- The search stops at the first range that begins past the code point, which loses
-- nothing as long as the ranges ascend.
abbrev CodeRanges := List (Nat × Nat)

def inRanges : CodeRanges → Nat → Bool
  | [], _ => false
  | (first, last) :: rest, code => first ≤ code && (code ≤ last || inRanges rest code)

def ascending : Nat → CodeRanges → Bool
  | _, [] => true
  | low, (first, last) :: rest => low ≤ first && first ≤ last && ascending (last + 1) rest

theorem ascending_bound (ranges : CodeRanges) (low : Nat) (ordered : ascending low ranges = true)
    (range : Nat × Nat) (member : range ∈ ranges) : low ≤ range.1 := by
  induction ranges generalizing low with
  | nil => cases member
  | cons head rest ih =>
      simp only [ascending, Bool.and_eq_true, decide_eq_true_eq] at ordered
      obtain ⟨⟨lowest, wide⟩, later⟩ := ordered
      cases member with
      | head => exact lowest
      | tail _ found =>
          have above := ih (head.2 + 1) later found
          omega

theorem in_ranges_iff (ranges : CodeRanges) (low code : Nat) (ordered : ascending low ranges = true) :
    inRanges ranges code = true ↔ ∃ range ∈ ranges, range.1 ≤ code ∧ code ≤ range.2 := by
  induction ranges generalizing low with
  | nil => simp [inRanges]
  | cons head rest ih =>
      have ordered' := ordered
      simp only [ascending, Bool.and_eq_true, decide_eq_true_eq] at ordered
      obtain ⟨⟨_, wide⟩, later⟩ := ordered
      simp only [inRanges, Bool.and_eq_true, Bool.or_eq_true, decide_eq_true_eq, ih _ later,
        List.mem_cons, exists_eq_or_imp]
      constructor
      · rintro ⟨above, inside | found⟩
        · exact .inl ⟨above, inside⟩
        · exact .inr found
      · rintro (inside | ⟨range, member, bounds⟩)
        · exact ⟨inside.1, .inl inside.2⟩
        · have above := ascending_bound rest (head.2 + 1) later range member
          exact ⟨by omega, .inr ⟨range, member, bounds⟩⟩

end ArithScan
