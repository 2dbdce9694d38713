import ArithScan.Proofs.LineBounds

set_option autoImplicit false

namespace ArithScan

def Location.Before (a b : Location) : Prop :=
  a.number < b.number ∨ a.number = b.number ∧ a.column < b.column

-- Lines are numbered from one on and columns from zero on.
structure Location.CellOf (lines : List Text) (location : Location) : Prop where
  numbered : 1 ≤ location.number
  listed : lines[location.number - 1]? = some location.line
  inside : location.column < location.line.length

def lineOffset (lines : List Text) (passed : Nat) : Nat := Text.byteLength (lines.take passed).flatten

def Location.offset (lines : List Text) (location : Location) : Nat :=
  lineOffset lines (location.number - 1) + Text.byteLength (location.line.take location.column)

theorem take_byte_length_mono (text : Text) (a b : Nat) (inside : a < text.length) (less : a < b) :
    Text.byteLength (text.take a) < Text.byteLength (text.take b) := by
  have shorter := take_byte_length_lt (text.take b) a (by rw [List.length_take]; omega)
  rwa [List.take_take, Nat.min_eq_left (Nat.le_of_lt less)] at shorter

theorem line_offset_succ (lines : List Text) (passed : Nat) (line : Text) (listed : lines[passed]? = some line) :
    lineOffset lines (passed + 1) = lineOffset lines passed + line.byteLength := by
  rw [lineOffset, lineOffset, List.take_add_one, listed, List.flatten_append, Text.byte_length_append]
  simp

theorem line_offset_mono (lines : List Text) (a b : Nat) (most : a ≤ b) : lineOffset lines a ≤ lineOffset lines b := by
  obtain ⟨more, same⟩ := Nat.exists_eq_add_of_le most
  rw [lineOffset, lineOffset, same, List.take_add, List.flatten_append, Text.byte_length_append]
  exact Nat.le_add_right _ _

theorem offset_inside (lines : List Text) (location : Location) (cell : location.CellOf lines) :
    location.offset lines < lineOffset lines location.number := by
  have numbered := cell.numbered
  have ends := line_offset_succ lines (location.number - 1) location.line cell.listed
  have short := take_byte_length_lt location.line location.column cell.inside
  rw [Nat.sub_add_cancel numbered] at ends
  rw [Location.offset, ends]
  omega

theorem offset_before (lines : List Text) (a b : Location) (left : a.CellOf lines) (right : b.CellOf lines)
    (before : a.Before b) : a.offset lines < b.offset lines := by
  cases before with
  | inl above =>
      have passed := line_offset_mono lines a.number (b.number - 1) (by omega)
      have inside := offset_inside lines a left
      rw [Location.offset.eq_def lines b]
      omega
  | inr ahead =>
      obtain ⟨same, less⟩ := ahead
      have line : a.line = b.line := by
        have listed := left.listed
        rw [same, right.listed] at listed
        exact (Option.some.inj listed).symm
      rw [Location.offset, Location.offset, same, ← line]
      exact Nat.add_lt_add_left (take_byte_length_mono a.line a.column b.column left.inside less) _

theorem cell_unique (lines : List Text) (a b : Location) (left : a.CellOf lines) (right : b.CellOf lines)
    (number : a.number = b.number) (column : a.column = b.column) : a = b := by
  have listed := left.listed
  rw [number, right.listed] at listed
  obtain ⟨n, line, k⟩ := a
  obtain ⟨n', line', k'⟩ := b
  cases number
  cases column
  cases listed
  rfl

theorem cells_split (lines : List Text) (location : Location) :
    location.CellOf lines ↔
      ∃ earlier later, lines = earlier ++ location.line :: later ∧ location.number = earlier.length + 1 ∧
        location.column < location.line.length := by
  apply Iff.intro
  · intro cell
    obtain ⟨numbered, listed, inside⟩ := cell
    obtain ⟨short, same⟩ := List.getElem?_eq_some_iff.mp listed
    refine ⟨lines.take (location.number - 1), lines.drop (location.number - 1 + 1), ?_, ?_, inside⟩
    · rw [← same, List.getElem_cons_drop, List.take_append_drop]
    · rw [List.length_take]
      omega
  · intro split
    obtain ⟨earlier, later, cut, numbered, inside⟩ := split
    refine ⟨by omega, ?_, inside⟩
    rw [cut, numbered, Nat.add_sub_cancel, List.getElem?_append_right (Nat.le_refl _), Nat.sub_self,
      List.getElem?_cons_zero]

theorem located_cell (text : Text) (lines : List Text) (cut : LinesOf text lines) (position : Nat)
    (location : Location) :
    text.locationAt? position = some location ↔ location.CellOf lines ∧ position = location.offset lines := by
  rw [location_iff, cells_split, ← lines_unique text lines cut]
  have start : ∀ earlier later, lines = earlier ++ location.line :: later →
      location.number = earlier.length + 1 → lineOffset lines (location.number - 1) = Text.byteLength earlier.flatten := by
    intro earlier later whole numbered
    rw [lineOffset, numbered, Nat.add_sub_cancel, whole, List.take_left]
  apply Iff.intro
  · intro found
    obtain ⟨earlier, later, whole, numbered, inside, place⟩ := found
    refine ⟨⟨earlier, later, whole, numbered, inside⟩, ?_⟩
    rw [Location.offset, start earlier later whole numbered, place]
  · intro found
    obtain ⟨⟨earlier, later, whole, numbered, inside⟩, place⟩ := found
    refine ⟨earlier, later, whole, numbered, inside, ?_⟩
    rw [place, Location.offset, start earlier later whole numbered]

theorem located_order (text : Text) (lines : List Text) (cut : LinesOf text lines) (position other : Nat)
    (a b : Location) (left : text.locationAt? position = some a) (right : text.locationAt? other = some b) :
    (position < other ↔ a.Before b) ∧ (position = other ↔ a.number = b.number ∧ a.column = b.column) := by
  obtain ⟨cell, place⟩ := (located_cell text lines cut position a).mp left
  obtain ⟨cell', place'⟩ := (located_cell text lines cut other b).mp right
  have ahead := offset_before lines a b cell cell'
  have behind := offset_before lines b a cell' cell
  have equal : a.number = b.number ∧ a.column = b.column → position = other := by
    intro same
    rw [place, place', cell_unique lines a b cell cell' same.1 same.2]
  -- One of the two comes first or they are the same, so the three implications can be
  -- turned round.
  rw [← place, ← place'] at ahead behind
  unfold Location.Before at ahead behind ⊢
  omega

theorem locations_in_order (text : Text) (lines : List Text) (cut : LinesOf text lines) :
    (∀ position, (∃ location, text.locationAt? position = some location) ↔
        position < text.byteLength ∧ ∃ before, text.slice? 0 position = some before) ∧
      (∀ position location, text.locationAt? position = some location → location.CellOf lines) ∧
        (∀ location, location.CellOf lines → ∃ position, text.locationAt? position = some location) ∧
          ∀ position other a b, text.locationAt? position = some a → text.locationAt? other = some b →
            (position < other ↔ a.Before b) ∧
              (position = other ↔ a.number = b.number ∧ a.column = b.column) := by
  refine ⟨located_iff text, ?_, ?_, located_order text lines cut⟩
  · intro position location located
    exact ((located_cell text lines cut position location).mp located).1
  · intro location cell
    exact ⟨location.offset lines, (located_cell text lines cut _ location).mpr ⟨cell, rfl⟩⟩

theorem locations_in_order_lines :
    LinesOf "é\n\nx".toList ["é\n".toList, "\n".toList, "x".toList] ∧
      Text.locationAt? "é\n\nx".toList 2 = some ⟨1, "é\n".toList, 1⟩ ∧
        Text.locationAt? "é\n\nx".toList 3 = some ⟨2, "\n".toList, 0⟩ ∧
          Location.Before ⟨1, "é\n".toList, 1⟩ ⟨2, "\n".toList, 0⟩ ∧
            ∃ position, Text.locationAt? "é\n\nx".toList position = some ⟨3, "x".toList, 0⟩ := by
  have cut : LinesOf "é\n\nx".toList ["é\n".toList, "\n".toList, "x".toList] := (lines_of_iff _ _).mpr rfl
  have feed : Text.locationAt? "é\n\nx".toList 2 = some ⟨1, "é\n".toList, 1⟩ := rfl
  have empty : Text.locationAt? "é\n\nx".toList 3 = some ⟨2, "\n".toList, 0⟩ := rfl
  obtain ⟨_, _, onto, ordered⟩ := locations_in_order _ _ cut
  exact ⟨cut, feed, empty, (ordered 2 3 _ _ feed empty).1.mp (by decide), onto _ ⟨by decide, rfl, by decide⟩⟩

end ArithScan
