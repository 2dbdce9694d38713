import ArithScan.Proofs.Caret
import ArithScan.Proofs.LineBounds

set_option autoImplicit false

namespace ArithScan

-- What can stand around a line: whole lines above it, white space that indents it, and,
-- if the line ends with a line feed, anything below it.
structure Surroundings (line : Text) where
  above : Text
  indent : Text
  below : Text
  opened : above.Fed
  white : ∀ c ∈ indent, isWhiteSpace c = true ∧ c ≠ '\n'
  closed : line.getLast? = some '\n' ∨ below = []

namespace Surroundings

variable {line : Text}

def source (around : Surroundings line) : Text := around.above ++ around.indent ++ line ++ around.below

def start (around : Surroundings line) : Nat := around.above.byteLength + around.indent.byteLength

theorem cut (around : Surroundings line) (filled : line ≠ []) (single : '\n' ∉ line.dropLast) :
    PlaceCut around.above around.indent line around.below :=
  ⟨around.opened, fun member => (around.white '\n' member).2 rfl, filled, single, around.closed⟩

theorem located (around : Surroundings line) (offset : Nat) (single : '\n' ∉ line.dropLast)
    (inside : offset < line.byteLength) :
    around.source.locationAt? (around.start + offset) =
      (line.charIndex? offset).map fun column =>
        ⟨around.above.count '\n' + 1, around.indent ++ line, around.indent.length + column⟩ := by
  have stands := (around.cut (inside_filled line offset inside) single).line_in
  have within : around.indent.byteLength + offset < (around.indent ++ line).byteLength := by
    rw [Text.byte_length_append]
    exact Nat.add_lt_add_left inside _
  rw [source, start, List.append_assoc, Nat.add_assoc, line_located _ _ _ _ _ stands within, char_index_append,
    Option.map_map]
  rfl

theorem excerpt (around : Surroundings line) (number column : Nat) :
    (⟨number, around.indent ++ line, around.indent.length + column⟩ : Location).excerpt =
      (⟨number, line, column⟩ : Location).excerpt := by
  have white : ∀ c ∈ around.indent, isWhiteSpace c = true := fun c member => (around.white c member).1
  simp only [Location.excerpt, List.take_length_add_append, List.drop_length_add_append,
    List.dropWhile_append_of_pos white]

end Surroundings

theorem render_surroundings (line origin : Text) (here there : Surroundings line) (character : Char) (offset : Nat)
    (single : '\n' ∉ line.dropLast) (inside : offset < line.byteLength)
    (level : here.above.count '\n' = there.above.count '\n') :
    LexError.render ⟨character, here.start + offset⟩ here.source origin =
      LexError.render ⟨character, there.start + offset⟩ there.source origin := by
  apply render_shown ⟨character, here.start + offset⟩ ⟨character, there.start + offset⟩ _ _ origin rfl
  rw [here.located offset single inside, there.located offset single inside, Option.map_map, Option.map_map, level]
  congr 1
  funext column
  rw [Function.comp_apply, Function.comp_apply, here.excerpt, there.excerpt]

theorem render_surroundings_indented :
    LexError.render ⟨'\x00', 4⟩ "\né &\n".toList "stdin".toList =
        .ok "Error: UnrecognisedCharacter\n-> stdin\n  |\n2 | é &\n  | --^\n".toList ∧
      LexError.render ⟨'\x00', 9⟩ "7\n\u3000\té &\nx".toList "stdin".toList =
        .ok "Error: UnrecognisedCharacter\n-> stdin\n  |\n2 | é &\n  | --^\n".toList ∧
        LexError.render ⟨'\x00', 7⟩ "7\n\u3000\té &\nx".toList "stdin".toList =
          LexError.render ⟨'\x00', 2⟩ "\né &\n".toList "stdin".toList := by
  have single : '\n' ∉ "é &\n".toList.dropLast := by decide
  have white : ∀ c ∈ "\u3000\t".toList, isWhiteSpace c = true ∧ c ≠ '\n' :=
    List.forall_mem_cons.mpr ⟨by decide, List.forall_mem_singleton.mpr (by decide)⟩
  have same := fun offset inside => render_surroundings "é &\n".toList "stdin".toList
    ⟨"7\n".toList, "\u3000\t".toList, ['x'], .inr rfl, white, .inl rfl⟩
    ⟨['\n'], [], [], .inr rfl, List.forall_mem_nil _, .inr rfl⟩ '\x00' offset single inside rfl
  have drawn : LexError.render ⟨'\x00', 4⟩ "\né &\n".toList "stdin".toList =
      .ok "Error: UnrecognisedCharacter\n-> stdin\n  |\n2 | é &\n  | --^\n".toList := rfl
  exact ⟨drawn, (same 3 (by decide)).trans drawn, same 1 (by decide)⟩

end ArithScan
