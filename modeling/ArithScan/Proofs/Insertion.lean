import ArithScan.Proofs.Acceptance
import ArithScan.Proofs.Readback

set_option autoImplicit false

namespace ArithScan

def tailTokens (position : Nat) (tail : Text) : List Token :=
  if tail.all Char.isDigit then [.placed .number tail position]
  else if tail.head?.any Char.isDigit then
    [.placed .number (tail.takeWhile Char.isDigit) position,
      .placed .identifier (tail.dropWhile Char.isDigit)
        (position + Text.byteLength (tail.takeWhile Char.isDigit))]
  else [.placed .identifier tail position]

-- What a gap of a width makes of a token where it is put in at a place. A token with a
-- place inside has characters of one byte only, so that bytes of its value are counted
-- as characters: parted_around.
def Token.parted (place width : Nat) (token : Token) : List Token :=
  if place ≤ token.span.start then [token.shift width]
  else if token.span.stop ≤ place then [token]
  else
    .placed token.kind (token.value.take (place - token.span.start)) token.span.start ::
      tailTokens (place + width) (token.value.drop (place - token.span.start))

def LexError.parted (place width : Nat) (error : LexError) : LexError :=
  if error.position < place then error else error.shift width

def Token.Around (place : Nat) (token : Token) : Prop := token.span.start < place ∧ place < token.span.stop

theorem word_scans (position : Nat) (kind : TokenKind) (c : Char) (more rest : Text) (later : List Token)
    (error? : Option LexError) (letter : ¬ c.isDigit = true) (each : ∀ d ∈ c :: more, kind.continues d = true)
    (stop : Stops kind.continues rest) (next : Scans (position + Text.byteLength (c :: more)) rest later error?) :
    Scans position (c :: more ++ rest) (.placed .identifier (c :: more) position :: later) error? := by
  obtain ⟨here, others⟩ := List.forall_mem_cons.mp each
  obtain ⟨identifier, opening⟩ := kind.continues_letter c here letter
  subst kind
  exact .token position .identifier (c :: more) rest later error? ⟨c, more, rfl, opening, others⟩ stop next

theorem mixed_scans (position : Nat) (kind : TokenKind) (digits letters rest : Text) (c : Char) (later : List Token)
    (error? : Option LexError) (filled : digits ≠ []) (numeric : ∀ d ∈ digits, d.isDigit = true)
    (letter : ¬ c.isDigit = true) (each : ∀ d ∈ c :: letters, kind.continues d = true)
    (stop : Stops kind.continues rest)
    (next : Scans (position + Text.byteLength (digits ++ c :: letters)) rest later error?) :
    Scans position (digits ++ c :: letters ++ rest)
      (.placed .number digits position :: .placed .identifier (c :: letters) (position + digits.byteLength) :: later)
      error? := by
  rw [Text.byte_length_append, ← Nat.add_assoc] at next
  rw [List.append_assoc]
  refine .token position .number digits _ _ error? (digits_spell digits filled numeric) ?_ ?_
  · intro d head
    obtain rfl : c = d := Option.some.inj head
    exact Bool.eq_false_iff.mpr letter
  · exact word_scans (position + digits.byteLength) kind c letters rest later error? letter each stop next

theorem digits_cut (text : Text) (mixed : ¬ text.all Char.isDigit = true) :
    ∃ c letters, text.dropWhile Char.isDigit = c :: letters ∧ ¬ c.isDigit = true := by
  cases word : text.dropWhile Char.isDigit with
  | nil => exact absurd (List.all_eq_true.mpr (List.dropWhile_eq_nil_iff.mp word)) mixed
  | cons c letters =>
      refine ⟨c, letters, rfl, ?_⟩
      have failed := List.head?_dropWhile_not Char.isDigit text
      simpa [word] using failed

theorem tail_scans (position : Nat) (kind : TokenKind) (tail rest : Text) (later : List Token)
    (error? : Option LexError) (filled : tail ≠ []) (each : ∀ d ∈ tail, kind.continues d = true)
    (stop : Stops kind.continues rest) (next : Scans (position + tail.byteLength) rest later error?) :
    Scans position (tail ++ rest) (tailTokens position tail ++ later) error? := by
  obtain ⟨c, more, same⟩ := List.exists_cons_of_ne_nil filled
  rw [tailTokens]
  by_cases digits : tail.all Char.isDigit = true
  · rw [if_pos digits]
    have stop' := stops_digits kind c rest (each c (by simp [same])) stop
    exact .token position .number tail rest later error? (digits_spell tail filled (List.all_eq_true.mp digits)) stop' next
  · rw [if_neg digits]
    by_cases digit : tail.head?.any Char.isDigit = true
    · rw [if_pos digit]
      obtain ⟨d, letters, word, letter⟩ := digits_cut tail digits
      have whole : tail.takeWhile Char.isDigit ++ d :: letters = tail := by
        rw [← word, List.takeWhile_append_dropWhile]
      have first : c.isDigit = true := by simpa [same] using digit
      have numeric : tail.takeWhile Char.isDigit ≠ [] := by
        rw [same, List.takeWhile_cons_of_pos first]
        exact List.cons_ne_nil _ _
      rw [word]
      rw [← whole] at each next
      have scan := mixed_scans position kind _ letters rest d later error? numeric
        (List.all_eq_true.mp List.all_takeWhile) letter (fun d member => each d (List.mem_append_right _ member)) stop next
      rwa [whole] at scan
    · rw [if_neg digit]
      subst tail
      exact word_scans position kind c more rest later error? digit each stop next

theorem parted_behind (place width : Nat) (token : Token) (behind : place ≤ token.span.start) :
    token.parted place width = [token.shift width] :=
  if_pos behind

theorem parted_ahead (place width : Nat) (token : Token) (wide : token.span.start < token.span.stop)
    (ahead : token.span.stop ≤ place) : token.parted place width = [token] := by
  rw [Token.parted, if_neg (by omega), if_pos ahead]

theorem parted_around (place width : Nat) (kind : TokenKind) (left right : Text) (position : Nat)
    (spelled : kind.Spells (left ++ right)) (filled : left ≠ []) (filled' : right ≠ [])
    (here : position + left.byteLength = place) :
    (Token.placed kind (left ++ right) position).parted place width =
      .placed kind left position :: tailTokens (place + width) right := by
  have ahead := Text.byte_length_pos left filled
  have behind := Text.byte_length_pos right filled'
  have narrow : left.byteLength = left.length :=
    Text.narrow_byte_length left fun c member => spells_narrow kind _ spelled c (List.mem_append_left right member)
  have counted : place - position = left.length := by omega
  simp only [Token.parted, Token.placed, Text.byte_length_append]
  rw [if_neg (by omega), if_neg (by omega), counted, List.take_left, List.drop_left]

theorem tokens_behind (place width : Nat) (tokens : List Token) (behind : ∀ token ∈ tokens, place ≤ token.span.start) :
    tokens.flatMap (Token.parted place width) = tokens.map (Token.shift width) := by
  rw [List.map_eq_flatMap]
  exact List.flatMap_congr fun token member => parted_behind place width token (behind token member)

theorem error_behind (place width position : Nat) (text : Text) (tokens : List Token) (error? : Option LexError)
    (scan : Scans position text tokens error?) (behind : place ≤ position) :
    error?.map (LexError.parted place width) = error?.map (LexError.shift width) := by
  cases error? with
  | none => rfl
  | some error =>
      obtain ⟨before, _, _, here, _, _⟩ := scans_refused position text tokens error scan
      rw [Option.map_some, Option.map_some, LexError.parted, if_neg (by omega)]

theorem scans_behind (place width position : Nat) (text : Text) (tokens : List Token) (error? : Option LexError)
    (scan : Scans position text tokens error?) (behind : place ≤ position) :
    Scans (position + width) text (tokens.flatMap (Token.parted place width))
      (error?.map (LexError.parted place width)) := by
  have bound : ∀ token ∈ tokens, place ≤ token.span.start :=
    fun token member => Nat.le_trans behind (scans_bound position text tokens error? scan token member)
  rw [tokens_behind place width tokens bound, error_behind place width position text tokens error? scan behind,
    Nat.add_comm]
  exact scans_shift width position text tokens error? scan

theorem first_cut (a b rest : Text) (c : Char) (filled : a ≠ []) (cut : a ++ b = c :: rest) :
    ∃ front, a = c :: front ∧ rest = front ++ b := by
  cases a with
  | nil => exact absurd rfl filled
  | cons d front =>
      obtain ⟨same, tail⟩ := List.cons.inj cut
      exact ⟨front, by rw [same], tail.symm⟩

theorem value_cut (a b value rest : Text) (cut : a ++ b = value ++ rest) :
    (∃ front, a = value ++ front ∧ rest = front ++ b) ∨ ∃ right, right ≠ [] ∧ value = a ++ right ∧ b = right ++ rest := by
  rcases List.append_eq_append_iff.mp cut with ⟨right, longer, same⟩ | ⟨front, shorter, same⟩
  · by_cases empty : right = []
    · subst right
      exact .inl ⟨[], by simpa using longer.symm, by simpa using same.symm⟩
    · exact .inr ⟨right, empty, longer, same⟩
  · exact .inl ⟨front, shorter, same⟩

theorem longer_cut (a b c d : Text) (same : a ++ b = c ++ d) (shorter : a.byteLength < c.byteLength) :
    ∃ more, more ≠ [] ∧ c = a ++ more ∧ b = more ++ d := by
  rcases value_cut a b c d same with ⟨front, within, _⟩ | ⟨right, filled, longer, rest⟩
  · rw [within, Text.byte_length_append] at shorter
    omega
  · exact ⟨right, filled, longer, rest⟩

section Gap

variable (gap : Text) (filled : gap ≠ []) (blank : ∀ c ∈ gap, isBlank c = true)

include blank

theorem scans_gap (position : Nat) (text : Text) (tokens : List Token) (error? : Option LexError)
    (scan : Scans position text tokens error?) :
    Scans position (gap ++ text) (tokens.flatMap (Token.parted position gap.byteLength))
      (error?.map (LexError.parted position gap.byteLength)) := by
  apply (scans_blanks position gap text _ _ blank).mpr
  exact scans_behind position gap.byteLength position text tokens error? scan (Nat.le_refl position)

include filled

theorem gap_stops (kind : TokenKind) (rest : Text) : Stops kind.continues (gap ++ rest) := by
  cases gap with
  | nil => exact absurd rfl filled
  | cons c more => exact blank_stops kind c (more ++ rest) (blank c List.mem_cons_self)

theorem stops_gap (kind : TokenKind) (front rest : Text) (stop : Stops kind.continues (front ++ rest)) :
    Stops kind.continues (front ++ (gap ++ rest)) := by
  by_cases empty : front = []
  · rw [empty]
    exact gap_stops gap filled blank kind rest
  · rw [stops_append _ front _ empty] at stop ⊢
    exact stop

theorem scans_around (position : Nat) (kind : TokenKind) (left right rest : Text) (later : List Token)
    (error? : Option LexError) (ahead : left ≠ []) (behind : right ≠ []) (spelled : kind.Spells (left ++ right))
    (stop : Stops kind.continues rest)
    (next : Scans (position + Text.byteLength (left ++ right)) rest later error?) :
    Scans position (left ++ (gap ++ (right ++ rest)))
      ((Token.placed kind (left ++ right) position :: later).flatMap
        (Token.parted (position + left.byteLength) gap.byteLength))
      (error?.map (LexError.parted (position + left.byteLength) gap.byteLength)) := by
  obtain ⟨front, each⟩ := run_split _ _ left right ahead spelled
  have width := Text.byte_length_append left right
  have moved := scans_behind (position + left.byteLength) gap.byteLength _ rest later error? next (by omega)
  have place : position + Text.byteLength (left ++ right) + gap.byteLength =
      position + left.byteLength + gap.byteLength + right.byteLength := by omega
  rw [place] at moved
  have tail := tail_scans (position + left.byteLength + gap.byteLength) kind right rest _ _ behind each stop moved
  rw [List.flatMap_cons, parted_around _ _ kind left right position spelled ahead behind rfl, List.cons_append]
  exact .token position kind left _ _ _ front (gap_stops gap filled blank kind _)
    ((scans_blanks _ gap _ _ _ blank).mpr tail)

-- What stands ahead of the gap gets shorter with each step of the scan, until the gap is
-- reached or a value reaches over its place.
theorem scans_parted (position : Nat) (a b : Text) (tokens : List Token) (error? : Option LexError)
    (scan : Scans position (a ++ b) tokens error?) :
    Scans position (a ++ (gap ++ b)) (tokens.flatMap (Token.parted (position + a.byteLength) gap.byteLength))
      (error?.map (LexError.parted (position + a.byteLength) gap.byteLength)) := by
  by_cases reached : a = []
  · subst a
    exact scans_gap gap blank position b tokens error? scan
  · have further := Text.byte_length_pos a reached
    generalize cut : a ++ b = text at scan
    cases scan with
    | done => exact absurd (List.append_eq_nil_iff.mp cut).1 reached
    | refused _ c rest foreign =>
        obtain ⟨front, ahead, _⟩ := first_cut a b rest c reached cut
        have kept : (⟨c, position⟩ : LexError).parted (position + a.byteLength) gap.byteLength = ⟨c, position⟩ :=
          if_pos (Nat.lt_add_of_pos_right further)
        rw [Option.map_some, kept, ahead]
        exact .refused position c _ foreign
    | blank _ c rest _ _ skipped later =>
        obtain ⟨front, ahead, same⟩ := first_cut a b rest c reached cut
        rw [same] at later
        have goesOn := scans_parted _ front b tokens error? later
        rw [ahead, Text.byte_length_cons, ← Nat.add_assoc]
        exact .blank position c _ _ _ skipped goesOn
    | token _ kind value rest later _ spelled stop next =>
        have nonempty := run_nonempty _ _ value spelled
        rcases value_cut a b value rest cut with ⟨front, ahead, same⟩ | ⟨right, behind, reaches, same⟩
        · rw [same] at next stop
          have wide := Text.byte_length_pos value nonempty
          have goesOn := scans_parted _ front b later error? next
          have kept : (Token.placed kind value position).parted (position + value.byteLength + front.byteLength)
              gap.byteLength = [.placed kind value position] :=
            parted_ahead _ _ _ (Nat.lt_add_of_pos_right wide) (Nat.le_add_right _ _)
          rw [ahead, Text.byte_length_append, ← Nat.add_assoc, List.flatMap_cons, List.append_assoc, kept]
          exact .token position kind value _ _ _ spelled (stops_gap gap filled blank kind front b stop) goesOn
        · rw [reaches] at spelled next ⊢
          rw [same]
          exact scans_around gap filled blank position kind a right rest later error? reached behind spelled stop next
termination_by a.length
decreasing_by
  · simp [ahead]
  · simp [ahead, List.length_pos_iff.mpr nonempty]

end Gap

theorem around_cut (a b : Text) (token : Token) (stands : token.StandsIn (a ++ b)) (around : token.Around a.byteLength) :
    ∃ left right, token = .placed token.kind (left ++ right) token.span.start ∧ left ≠ [] ∧ right ≠ [] ∧
      token.span.start + left.byteLength = a.byteLength := by
  obtain ⟨ahead, behind⟩ := around
  obtain ⟨before, after, cut, place, ends⟩ := (Text.slice_iff _ _ _ _).mp stands.shown
  rw [List.append_assoc] at cut
  obtain ⟨left, filled, passed, rest⟩ := longer_cut before (token.value ++ after) a b cut.symm (by omega)
  have reaches : token.span.start + Text.byteLength left = a.byteLength := by
    rw [passed, Text.byte_length_append, place]
  obtain ⟨right, filled', whole, _⟩ := longer_cut left b token.value after rest.symm (by omega)
  refine ⟨left, right, ?_, filled, filled', reaches⟩
  rw [← whole, Token.placed, ends]

structure Token.Parts (place width : Nat) (token : Token) : Prop where
  ahead : token.kind ≠ .endOfInput → token.span.stop ≤ place → token.parted place width = [token]
  behind : place ≤ token.span.start → token.parted place width = [token.shift width]
  ended : token.kind = .endOfInput → place ≤ token.span.start
  around : token.Around place →
    (token.kind = .number ∨ token.kind = .identifier) ∧
      ∃ left right, token.value = left ++ right ∧ left ≠ [] ∧ right ≠ [] ∧
        token.span.start + left.byteLength = place ∧
          token.parted place width = .placed token.kind left token.span.start :: tailTokens (place + width) right

theorem stands_parts (a b : Text) (width : Nat) (token : Token) (stands : token.StandsIn (a ++ b)) :
    token.Parts a.byteLength width where
  ahead := fun _ => parted_ahead _ width token stands.wide
  behind := parted_behind _ width token
  ended := fun last => absurd last (spells_not_end _ _ stands.spelled)
  around := by
    intro around
    obtain ⟨left, right, made, filled, filled', place⟩ := around_cut a b token stands around
    have whole : token.value = left ++ right := congrArg Token.value made
    have spelled := stands.spelled
    rw [whole] at spelled
    have parted := parted_around a.byteLength width token.kind left right token.span.start spelled filled filled' place
    rw [← made] at parted
    obtain ⟨_, each⟩ := run_split _ _ left right filled spelled
    obtain ⟨c, _, same⟩ := List.exists_cons_of_ne_nil filled'
    have kind := token.kind.continues_kind c (each c (by simp [same]))
    exact ⟨kind, left, right, whole, filled, filled', place, parted⟩

theorem end_parts (place width stop : Nat) (bounded : place ≤ stop) : (Token.endOfInput stop).Parts place width where
  ahead := fun other => absurd rfl other
  behind := parted_behind _ width _
  ended := fun _ => bounded
  around := fun around => absurd (Nat.lt_trans around.1 around.2) (Nat.lt_irrefl stop)

theorem parted_content (place width : Nat) (token : Token) (outside : ¬ token.Around place) :
    (token.parted place width).map Token.content = [token.content] := by
  rw [Token.parted]
  by_cases behind : place ≤ token.span.start
  · rw [if_pos behind]
    rfl
  · have ahead : token.span.stop ≤ place := by
      unfold Token.Around at outside
      omega
    rw [if_neg behind, if_pos ahead]
    rfl

theorem tail_tokens_length (position : Nat) (tail : Text) : 0 < (tailTokens position tail).length := by
  rw [tailTokens]
  by_cases digits : tail.all Char.isDigit = true
  · simp [digits]
  · by_cases digit : tail.head?.any Char.isDigit = true
    · simp [digits, digit]
    · simp [digits, digit]

theorem around_length (place width : Nat) (token : Token) (around : token.Around place) :
    1 < (token.parted place width).length := by
  have tail := tail_tokens_length (place + width) (token.value.drop (place - token.span.start))
  obtain ⟨ahead, behind⟩ := around
  rw [Token.parted, if_neg (by omega), if_neg (by omega), List.length_cons]
  omega

theorem parted_length (place width : Nat) (token : Token) : 0 < (token.parted place width).length := by
  by_cases around : token.Around place
  · exact Nat.lt_of_succ_lt (around_length place width token around)
  · have kept := congrArg List.length (parted_content place width token around)
    rw [List.length_map] at kept
    simp [kept]

theorem tokens_parted_length (place width : Nat) (tokens : List Token) :
    tokens.length ≤ (tokens.flatMap (Token.parted place width)).length := by
  induction tokens with
  | nil => exact Nat.le_refl 0
  | cons token later ih =>
      have here := parted_length place width token
      rw [List.flatMap_cons, List.length_append, List.length_cons]
      omega

theorem contents_kept_iff (place width : Nat) (tokens : List Token) :
    (tokens.flatMap (Token.parted place width)).map Token.content = tokens.map Token.content ↔
      ∀ token ∈ tokens, ¬ token.Around place := by
  apply Iff.intro
  · intro same token member around
    obtain ⟨earlier, later, rfl⟩ := List.append_of_mem member
    have lengths := congrArg List.length same
    have before := tokens_parted_length place width earlier
    have after := tokens_parted_length place width later
    have more := around_length place width token around
    simp only [List.length_map, List.flatMap_append, List.flatMap_cons, List.length_append, List.length_cons] at lengths
    omega
  · intro outside
    rw [List.map_flatMap, List.map_eq_flatMap]
    exact List.flatMap_congr fun token member => parted_content place width token (outside token member)

theorem tokenize_inserted (a gap b : Text) (filled : gap ≠ []) (blank : ∀ c ∈ gap, isBlank c = true) :
    (∀ error, tokenize (a ++ b) = .error error →
        tokenize (a ++ gap ++ b) = .error (error.parted a.byteLength gap.byteLength)) ∧
      ∀ tokens, tokenize (a ++ b) = .ok tokens →
        tokenize (a ++ gap ++ b) = .ok (tokens.flatMap (Token.parted a.byteLength gap.byteLength)) ∧
          (∀ token ∈ tokens, token.Parts a.byteLength gap.byteLength) ∧
            ((tokens.flatMap (Token.parted a.byteLength gap.byteLength)).map Token.content =
                tokens.map Token.content ↔
              ∀ token ∈ tokens, ¬ token.Around a.byteLength) := by
  have inserted := scans_parted gap filled blank 0 a b
  simp only [Nat.zero_add] at inserted
  rw [List.append_assoc]
  refine ⟨?_, ?_⟩
  · intro error failed
    obtain ⟨body, scan⟩ := (tokenize_error_iff _ error).mp failed
    exact (tokenize_error_iff _ _).mpr ⟨_, inserted body (some error) scan⟩
  · intro tokens done
    obtain ⟨body, scan, made⟩ := (tokenize_ok_iff _ tokens).mp done
    subst tokens
    have bounded : a.byteLength ≤ Text.byteLength (a ++ b) := by
      rw [Text.byte_length_append]
      exact Nat.le_add_right _ _
    refine ⟨?_, ?_, contents_kept_iff _ _ _⟩
    · refine (tokenize_ok_iff _ _).mpr ⟨_, inserted body none scan, ?_⟩
      have stop : gap.byteLength + Text.byteLength (a ++ b) = Text.byteLength (a ++ (gap ++ b)) := by
        simp only [Text.byte_length_append]
        omega
      have last := parted_behind a.byteLength gap.byteLength (.endOfInput (Text.byteLength (a ++ b))) bounded
      rw [end_shift, stop] at last
      rw [List.flatMap_append, List.flatMap_singleton, last]
    · intro token member
      cases List.mem_append.mp member with
      | inl inside =>
          exact stands_parts a b _ token (scans_stands (a ++ b) [] (a ++ b) 0 body none rfl rfl scan token inside)
      | inr last =>
          rw [List.mem_singleton.mp last]
          exact end_parts _ _ _ bounded

theorem tokenize_inserted_apart :
    ("\u2003 ".toList ≠ [] ∧ ∀ c ∈ "\u2003 ".toList, isBlank c = true) ∧
      (tokenize ("x1".toList ++ "2ab+".toList) =
          .ok [⟨.identifier, "x12ab".toList, ⟨0, 5⟩⟩, ⟨.operator, "+".toList, ⟨5, 6⟩⟩, .endOfInput 6] ∧
        tokenize ("x1".toList ++ "\u2003 ".toList ++ "2ab+".toList) =
          .ok [⟨.identifier, "x1".toList, ⟨0, 2⟩⟩, ⟨.number, "2".toList, ⟨6, 7⟩⟩, ⟨.identifier, "ab".toList, ⟨7, 9⟩⟩,
            ⟨.operator, "+".toList, ⟨9, 10⟩⟩, .endOfInput 10]) ∧
        tokenize ("1".toList ++ "&".toList) = .error ⟨'&', 1⟩ ∧
          tokenize ("1".toList ++ "\u2003 ".toList ++ "&".toList) = .error ⟨'&', 5⟩ := by
  have filled : "\u2003 ".toList ≠ [] := List.cons_ne_nil _ _
  have blank : ∀ c ∈ "\u2003 ".toList, isBlank c = true := List.all_eq_true.mp (by decide)
  have word : TokenKind.identifier.Spells "x12ab".toList :=
    ⟨'x', "12ab".toList, rfl, rfl, List.all_eq_true.mp (by decide)⟩
  have plus : TokenKind.operator.Spells "+".toList := ⟨'+', [], rfl, rfl, List.forall_mem_nil _⟩
  have stop : Stops TokenKind.identifier.continues "+".toList := by
    intro c head
    obtain rfl : '+' = c := Option.some.inj head
    rfl
  have scan : Scans 0 ("x1".toList ++ "2ab+".toList)
      [.placed .identifier "x12ab".toList 0, .placed .operator "+".toList 5] none :=
    .token 0 .identifier "x12ab".toList "+".toList _ none word stop
      (.token 5 .operator "+".toList [] [] none plus (stops_nil _) (.done 6))
  have done := tokenize_scans _ _ none scan
  have refused : tokenize ("1".toList ++ "&".toList) = .error ⟨'&', 1⟩ :=
    (refused_iff _ _).mpr ⟨['1'], [], rfl, rfl, acceptable_each _ (by decide), by decide⟩
  have parted := (tokenize_inserted "x1".toList "\u2003 ".toList "2ab+".toList filled blank).2 _ done
  have moved := (tokenize_inserted "1".toList "\u2003 ".toList "&".toList filled blank).1 _ refused
  exact ⟨⟨filled, blank⟩, ⟨done, parted.1⟩, refused, moved⟩

end ArithScan
