import ArithScan.Proofs.Concatenation

set_option autoImplicit false

namespace ArithScan

structure Piece where
  kind : TokenKind
  value : Text
  gap : Text
  spelled : kind.Spells value
  blank : ∀ c ∈ gap, isBlank c = true

def written (pieces : List Piece) : Text :=
  pieces.flatMap fun piece => piece.value ++ piece.gap

def tokensFrom (position : Nat) : List Piece → List Token
  | [] => []
  | piece :: later =>
      .placed piece.kind piece.value position ::
        tokensFrom (position + piece.value.byteLength + piece.gap.byteLength) later

structure Layout where
  lead : Text
  pieces : List Piece
  blank : ∀ c ∈ lead, isBlank c = true

def Layout.text (layout : Layout) : Text := layout.lead ++ written layout.pieces

def Layout.tokens (layout : Layout) : List Token :=
  tokensFrom layout.lead.byteLength layout.pieces ++ [.endOfInput layout.text.byteLength]

-- Written without a blank between them, values of two such kinds read as one.
def Merges (first second : TokenKind) : Prop :=
  (first, second) ∈ [(TokenKind.number, TokenKind.number), (.identifier, .identifier), (.identifier, .number)]

instance (first second : TokenKind) : Decidable (Merges first second) :=
  inferInstanceAs (Decidable ((first, second) ∈ [_, _, _]))

def Clash (pieces : List Piece) : Prop :=
  ∃ first second, [first, second] <:+: pieces ∧ first.gap = [] ∧ Merges first.kind second.kind

@[simp] theorem written_cons (piece : Piece) (later : List Piece) :
    written (piece :: later) = piece.value ++ (piece.gap ++ written later) := by
  simp [written]

@[simp] theorem tokens_from_length (position : Nat) (pieces : List Piece) :
    (tokensFrom position pieces).length = pieces.length := by
  induction pieces generalizing position with
  | nil => rfl
  | cons piece later ih => rw [tokensFrom, List.length_cons, List.length_cons, ih]

theorem continues_iff_merges (first second : TokenKind) (c : Char) (opening : second.opens c = true) :
    first.continues c = true ↔ Merges first second := by
  have kinds : ∀ kind : TokenKind, kind.opens c = true ↔ kind = second := by
    intro kind
    constructor
    · intro other
      exact TokenKind.opens_unique kind second c other opening
    · intro same
      exact same ▸ opening
  cases first with
  | number =>
      rw [show TokenKind.number.continues c = TokenKind.number.opens c from rfl, kinds]
      simp [Merges, eq_comm]
  | identifier =>
      rw [TokenKind.identifier_continues_iff, kinds, kinds]
      simp [Merges, eq_comm, or_comm]
  | operator => simp [Merges, TokenKind.continues]
  | parenthesis => simp [Merges, TokenKind.continues]
  | endOfInput => simp [Merges, TokenKind.continues]

theorem open_iff_merges (piece : Piece) (later : List Piece) (position : Nat) :
    (Token.placed piece.kind piece.value position).OpenAt (position + piece.value.byteLength)
        (piece.gap ++ written later) ↔
      piece.gap = [] ∧ ∃ second ∈ later.head?, Merges piece.kind second.kind := by
  have ends : (Token.placed piece.kind piece.value position).span.stop = position + piece.value.byteLength := rfl
  rw [Token.OpenAt, and_iff_right ends]
  cases gaps : piece.gap with
  | cons c rest =>
      have blank := piece.blank c (by simp [gaps])
      have closed : piece.kind.continues c ≠ true := by
        intro more
        simp [TokenKind.continues_not_blank piece.kind c more] at blank
      simpa [Token.placed] using closed
  | nil =>
      cases later with
      | nil => simp [written]
      | cons second others =>
          obtain ⟨c, more, same, opening, _⟩ := second.spelled
          have merges := continues_iff_merges piece.kind second.kind c opening
          simpa [same, Token.placed] using merges

theorem clash_cons (piece : Piece) (later : List Piece) :
    Clash (piece :: later) ↔
      (piece.gap = [] ∧ ∃ second ∈ later.head?, Merges piece.kind second.kind) ∨ Clash later := by
  constructor
  · intro clash
    obtain ⟨first, second, within, touches, merges⟩ := clash
    rcases List.infix_cons_iff.mp within with ahead | inside
    · obtain ⟨rfl, next⟩ := List.cons_prefix_cons.mp ahead
      cases later with
      | nil => simp at next
      | cons neighbour others =>
          obtain ⟨rfl, _⟩ := List.cons_prefix_cons.mp next
          exact .inl ⟨touches, second, rfl, merges⟩
    · exact .inr ⟨first, second, inside, touches, merges⟩
  · rintro (⟨touches, second, next, merges⟩ | ⟨first, second, inside, touches, merges⟩)
    · obtain ⟨others, rfl⟩ := List.head?_eq_some_iff.mp next
      exact ⟨piece, second, ⟨[], others, rfl⟩, touches, merges⟩
    · exact ⟨first, second, List.infix_cons_iff.mpr (.inr inside), touches, merges⟩

@[simp] theorem clash_nil : ¬ Clash [] := by
  intro clash
  obtain ⟨first, second, within, _⟩ := clash
  simp at within

theorem clash_pair (first second : Piece) :
    Clash [first, second] ↔ first.gap = [] ∧ Merges first.kind second.kind := by
  simp [clash_cons]

-- From the right to the left: a value joins what is read after it, and it takes in
-- the first tokens of that or stays alone.
theorem scans_written (position : Nat) (pieces : List Piece) :
    ∃ tokens, Scans position (written pieces) tokens none ∧ tokens.length ≤ pieces.length ∧
      (¬ Clash pieces → tokens = tokensFrom position pieces) ∧ (Clash pieces → tokens.length < pieces.length) := by
  induction pieces generalizing position with
  | nil =>
      exact ⟨[], .done position, Nat.le_refl 0, fun _ => rfl, fun clash => absurd clash clash_nil⟩
  | cons piece later ih =>
      obtain ⟨tokens, scan, most, plain, fewer⟩ := ih (position + piece.value.byteLength + piece.gap.byteLength)
      have left : Scans position piece.value [.placed piece.kind piece.value position] none := by
        have alone := Scans.token position piece.kind piece.value [] [] none piece.spelled (stops_nil _) (.done _)
        rwa [List.append_nil] at alone
      have right := (scans_blanks (position + piece.value.byteLength) piece.gap _ tokens none piece.blank).mpr scan
      rw [clash_cons, ← open_iff_merges piece later position, written_cons]
      by_cases isOpen : (Token.placed piece.kind piece.value position).OpenAt (position + piece.value.byteLength)
          (piece.gap ++ written later)
      · obtain ⟨first, others, rfl, _, _, fused⟩ :=
          scans_fuse position piece.value _ [] tokens _ none left right isOpen
        have shorter : (fuse (.placed piece.kind piece.value position) (first :: others)).length <
            (piece :: later).length := by
          have length := fuse_length (.placed piece.kind piece.value position) first others
          simp only [List.length_cons] at most ⊢
          omega
        exact ⟨_, fused, Nat.le_of_lt shorter, fun clean => absurd (.inl isOpen) clean, fun _ => shorter⟩
      · have joined := scans_append position piece.value _ _ tokens none left right (by simpa using isOpen)
        refine ⟨_, joined, by simpa using most, ?_, ?_⟩
        · intro clean
          rw [plain (fun clash => clean (.inr clash))]
          rfl
        · intro clash
          have inside := fewer (clash.resolve_left isOpen)
          simpa using inside

theorem tokenize_layout (layout : Layout) :
    ∃ tokens, tokenize layout.text = .ok tokens ∧ (tokens = layout.tokens ↔ ¬ Clash layout.pieces) ∧
      (Clash layout.pieces → tokens.length < layout.tokens.length) := by
  obtain ⟨tokens, scan, _, plain, fewer⟩ := scans_written layout.lead.byteLength layout.pieces
  have source : Scans 0 layout.text tokens none := by
    apply (scans_blanks 0 layout.lead _ tokens none layout.blank).mpr
    rwa [Nat.zero_add]
  have shorter : Clash layout.pieces →
      (tokens ++ [Token.endOfInput layout.text.byteLength]).length < layout.tokens.length := by
    intro clash
    have short := fewer clash
    simpa [Layout.tokens] using short
  refine ⟨_, (tokenize_ok_iff layout.text _).mpr ⟨tokens, source, rfl⟩, ⟨?_, ?_⟩, shorter⟩
  · intro same clash
    have less := shorter clash
    rw [same] at less
    exact Nat.lt_irrefl _ less
  · intro clean
    rw [plain clean, Layout.tokens]

def numberPiece : Piece :=
  ⟨.number, "12".toList, [], ⟨'1', ['2'], rfl, rfl, List.forall_mem_singleton.mpr rfl⟩, List.forall_mem_nil _⟩

def namePiece : Piece :=
  ⟨.identifier, "ab".toList, [], ⟨'a', ['b'], rfl, rfl, List.forall_mem_singleton.mpr rfl⟩, List.forall_mem_nil _⟩

theorem tokenize_layout_touching :
    ¬ Clash [numberPiece, namePiece] ∧
      tokenize "\u300012ab".toList =
          .ok [⟨.number, "12".toList, ⟨3, 5⟩⟩, ⟨.identifier, "ab".toList, ⟨5, 7⟩⟩, ⟨.endOfInput, [], ⟨7, 7⟩⟩] ∧
        Clash [namePiece, numberPiece] ∧
          ∃ tokens, tokenize "\u3000ab12".toList = .ok tokens ∧ tokens.length < 3 := by
  have wide : ∀ c ∈ ['\u3000'], isBlank c = true := List.forall_mem_singleton.mpr rfl
  have apart : ¬ Clash [numberPiece, namePiece] := by
    rw [clash_pair]
    exact not_and_of_not_right _ (by decide)
  have clash : Clash [namePiece, numberPiece] := (clash_pair _ _).mpr ⟨rfl, by decide⟩
  obtain ⟨tokens, made, placed, _⟩ := tokenize_layout ⟨['\u3000'], [numberPiece, namePiece], wide⟩
  obtain ⟨tokens', made', _, fewer⟩ := tokenize_layout ⟨['\u3000'], [namePiece, numberPiece], wide⟩
  rw [placed.mpr apart] at made
  exact ⟨apart, made, clash, tokens', made', fewer clash⟩

end ArithScan
