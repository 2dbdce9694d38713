import ArithScan.Proofs.Scanning

set_option autoImplicit false

namespace ArithScan

def Token.shift (offset : Nat) (token : Token) : Token :=
  ⟨token.kind, token.value, offset + token.span.start, offset + token.span.stop⟩

def LexError.shift (offset : Nat) (error : LexError) : LexError :=
  ⟨error.character, offset + error.position⟩

@[simp] theorem placed_shift (offset position : Nat) (kind : TokenKind) (value : Text) :
    (Token.placed kind value position).shift offset = .placed kind value (offset + position) := by
  simp only [Token.shift, Token.placed, Nat.add_assoc]

theorem scans_shift (offset position : Nat) (text : Text) (tokens : List Token) (error? : Option LexError)
    (scan : Scans position text tokens error?) :
    Scans (offset + position) text (tokens.map (Token.shift offset)) (error?.map (LexError.shift offset)) := by
  induction scan with
  | done position => exact .done _
  | refused position c rest foreign => exact .refused _ c rest foreign
  | blank position c rest tokens error? skipped _ ih =>
      rw [← Nat.add_assoc] at ih
      exact .blank _ c rest _ _ skipped ih
  | token position kind value rest tokens error? spelled stop _ ih =>
      rw [← Nat.add_assoc] at ih
      rw [List.map_cons, placed_shift]
      exact .token _ kind value rest _ _ spelled stop ih

-- A token that ends at a position is still open there when the text from there on
-- starts with a character that continues it.
def Token.OpenAt (token : Token) (position : Nat) (next : Text) : Prop :=
  token.span.stop = position ∧ ∃ c, next.head? = some c ∧ token.kind.continues c = true

theorem closed_stops (token : Token) (position : Nat) (next : Text) (ends : token.span.stop = position)
    (closed : ¬ token.OpenAt position next) : Stops token.kind.continues next := by
  intro c head
  apply Bool.eq_false_iff.mpr
  exact fun more => closed ⟨ends, c, head, more⟩

theorem stops_closed (token : Token) (position : Nat) (next : Text) (stop : Stops token.kind.continues next) :
    ¬ token.OpenAt position next := by
  intro isOpen
  obtain ⟨_, c, head, more⟩ := isOpen
  rw [stop c head] at more
  cases more

theorem scans_append (position : Nat) (a b : Text) (as bs : List Token) (error? : Option LexError)
    (left : Scans position a as none) (right : Scans (position + a.byteLength) b bs error?)
    (closed : ∀ token ∈ as.getLast?, ¬ token.OpenAt (position + a.byteLength) b) :
    Scans position (a ++ b) (as ++ bs) error? := by
  generalize success : (none : Option LexError) = finished at left
  induction left with
  | done => exact right
  | refused => cases success
  | blank position c rest tokens _ skipped _ ih =>
      rw [Text.byte_length_cons, ← Nat.add_assoc] at right closed
      exact .blank position c (rest ++ b) (tokens ++ bs) error? skipped (ih right closed success)
  | token position kind value rest tokens _ spelled stop later ih =>
      rw [Text.byte_length_append, ← Nat.add_assoc] at right closed
      have goesOn : Scans (position + value.byteLength) (rest ++ b) (tokens ++ bs) error? := by
        refine ih right ?_ success
        intro token last
        exact closed token (by simp [List.getLast?_cons, Option.mem_def.mp last])
      have stops : Stops kind.continues (rest ++ b) := by
        cases rest with
        | nil =>
            obtain ⟨rfl, _⟩ := (scans_nil _ tokens _).mp later
            exact closed_stops (.placed kind value position) _ b rfl (closed _ rfl)
        | cons c tail => exact stop
      rw [List.append_assoc]
      exact .token position kind value (rest ++ b) (tokens ++ bs) error? spelled stops goesOn

theorem scans_extend (position : Nat) (a run rest : Text) (earlier later : List Token) (token : Token)
    (error? : Option LexError) (left : Scans position a (earlier ++ [token]) none)
    (ends : token.span.stop = position + a.byteLength) (each : ∀ c ∈ run, token.kind.continues c = true)
    (stop : Stops token.kind.continues rest)
    (right : Scans (position + a.byteLength + run.byteLength) rest later error?) :
    Scans position (a ++ (run ++ rest))
      (earlier ++ ⟨token.kind, token.value ++ run, token.span.start, position + a.byteLength + run.byteLength⟩ :: later)
      error? := by
  generalize success : (none : Option LexError) = finished at left
  generalize made : earlier ++ [token] = tokens at left
  induction left generalizing earlier with
  | done => simp at made
  | refused => cases success
  | blank position c tail tokens _ skipped _ ih =>
      rw [Text.byte_length_cons, ← Nat.add_assoc] at ends right ⊢
      exact .blank position c _ _ error? skipped (ih earlier ends right success made)
  | token position kind value tail tokens _ spelled stop' next ih =>
      rw [Text.byte_length_append, ← Nat.add_assoc] at ends right ⊢
      rw [List.append_assoc]
      cases earlier with
      | nil =>
          obtain ⟨rfl, rfl⟩ := List.cons.inj made
          have empty : tail = [] := by
            apply Text.byte_length_zero
            simp only [Token.placed] at ends
            omega
          subst empty
          rw [Text.byte_length_nil, Nat.add_zero, Nat.add_assoc, ← Text.byte_length_append] at right ⊢
          rw [List.nil_append, ← List.append_assoc]
          exact .token position kind (value ++ run) rest later error? (run_extend _ _ value run spelled each) stop right
      | cons first others =>
          obtain ⟨rfl, remaining⟩ := List.cons.inj made
          have goesOn := ih others ends right success remaining
          have nonempty : tail ≠ [] := by
            intro empty
            subst empty
            have none := ((scans_nil _ tokens _).mp next).1
            simp [none] at remaining
          have stops := (stops_append kind.continues tail (run ++ rest) nonempty).mpr stop'
          exact .token position kind value (tail ++ (run ++ rest)) _ error? spelled stops goesOn

theorem scans_opens (position : Nat) (text : Text) (tokens : List Token) (error? : Option LexError) (c : Char)
    (kind : TokenKind) (scan : Scans position text tokens error?) (head : text.head? = some c)
    (opening : kind.opens c = true) :
    ∃ value rest later, text = value ++ rest ∧ kind.Spells value ∧ Stops kind.continues rest ∧
      tokens = .placed kind value position :: later ∧ Scans (position + value.byteLength) rest later error? := by
  cases scan with
  | done => cases head
  | refused _ d rest foreign =>
      cases head
      exact absurd (opens_acceptable kind c opening) foreign
  | blank _ d rest _ _ skipped =>
      cases head
      simp [TokenKind.opens_not_blank kind c opening] at skipped
  | token _ other value rest later _ spelled stop next =>
      obtain ⟨first, more, rfl, opening', _⟩ := id spelled
      cases head
      obtain rfl := TokenKind.opens_unique kind other c opening opening'
      exact ⟨c :: more, rest, later, rfl, spelled, stop, rfl, next⟩

theorem scans_bound (position : Nat) (text : Text) (tokens : List Token) (error? : Option LexError)
    (scan : Scans position text tokens error?) : ∀ token ∈ tokens, position ≤ token.span.start := by
  induction scan with
  | done => simp
  | refused => simp
  | blank position c rest tokens error? _ _ ih =>
      intro token member
      have later := ih token member
      omega
  | token position kind value rest tokens error? _ _ _ ih =>
      intro token member
      rcases List.mem_cons.mp member with same | later
      · exact same ▸ Nat.le_refl position
      · have after := ih token later
        omega

theorem scans_starts (position : Nat) (text : Text) (token : Token) (later : List Token) (error? : Option LexError)
    (scan : Scans position text (token :: later) error?) (here : token.span.start = position) :
    ∃ c, text.head? = some c ∧ token.kind.opens c = true := by
  cases scan with
  | blank _ c rest _ _ _ next =>
      have after := scans_bound _ rest _ error? next token (by simp)
      have wide := c.utf8Size_pos
      omega
  | token _ kind value rest _ _ spelled _ _ =>
      obtain ⟨first, more, rfl, opening, _⟩ := spelled
      exact ⟨first, rfl, opening⟩

end ArithScan
