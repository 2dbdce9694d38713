import ArithScan.Proofs.Acceptance

set_option autoImplicit false

namespace ArithScan

def Token.absorb (token next : Token) : Token :=
  ⟨token.kind, token.value ++ next.value, token.span.start, next.span.stop⟩

-- What becomes of an open token and the tokens after it. An identifier that has
-- taken in a number goes on with the identifier that touches the number.
def fuse (token : Token) : List Token → List Token
  | [] => [token]
  | [first] => [token.absorb first]
  | first :: second :: later =>
      if token.kind = .identifier ∧ first.kind = .number ∧ second.kind = .identifier ∧
          second.span.start = first.span.stop then
        (token.absorb first).absorb second :: later
      else token.absorb first :: second :: later

structure Fusion (a b : Text) (tokens earlier : List Token) (token : Token) : Prop where
  last : tokens = earlier ++ [token, .endOfInput a.byteLength]
  isOpen : token.OpenAt a.byteLength b

theorem fuse_one (token first : Token) (later : List Token)
    (alone : token.kind = .identifier → first.kind = .number →
      ∀ second ∈ later.head?, second.kind = .identifier → second.span.start ≠ first.span.stop) :
    fuse token (first :: later) = token.absorb first :: later := by
  cases later with
  | nil => rfl
  | cons second rest =>
      rw [fuse, if_neg]
      intro fused
      obtain ⟨identifier, number, other, touches⟩ := fused
      exact alone identifier number second rfl other touches

theorem fuse_two (token first second : Token) (later : List Token) (identifier : token.kind = .identifier)
    (number : first.kind = .number) (other : second.kind = .identifier)
    (touches : second.span.start = first.span.stop) :
    fuse token (first :: second :: later) = (token.absorb first).absorb second :: later :=
  if_pos ⟨identifier, number, other, touches⟩

theorem fuse_length (token first : Token) (later : List Token) :
    (fuse token (first :: later)).length ≤ later.length + 1 := by
  cases later with
  | nil => exact Nat.le_refl 1
  | cons second rest =>
      rw [fuse]
      split <;> simp

@[simp] theorem fuse_end (token first : Token) (later : List Token) (position : Nat) :
    fuse token (first :: later ++ [.endOfInput position]) = fuse token (first :: later) ++ [.endOfInput position] := by
  cases later with
  | nil => simp [fuse, Token.endOfInput]
  | cons second rest =>
      simp only [List.cons_append, fuse]
      split <;> rfl

theorem spells_continues (kind other : TokenKind) (value : Text) (spelled : kind.Spells value)
    (first : ∀ c, kind.opens c = true → other.continues c = true)
    (more : ∀ c, kind.continues c = true → other.continues c = true) : ∀ c ∈ value, other.continues c = true := by
  intro c member
  rcases run_each _ _ value spelled c member with opening | longer
  · exact first c opening
  · exact more c longer

theorem number_in_number (value : Text) (spelled : TokenKind.number.Spells value) :
    ∀ c ∈ value, TokenKind.number.continues c = true :=
  spells_continues .number .number value spelled (fun _ opening => opening) (fun _ more => more)

theorem number_in_identifier (value : Text) (spelled : TokenKind.number.Spells value) :
    ∀ c ∈ value, TokenKind.identifier.continues c = true :=
  spells_continues .number .identifier value spelled
    (fun c opening => (TokenKind.identifier_continues_iff c).mpr (.inl opening))
    (fun c more => (TokenKind.identifier_continues_iff c).mpr (.inl more))

theorem identifier_in_identifier (value : Text) (spelled : TokenKind.identifier.Spells value) :
    ∀ c ∈ value, TokenKind.identifier.continues c = true :=
  spells_continues .identifier .identifier value spelled
    (fun c opening => (TokenKind.identifier_continues_iff c).mpr (.inr opening)) (fun _ more => more)

theorem number_then_identifier (position : Nat) (rest : Text) (later : List Token) (error? : Option LexError)
    (stop : Stops TokenKind.number.continues rest) (scan : Scans position rest later error?) :
    (∃ value after others, rest = value ++ after ∧ TokenKind.identifier.Spells value ∧
        Stops TokenKind.identifier.continues after ∧ later = .placed .identifier value position :: others ∧
          Scans (position + value.byteLength) after others error?) ∨
      Stops TokenKind.identifier.continues rest ∧
        ∀ second ∈ later.head?, second.kind = .identifier → second.span.start ≠ position := by
  by_cases letter : ∃ c, rest.head? = some c ∧ TokenKind.identifier.opens c = true
  · obtain ⟨c, head, opening⟩ := letter
    exact .inl (scans_opens position rest later error? c .identifier scan head opening)
  · refine .inr ⟨?_, ?_⟩
    · intro c head
      apply Bool.eq_false_iff.mpr
      intro more
      rcases (TokenKind.identifier_continues_iff c).mp more with digit | opening
      · exact absurd digit (Bool.eq_false_iff.mp (stop c head))
      · exact letter ⟨c, head, opening⟩
    · intro second among identifier touches
      cases later with
      | nil => cases among
      | cons token others =>
          cases among
          obtain ⟨c, head, opening⟩ := scans_starts position rest second others error? scan touches
          exact letter ⟨c, head, identifier ▸ opening⟩

theorem scans_absorb_number (position : Nat) (a value rest : Text) (earlier later : List Token) (token : Token)
    (error? : Option LexError) (left : Scans position a (earlier ++ [token]) none)
    (ends : token.span.stop = position + a.byteLength) (identifier : token.kind = .identifier)
    (spelled : TokenKind.number.Spells value) (stop : Stops TokenKind.number.continues rest)
    (next : Scans (position + a.byteLength + value.byteLength) rest later error?) :
    Scans position (a ++ (value ++ rest))
      (earlier ++ fuse token (.placed .number value (position + a.byteLength) :: later)) error? := by
  have digits := number_in_identifier value spelled
  rcases number_then_identifier _ rest later error? stop next with
    ⟨word, after, others, rfl, spelled', stop', rfl, next'⟩ | ⟨stop', apart⟩
  · have letters := identifier_in_identifier word spelled'
    have each : ∀ c ∈ value ++ word, token.kind.continues c = true := by
      rw [identifier]
      exact List.forall_mem_append.mpr ⟨digits, letters⟩
    rw [Nat.add_assoc _ value.byteLength, ← Text.byte_length_append] at next'
    have fused := scans_extend position a (value ++ word) after earlier others token error? left ends each
      (identifier ▸ stop') next'
    rw [fuse_two _ _ _ others identifier rfl rfl rfl]
    simpa [Token.absorb, Token.placed, Nat.add_assoc] using fused
  · rw [fuse_one _ _ later (fun _ _ => apart)]
    exact scans_extend position a value rest earlier later token error? left ends (identifier ▸ digits)
      (identifier ▸ stop') next

theorem scans_fuse (position : Nat) (a b : Text) (earlier bs : List Token) (token : Token) (error? : Option LexError)
    (left : Scans position a (earlier ++ [token]) none) (right : Scans (position + a.byteLength) b bs error?)
    (isOpen : token.OpenAt (position + a.byteLength) b) :
    ∃ first later, bs = first :: later ∧ first.span.start = position + a.byteLength ∧
      (first.kind = .number ∨ token.kind = .identifier ∧ first.kind = .identifier) ∧
        Scans position (a ++ b) (earlier ++ fuse token bs) error? := by
  obtain ⟨ends, c, head, more⟩ := isOpen
  cases kind : token.kind with
  | number =>
      rw [kind] at more
      obtain ⟨value, rest, later, rfl, spelled, stop, rfl, next⟩ := scans_opens _ b bs error? c .number right head more
      refine ⟨_, later, rfl, rfl, .inl rfl, ?_⟩
      rw [fuse_one _ _ later (by simp [kind])]
      exact scans_extend position a value rest earlier later token error? left ends
        (kind ▸ number_in_number value spelled) (kind ▸ stop) next
  | identifier =>
      rw [kind, TokenKind.identifier_continues_iff] at more
      rcases more with digit | letter
      · obtain ⟨value, rest, later, rfl, spelled, stop, rfl, next⟩ :=
          scans_opens _ b bs error? c .number right head digit
        exact ⟨_, later, rfl, rfl, .inl rfl,
          scans_absorb_number position a value rest earlier later token error? left ends kind spelled stop next⟩
      · obtain ⟨value, rest, later, rfl, spelled, stop, rfl, next⟩ :=
          scans_opens _ b bs error? c .identifier right head letter
        refine ⟨_, later, rfl, rfl, .inr ⟨rfl, rfl⟩, ?_⟩
        rw [fuse_one _ _ later (by simp [Token.placed])]
        exact scans_extend position a value rest earlier later token error? left ends
          (kind ▸ identifier_in_identifier value spelled) (kind ▸ stop) next
  | operator => simp [kind, TokenKind.continues] at more
  | parenthesis => simp [kind, TokenKind.continues] at more
  | endOfInput => simp [kind, TokenKind.continues] at more

theorem tokenize_refused_left (a b : Text) (error : LexError) (failed : tokenize a = .error error) :
    tokenize (a ++ b) = .error error := by
  obtain ⟨before, after, rfl, place, acceptable, foreign⟩ := (refused_iff a error).mp failed
  exact (refused_iff _ error).mpr ⟨before, after ++ b, by simp, place, acceptable, foreign⟩

theorem tokenize_refused_right (a b : Text) (error : LexError) (accepted : Accepted a)
    (failed : tokenize b = .error error) : tokenize (a ++ b) = .error (error.shift a.byteLength) := by
  obtain ⟨before, after, rfl, place, acceptable, foreign⟩ := (refused_iff b error).mp failed
  have clean := (accepted_iff a).mp accepted
  refine (refused_iff _ _).mpr ⟨a ++ before, after, by simp [LexError.shift], ?_, ?_, foreign⟩
  · rw [LexError.shift, place, Text.byte_length_append]
  · exact List.forall_mem_append.mpr ⟨clean, acceptable⟩

@[simp] theorem end_shift (offset position : Nat) :
    (Token.endOfInput position).shift offset = .endOfInput (offset + position) := rfl

theorem tokenize_join (a b : Text) (as bs : List Token) (done : tokenize a = .ok as) (done' : tokenize b = .ok bs)
    (apart : ¬ ∃ earlier token, Fusion a b as earlier token) :
    tokenize (a ++ b) = .ok (as.dropLast ++ bs.map (Token.shift a.byteLength)) := by
  obtain ⟨body, left, rfl⟩ := (tokenize_ok_iff a as).mp done
  obtain ⟨body', right, rfl⟩ := (tokenize_ok_iff b bs).mp done'
  have shifted := scans_shift a.byteLength 0 b body' none right
  rw [Nat.add_comm] at shifted
  have joined := scans_append 0 a b body _ none left shifted ?_
  · refine (tokenize_ok_iff _ _).mpr ⟨_, joined, ?_⟩
    rw [List.dropLast_concat, List.map_append, List.map_singleton, end_shift, Text.byte_length_append, List.append_assoc]
  · intro token last isOpen
    obtain ⟨earlier, rfl⟩ := List.getLast?_eq_some_iff.mp last
    rw [Nat.zero_add] at isOpen
    exact apart ⟨earlier, token, by simp, isOpen⟩

theorem tokenize_fuse (a b : Text) (as bs earlier : List Token) (token : Token) (done : tokenize a = .ok as)
    (done' : tokenize b = .ok bs) (fusion : Fusion a b as earlier token) :
    ∃ first later, bs = first :: later ∧ first.span.start = 0 ∧
      (first.kind = .number ∨ token.kind = .identifier ∧ first.kind = .identifier) ∧
        tokenize (a ++ b) = .ok (earlier ++ fuse token (bs.map (Token.shift a.byteLength))) := by
  obtain ⟨body, left, same⟩ := (tokenize_ok_iff a as).mp done
  obtain ⟨body', right, rfl⟩ := (tokenize_ok_iff b bs).mp done'
  have cut : body ++ [Token.endOfInput a.byteLength] = earlier ++ [token] ++ [.endOfInput a.byteLength] := by
    rw [← same, fusion.last, List.append_assoc, List.singleton_append]
  obtain rfl := List.append_cancel_right cut
  have shifted := scans_shift a.byteLength 0 b body' none right
  have isOpen := fusion.isOpen
  rw [← Nat.zero_add a.byteLength] at isOpen
  rw [Nat.add_comm] at shifted
  obtain ⟨first, later, made, here, kinds, joined⟩ := scans_fuse 0 a b earlier _ token none left shifted isOpen
  obtain ⟨head, tail, rfl, rfl, rfl⟩ := List.map_eq_cons_iff.mp made
  refine ⟨head, tail ++ [.endOfInput b.byteLength], rfl, ?_, kinds, ?_⟩
  · simp only [Token.shift] at here
    omega
  · refine (tokenize_ok_iff _ _).mpr ⟨_, joined, ?_⟩
    rw [List.map_append, List.map_cons, List.map_singleton, end_shift, fuse_end, Text.byte_length_append,
      List.append_assoc]

theorem fused_shorter (a b : Text) (as earlier later : List Token) (token first : Token)
    (fusion : Fusion a b as earlier token) :
    (earlier ++ fuse token (first :: later)).length < (as.dropLast ++ first :: later).length := by
  have shorter := fuse_length token first later
  rw [fusion.last]
  simp only [List.length_append, List.length_dropLast, List.length_cons, List.length_nil]
  omega

theorem tokenize_append (a b : Text) :
    (∀ error, tokenize a = .error error → tokenize (a ++ b) = .error error) ∧
      (∀ as error, tokenize a = .ok as → tokenize b = .error error →
        tokenize (a ++ b) = .error (error.shift a.byteLength)) ∧
        ∀ as bs, tokenize a = .ok as → tokenize b = .ok bs →
          (tokenize (a ++ b) = .ok (as.dropLast ++ bs.map (Token.shift a.byteLength)) ↔
            ¬ ∃ earlier token, Fusion a b as earlier token) ∧
            ∀ earlier token, Fusion a b as earlier token →
              ∃ first later, bs = first :: later ∧ first.span.start = 0 ∧
                (first.kind = .number ∨ token.kind = .identifier ∧ first.kind = .identifier) ∧
                  tokenize (a ++ b) = .ok (earlier ++ fuse token (bs.map (Token.shift a.byteLength))) := by
  refine ⟨fun error => tokenize_refused_left a b error, ?_, ?_⟩
  · intro as error done failed
    exact tokenize_refused_right a b error ⟨as, done⟩ failed
  · intro as bs done done'
    have fusing := fun earlier token => tokenize_fuse a b as bs earlier token done done'
    refine ⟨⟨?_, tokenize_join a b as bs done done'⟩, fusing⟩
    intro plain fused
    obtain ⟨earlier, token, fusion⟩ := fused
    obtain ⟨first, later, rfl, _, _, joined⟩ := fusing earlier token fusion
    have same := Except.ok.inj (plain.symm.trans joined)
    have shorter := fused_shorter a b as earlier (later.map (Token.shift a.byteLength)) token
      (first.shift a.byteLength) fusion
    rw [← List.map_cons, same] at shorter
    exact Nat.lt_irrefl _ shorter

theorem tokenize_append_touching :
    Fusion "x".toList "12ab".toList [⟨.identifier, "x".toList, ⟨0, 1⟩⟩, .endOfInput 1] []
        ⟨.identifier, "x".toList, ⟨0, 1⟩⟩ ∧
      tokenize ("x".toList ++ "12ab".toList) = .ok [⟨.identifier, "x12ab".toList, ⟨0, 5⟩⟩, .endOfInput 5] := by
  have fusion : Fusion "x".toList "12ab".toList [⟨.identifier, "x".toList, ⟨0, 1⟩⟩, .endOfInput 1] []
      ⟨.identifier, "x".toList, ⟨0, 1⟩⟩ := ⟨rfl, rfl, '1', rfl, rfl⟩
  have letter : TokenKind.identifier.Spells "x".toList := ⟨'x', [], rfl, rfl, by simp⟩
  have digits : TokenKind.number.Spells "12".toList := ⟨'1', ['2'], rfl, rfl, List.forall_mem_singleton.mpr rfl⟩
  have letters : TokenKind.identifier.Spells "ab".toList := ⟨'a', ['b'], rfl, rfl, List.forall_mem_singleton.mpr rfl⟩
  have stop : Stops TokenKind.number.continues "ab".toList := by
    intro c head
    cases head
    rfl
  have left : Scans 0 "x".toList [.placed .identifier "x".toList 0] none :=
    .token 0 .identifier "x".toList [] [] none letter (stops_nil _) (.done 1)
  have right : Scans 0 "12ab".toList [.placed .number "12".toList 0, .placed .identifier "ab".toList 2] none :=
    .token 0 .number "12".toList "ab".toList _ none digits stop
      (.token 2 .identifier "ab".toList [] [] none letters (stops_nil _) (.done 4))
  have done := tokenize_scans _ _ none left
  have done' := tokenize_scans _ _ none right
  obtain ⟨_, _, _, _, _, joined⟩ := ((tokenize_append _ _).2.2 _ _ done done').2 [] _ fusion
  exact ⟨fusion, joined⟩

end ArithScan
