import ArithScan.Proofs.Scanning
import ArithScan.Proofs.Slice

set_option autoImplicit false

namespace ArithScan

structure Token.StandsIn (source : Text) (token : Token) : Prop where
  wide : token.span.start < token.span.stop
  inside : token.span.stop ≤ source.byteLength
  shown : source.slice? token.span.start token.span.stop = some token.value
  spelled : token.kind.Spells token.value
  maximal : ∀ c, source.charAt? token.span.stop = some c → token.kind.continues c = false

theorem placed_stands (before value rest : Text) (kind : TokenKind) (spelled : kind.Spells value)
    (stop : Stops kind.continues rest) :
    (Token.placed kind value before.byteLength).StandsIn (before ++ (value ++ rest)) where
  wide := Nat.lt_add_of_pos_right (Text.byte_length_pos value (run_nonempty _ _ value spelled))
  inside := by
    simp only [Token.placed, Text.byte_length_append]
    omega
  shown := (Text.slice_iff _ value _ _).mpr ⟨before, rest, by rw [List.append_assoc], rfl, rfl⟩
  spelled := spelled
  maximal := by
    intro c found
    simp only [Token.placed] at found
    rw [← Text.byte_length_append, ← List.append_assoc, Text.char_at_split] at found
    exact stop c found

-- The cursor of a scan cuts the source in what it has passed and the text that it
-- still has to read, which is what carries the induction.
theorem scans_stands (source before text : Text) (position : Nat) (tokens : List Token) (error? : Option LexError)
    (cut : source = before ++ text) (place : before.byteLength = position)
    (scan : Scans position text tokens error?) : ∀ token ∈ tokens, token.StandsIn source := by
  induction scan generalizing before with
  | done => simp
  | refused => simp
  | blank position c rest tokens error? _ _ ih =>
      refine ih (before ++ [c]) (by simpa using cut) ?_
      simp [place]
  | token position kind value rest tokens error? spelled stop _ ih =>
      intro token member
      subst place
      rcases List.mem_cons.mp member with same | later
      · rw [same, cut]
        exact placed_stands before value rest kind spelled stop
      · exact ih (before ++ value) (by simpa using cut) (Text.byte_length_append before value) token later

end ArithScan
