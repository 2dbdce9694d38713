import ArithScan.Proofs.Joining

set_option autoImplicit false

namespace ArithScan

def Accepted (source : Text) : Prop := ∃ tokens, tokenize source = .ok tokens

theorem scans_acceptable (position : Nat) (text : Text) (tokens : List Token) (scan : Scans position text tokens none) :
    ∀ c ∈ text, Acceptable c := by
  generalize success : (none : Option LexError) = error? at scan
  induction scan with
  | done => simp
  | refused => cases success
  | blank position c rest tokens error? skipped _ ih =>
      exact List.forall_mem_cons.mpr ⟨blank_acceptable c skipped, ih success⟩
  | token position kind value rest tokens error? spelled _ _ ih =>
      exact List.forall_mem_append.mpr ⟨spells_acceptable kind value spelled, ih success⟩

theorem scans_refused (position : Nat) (text : Text) (tokens : List Token) (error : LexError)
    (scan : Scans position text tokens (some error)) :
    ∃ before after, text = before ++ error.character :: after ∧ error.position = position + before.byteLength ∧
      ¬ Acceptable error.character ∧ Scans position before tokens none := by
  generalize failure : some error = error? at scan
  induction scan with
  | done => cases failure
  | refused position c rest foreign =>
      cases failure
      exact ⟨[], rest, rfl, rfl, foreign, .done position⟩
  | blank position c rest tokens error? skipped _ ih =>
      obtain ⟨before, after, rfl, place, foreign, scan⟩ := ih failure
      refine ⟨c :: before, after, rfl, ?_, foreign, .blank position c before tokens none skipped scan⟩
      simp [place, Nat.add_assoc]
  | token position kind value rest tokens error? spelled stop _ ih =>
      obtain ⟨before, after, rfl, place, foreign, scan⟩ := ih failure
      refine ⟨value ++ before, after, by rw [List.append_assoc], ?_, foreign, ?_⟩
      · simp [place, Nat.add_assoc]
      · exact .token position kind value before tokens none spelled (stops_left _ before _ stop) scan

theorem accepted_iff (source : Text) : Accepted source ↔ ∀ c ∈ source, Acceptable c := by
  constructor
  · intro accepted
    obtain ⟨tokens, done⟩ := accepted
    obtain ⟨body, scan, _⟩ := (tokenize_ok_iff source tokens).mp done
    exact scans_acceptable 0 source body scan
  · intro acceptable
    cases made : tokenize source with
    | ok tokens => exact ⟨tokens, made⟩
    | error error =>
        obtain ⟨body, scan⟩ := (tokenize_error_iff source error).mp made
        obtain ⟨before, after, cut, _, foreign, _⟩ := scans_refused 0 source body error scan
        exact absurd (acceptable error.character (by simp [cut])) foreign

theorem foreign_closes (token : Token) (position : Nat) (c : Char) (rest : Text) (foreign : ¬ Acceptable c) :
    ¬ token.OpenAt position (c :: rest) := by
  intro isOpen
  obtain ⟨_, d, head, more⟩ := isOpen
  cases head
  exact foreign (continues_acceptable token.kind c more)

theorem refused_iff (source : Text) (error : LexError) :
    tokenize source = .error error ↔
      ∃ before after, source = before ++ error.character :: after ∧ error.position = before.byteLength ∧
        (∀ d ∈ before, Acceptable d) ∧ ¬ Acceptable error.character := by
  rw [tokenize_error_iff]
  constructor
  · intro failed
    obtain ⟨body, scan⟩ := failed
    obtain ⟨before, after, cut, place, foreign, accepted⟩ := scans_refused 0 source body error scan
    rw [Nat.zero_add] at place
    exact ⟨before, after, cut, place, scans_acceptable 0 before body accepted, foreign⟩
  · intro first
    obtain ⟨before, after, rfl, place, acceptable, foreign⟩ := first
    obtain ⟨tokens, done⟩ := (accepted_iff before).mpr acceptable
    obtain ⟨body, scan, _⟩ := (tokenize_ok_iff before tokens).mp done
    have failing := Scans.refused (0 + before.byteLength) error.character after foreign
    have joined := scans_append 0 before _ body [] _ scan failing (fun token _ => foreign_closes token _ _ after foreign)
    rw [Nat.zero_add, ← place] at joined
    exact ⟨body ++ [], joined⟩

theorem accepted_prefix_bound (before accepted after : Text) (c : Char) (foreign : ¬ Acceptable c)
    (part : accepted <+: before ++ c :: after) (valid : Accepted accepted) : accepted <+: before := by
  rcases List.prefix_or_prefix_of_prefix part (List.prefix_append before (c :: after)) with shorter | longer
  · exact shorter
  · obtain ⟨more, rfl⟩ := longer
    cases more with
    | nil => simp
    | cons d tail =>
        have same := (List.cons_prefix_cons.mp ((List.prefix_append_right_inj before).mp part)).1
        exact absurd ((accepted_iff _).mp valid c (by simp [same])) foreign

theorem tokenize_accepts_or_refuses (source : Text) :
    (Accepted source ↔ ∀ c ∈ source, Acceptable c) ∧
      (¬ Accepted source →
        ∃ before c after, source = before ++ c :: after ∧ (∀ d ∈ before, Acceptable d) ∧ ¬ Acceptable c ∧
          tokenize source = .error ⟨c, before.byteLength⟩ ∧ Accepted before ∧
            ∀ accepted, accepted <+: source → Accepted accepted → accepted <+: before) := by
  refine ⟨accepted_iff source, ?_⟩
  intro refused
  cases made : tokenize source with
  | ok tokens => exact absurd ⟨tokens, made⟩ refused
  | error error =>
      obtain ⟨before, after, rfl, place, acceptable, foreign⟩ := (refused_iff source error).mp made
      refine ⟨before, error.character, after, rfl, acceptable, foreign, ?_, (accepted_iff before).mpr acceptable, ?_⟩
      · rw [← place]
      · exact fun part => accepted_prefix_bound before part after error.character foreign

end ArithScan
