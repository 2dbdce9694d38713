import ArithScan.Proofs.Spelling
import ArithScan.Scan

set_option autoImplicit false

namespace ArithScan

def Token.placed (kind : TokenKind) (value : Text) (position : Nat) : Token :=
  ⟨kind, value, ⟨position, position + value.byteLength⟩⟩

@[simp] theorem Lexeme.token_skipped (position : Nat) (run : Text) : (⟨none, position, run⟩ : Lexeme).token? = none := rfl

@[simp] theorem Lexeme.token_placed (kind : TokenKind) (position : Nat) (run : Text) :
    (⟨some kind, position, run⟩ : Lexeme).token? = some (.placed kind run position) := rfl

-- What a scan makes of a text that stands at a position, without the scanner:
-- blanks are passed one by one, a value is as long as its kind allows, and a
-- character outside the alphabet ends it.
inductive Scans : Nat → Text → List Token → Option LexError → Prop where
  | done (position : Nat) : Scans position [] [] none
  | refused (position : Nat) (c : Char) (rest : Text) (foreign : ¬ Acceptable c) :
      Scans position (c :: rest) [] (some ⟨c, position⟩)
  | blank (position : Nat) (c : Char) (rest : Text) (tokens : List Token) (error? : Option LexError)
      (skipped : isBlank c = true) (later : Scans (position + c.utf8Size) rest tokens error?) :
      Scans position (c :: rest) tokens error?
  | token (position : Nat) (kind : TokenKind) (value rest : Text) (tokens : List Token) (error? : Option LexError)
      (spelled : kind.Spells value) (stop : Stops kind.continues rest)
      (later : Scans (position + value.byteLength) rest tokens error?) :
      Scans position (value ++ rest) (.placed kind value position :: tokens) error?

theorem scans_nil (position : Nat) (tokens : List Token) (error? : Option LexError) :
    Scans position [] tokens error? ↔ tokens = [] ∧ error? = none := by
  constructor
  · intro scan
    generalize start : ([] : Text) = text at scan
    cases scan with
    | done => exact ⟨rfl, rfl⟩
    | refused => cases start
    | blank => cases start
    | token _ kind value rest _ _ spelled =>
        have empty := List.append_eq_nil_iff.mp start.symm
        exact absurd empty.1 (run_nonempty _ _ value spelled)
  · intro stopped
    obtain ⟨rfl, rfl⟩ := stopped
    exact .done position

theorem scans_foreign (position : Nat) (c : Char) (rest : Text) (tokens : List Token) (error? : Option LexError)
    (foreign : ¬ Acceptable c) :
    Scans position (c :: rest) tokens error? ↔ tokens = [] ∧ error? = some ⟨c, position⟩ := by
  constructor
  · intro scan
    generalize start : c :: rest = text at scan
    cases scan with
    | done => cases start
    | refused _ d tail _ =>
        cases start
        exact ⟨rfl, rfl⟩
    | blank _ d tail _ _ skipped =>
        cases start
        exact absurd (blank_acceptable c skipped) foreign
    | token _ kind value tail _ _ spelled =>
        obtain ⟨first, more, rfl, opening, _⟩ := spelled
        cases start
        exact absurd (opens_acceptable kind c opening) foreign
  · intro stopped
    obtain ⟨rfl, rfl⟩ := stopped
    exact .refused position c rest foreign

theorem scans_blank (position : Nat) (c : Char) (rest : Text) (tokens : List Token) (error? : Option LexError)
    (skipped : isBlank c = true) :
    Scans position (c :: rest) tokens error? ↔ Scans (position + c.utf8Size) rest tokens error? := by
  constructor
  · intro scan
    generalize start : c :: rest = text at scan
    cases scan with
    | done => cases start
    | refused _ d tail foreign =>
        cases start
        exact absurd (blank_acceptable c skipped) foreign
    | blank _ d tail _ _ _ later =>
        cases start
        exact later
    | token _ kind value tail _ _ spelled =>
        obtain ⟨first, more, rfl, opening, _⟩ := spelled
        cases start
        simp [TokenKind.opens_not_blank kind c opening] at skipped
  · exact .blank position c rest tokens error? skipped

theorem scans_token (position : Nat) (kind : TokenKind) (value rest : Text) (tokens : List Token)
    (error? : Option LexError) (spelled : kind.Spells value) (stop : Stops kind.continues rest) :
    Scans position (value ++ rest) tokens error? ↔
      ∃ later, tokens = .placed kind value position :: later ∧
        Scans (position + value.byteLength) rest later error? := by
  constructor
  · intro scan
    generalize start : value ++ rest = text at scan
    have opened := spelled
    obtain ⟨first, more, same, opening, _⟩ := opened
    cases scan with
    | done => simp [same] at start
    | refused _ d tail foreign =>
        have head : first = d := by simpa [same] using congrArg List.head? start
        exact absurd (opens_acceptable kind d (head ▸ opening)) foreign
    | blank _ d tail _ _ skipped =>
        have head : first = d := by simpa [same] using congrArg List.head? start
        subst head
        simp [TokenKind.opens_not_blank kind first opening] at skipped
    | token _ other value' tail later _ spelled' stop' next =>
        have opened' := spelled'
        obtain ⟨first', more', same', opening', _⟩ := opened'
        have head : first = first' := by simpa [same, same'] using congrArg List.head? start
        subst head
        have kinds := TokenKind.opens_unique kind other first opening opening'
        subst kinds
        obtain ⟨values, rests⟩ := run_unique _ _ value value' rest tail spelled spelled' start stop stop'
        subst values rests
        exact ⟨later, rfl, next⟩
  · intro placed
    obtain ⟨later, rfl, next⟩ := placed
    exact .token position kind value rest later error? spelled stop next

theorem scans_unique (position : Nat) (text : Text) (tokens tokens' : List Token) (error? error?' : Option LexError)
    (left : Scans position text tokens error?) (right : Scans position text tokens' error?') :
    tokens = tokens' ∧ error? = error?' := by
  induction left generalizing tokens' with
  | done position =>
      obtain ⟨rfl, rfl⟩ := (scans_nil position tokens' error?').mp right
      exact ⟨rfl, rfl⟩
  | refused position c rest foreign =>
      obtain ⟨rfl, rfl⟩ := (scans_foreign position c rest tokens' error?' foreign).mp right
      exact ⟨rfl, rfl⟩
  | blank position c rest tokens error? skipped _ ih =>
      exact ih tokens' ((scans_blank position c rest tokens' error?' skipped).mp right)
  | token position kind value rest tokens error? spelled stop _ ih =>
      obtain ⟨later, rfl, next⟩ := (scans_token position kind value rest tokens' error?' spelled stop).mp right
      obtain ⟨rfl, rfl⟩ := ih later next
      exact ⟨rfl, rfl⟩

theorem scans_blanks (position : Nat) (gap rest : Text) (tokens : List Token) (error? : Option LexError)
    (blank : ∀ c ∈ gap, isBlank c = true) :
    Scans position (gap ++ rest) tokens error? ↔ Scans (position + gap.byteLength) rest tokens error? := by
  induction gap generalizing position with
  | nil => rfl
  | cons c tail ih =>
      rw [List.cons_append, scans_blank position c _ tokens error? (blank c (by simp)),
        ih _ (fun d member => blank d (by simp [member])), Text.byte_length_cons, Nat.add_assoc]

namespace Scanner

theorem next_none (scanner : Scanner) (nothing : scanner.next? Rule.table = none) : scanner.rest = [] := by
  unfold next? at nothing
  split at nothing
  · assumption
  · cases nothing

theorem next_refused (scanner : Scanner) (error : LexError)
    (stuck : scanner.next? Rule.table = some (.error error)) :
    ∃ c rest, scanner.rest = c :: rest ∧ ¬ Acceptable c ∧ error = ⟨c, scanner.position⟩ := by
  unfold next? at stuck
  split at stuck
  · cases stuck
  · rename_i c rest remaining
    unfold Lexeme.first at stuck
    split at stuck
    · cases stuck
    · rename_i missed
      cases stuck
      rw [remaining] at missed
      exact ⟨c, rest, remaining, Rule.first_none c rest missed, rfl⟩

theorem next_taken (scanner later : Scanner) (moved : scanner.next? Rule.table = some (.ok later)) :
    ∃ rule ∈ Rule.table, ∃ run rest, scanner.rest = run ++ rest ∧ IsRun rule.starts rule.continues run ∧
      Stops rule.continues rest ∧
      later = ⟨scanner.position + run.byteLength, rest, ⟨rule.kind?, scanner.position, run⟩ :: scanner.taken⟩ := by
  unfold next? at moved
  split at moved
  · cases moved
  · unfold Lexeme.first at moved
    split at moved
    · rename_i rule run found
      cases moved
      obtain ⟨member, taken⟩ := Rule.first_taken Rule.table scanner.rest run rule found
      obtain ⟨rest, cut, valid, stop⟩ := (Rule.take_iff rule scanner.rest run).mp taken
      refine ⟨rule, member, run, rest, cut, valid, stop, ?_⟩
      simp [take, Lexeme.stop, cut]
    · cases moved

theorem run_scans (scanner : Scanner) :
    ∃ lexemes error?, scanner.run Rule.table = ⟨scanner.taken.reverse ++ lexemes, error?⟩ ∧
      Scans scanner.position scanner.rest (lexemes.filterMap Lexeme.token?) error? := by
  fun_induction scanner.run Rule.table with
  | case1 scanner nothing =>
      refine ⟨[], none, by simp [halt], ?_⟩
      rw [next_none scanner nothing]
      exact .done scanner.position
  | case2 scanner error stuck =>
      obtain ⟨c, rest, remaining, foreign, rfl⟩ := next_refused scanner error stuck
      refine ⟨[], some ⟨c, scanner.position⟩, by simp [halt], ?_⟩
      rw [remaining]
      exact .refused scanner.position c rest foreign
  | case3 scanner later moved ih =>
      obtain ⟨rule, member, run, rest, cut, valid, stop, rfl⟩ := next_taken scanner later moved
      obtain ⟨lexemes, error?, ran, scan⟩ := ih
      refine ⟨⟨rule.kind?, scanner.position, run⟩ :: lexemes, error?, by simp [ran], ?_⟩
      rw [cut]
      rcases Rule.table_languages rule member with ⟨kindless, starts, continues⟩ | ⟨kind, kindful, starts, continues⟩
      · have blanks : ∀ c ∈ run, isBlank c = true := by
          intro c among
          have taken := run_each _ _ run valid c among
          rwa [starts, continues, or_self] at taken
        rw [kindless, List.filterMap_cons_none (Lexeme.token_skipped scanner.position run)]
        exact (scans_blanks scanner.position run rest _ error? blanks).mpr scan
      · rw [starts, continues] at valid
        rw [continues] at stop
        rw [kindful, List.filterMap_cons_some (Lexeme.token_placed kind scanner.position run)]
        exact .token scanner.position kind run rest _ error? valid stop scan

end Scanner

theorem source_scans (source : Text) :
    Scans 0 source (Scan.ofSource Rule.table source).tokens (Scan.ofSource Rule.table source).error? := by
  obtain ⟨lexemes, error?, ran, scan⟩ := (Scanner.begin source).run_scans
  rw [Scan.ofSource, ran]
  exact scan

theorem tokenize_scans (source : Text) (tokens : List Token) (error? : Option LexError)
    (scan : Scans 0 source tokens error?) :
    tokenize source = error?.elim (.ok (tokens ++ [.endOfInput source.byteLength])) .error := by
  obtain ⟨rfl, rfl⟩ := scans_unique 0 source tokens _ error? _ scan (source_scans source)
  simp only [tokenize, tokenizeWith]
  cases (Scan.ofSource Rule.table source).error? with
  | none => rfl
  | some error => rfl

theorem tokenize_ok_iff (source : Text) (tokens : List Token) :
    tokenize source = .ok tokens ↔
      ∃ body, Scans 0 source body none ∧ tokens = body ++ [.endOfInput source.byteLength] := by
  constructor
  · intro done
    have scan := source_scans source
    rw [tokenize_scans source _ _ scan] at done
    cases ended : (Scan.ofSource Rule.table source).error? with
    | none =>
        rw [ended] at done scan
        exact ⟨_, scan, (Except.ok.inj done).symm⟩
    | some error =>
        rw [ended] at done
        cases done
  · intro scanned
    obtain ⟨body, scan, rfl⟩ := scanned
    exact tokenize_scans source body none scan

theorem tokenize_error_iff (source : Text) (error : LexError) :
    tokenize source = .error error ↔ ∃ body, Scans 0 source body (some error) := by
  constructor
  · intro failed
    have scan := source_scans source
    rw [tokenize_scans source _ _ scan] at failed
    cases ended : (Scan.ofSource Rule.table source).error? with
    | none =>
        rw [ended] at failed
        cases failed
    | some other =>
        rw [ended] at failed scan
        cases failed
        exact ⟨_, scan⟩
  · intro scanned
    obtain ⟨body, scan⟩ := scanned
    exact tokenize_scans source body (some error) scan

end ArithScan
