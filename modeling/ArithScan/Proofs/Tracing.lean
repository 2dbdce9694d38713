import ArithScan.Proofs.Acceptance
import ArithScan.Proofs.Tokenization
import ArithScan.Trace

set_option autoImplicit false

namespace ArithScan

-- The events of a scanner that goes on with a source of a length: the token of each
-- lexeme as it is taken, and one event more where the source ends or is refused.
inductive Emits (length : Nat) : Scanner → List Event → Prop where
  | finished (scanner : Scanner) (nothing : scanner.next? Rule.table = none) :
      Emits length scanner [.scanned (.endOfInput length)]
  | refused (scanner : Scanner) (error : LexError) (stuck : scanner.next? Rule.table = some (.error error)) :
      Emits length scanner [.unrecognised error]
  | moved (scanner : Scanner) (lexeme : Lexeme) (events : List Event)
      (moves : scanner.next? Rule.table = some (.ok (scanner.take lexeme)))
      (later : Emits length (scanner.take lexeme) events) :
      Emits length scanner (lexeme.token?.toList.map .scanned ++ events)

theorem take_injective (scanner : Scanner) (a b : Lexeme) (same : scanner.take a = scanner.take b) : a = b :=
  (List.cons.inj (congrArg Scanner.taken same)).1

theorem emits_unique (length : Nat) (scanner : Scanner) (events events' : List Event)
    (left : Emits length scanner events) (right : Emits length scanner events') : events = events' := by
  induction left generalizing events' with
  | finished scanner nothing =>
      cases right with
      | finished => rfl
      | refused _ error stuck => simp [nothing] at stuck
      | moved _ lexeme events moves => simp [nothing] at moves
  | refused scanner error stuck =>
      cases right with
      | finished _ nothing => simp [nothing] at stuck
      | refused _ other stuck' =>
          rw [stuck] at stuck'
          cases stuck'
          rfl
      | moved _ lexeme events moves => simp [stuck] at moves
  | moved scanner lexeme events moves _ ih =>
      cases right with
      | finished _ nothing => simp [nothing] at moves
      | refused _ error stuck => simp [stuck] at moves
      | moved _ other later moves' goesOn =>
          have same : scanner.take lexeme = scanner.take other := by simpa [moves] using moves'
          obtain rfl := take_injective scanner lexeme other same
          rw [ih later goesOn]

theorem next_take (scanner later : Scanner) (moved : scanner.next? Rule.table = some (.ok later)) :
    ∃ lexeme, later = scanner.take lexeme := by
  obtain ⟨rule, _, run, rest, cut, _, _, rfl⟩ := Scanner.next_taken scanner later moved
  refine ⟨⟨rule.kind?, scanner.position, run⟩, ?_⟩
  simp [Scanner.take, Lexeme.stop, cut]

theorem run_emits (length : Nat) (scanner : Scanner) :
    ∃ lexemes, (scanner.run Rule.table).lexemes = scanner.taken.reverse ++ lexemes ∧
      Emits length scanner
        ((lexemes.filterMap Lexeme.token?).map .scanned ++ [(scanner.run Rule.table).lastEvent length]) := by
  fun_induction scanner.run Rule.table with
  | case1 scanner nothing => exact ⟨[], (List.append_nil _).symm, .finished scanner nothing⟩
  | case2 scanner error stuck => exact ⟨[], (List.append_nil _).symm, .refused scanner error stuck⟩
  | case3 scanner later moved ih =>
      obtain ⟨lexeme, rfl⟩ := next_take scanner later moved
      obtain ⟨lexemes, ran, emits⟩ := ih
      refine ⟨lexeme :: lexemes, by rw [ran]; simp [Scanner.take], ?_⟩
      have goesOn := Emits.moved scanner lexeme _ moved emits
      cases made : lexeme.token? <;> simpa [made] using goesOn

theorem trace_emits (source : Text) (events : List Event) :
    trace source = .opened source.byteLength :: events ↔ Emits source.byteLength (.begin source) events := by
  obtain ⟨lexemes, ran, emits⟩ := run_emits source.byteLength (.begin source)
  have whole : (Scan.ofSource Rule.table source).lexemes = lexemes := ran
  rw [trace, Scan.tokens, whole, List.cons_append, List.cons.injEq, and_iff_right rfl]
  constructor
  · intro same
    exact same ▸ emits
  · exact emits_unique _ _ _ _ emits

theorem scans_traced (source : Text) (tokens : List Token) (error? : Option LexError)
    (scan : Scans 0 source tokens error?) :
    trace source = .opened source.byteLength :: (tokens.map .scanned ++
      [error?.elim (.scanned (.endOfInput source.byteLength)) .unrecognised]) := by
  obtain ⟨rfl, rfl⟩ := scans_unique 0 source tokens _ error? _ scan (source_scans source)
  rw [trace, Scan.lastEvent.eq_def]
  cases (Scan.ofSource Rule.table source).error? <;> rfl

def Event.record (event : Event) : Text × Text × List (Text × Text) := (event.level, event.name, event.fields)

def spanRecord (source : Text) : Text × Text × List (Text × Text) :=
  ("DEBUG".toList, "span tokenize".toList, [("len".toList, Text.decimal source.byteLength)])

def tokenRecord (token : Token) : Text × Text × List (Text × Text) :=
  ("TRACE".toList, "token".toList,
    [("kind".toList, token.kind.name), ("value".toList, token.value), ("start".toList, Text.decimal token.span.start)])

def refusalRecord (error : LexError) : Text × Text × List (Text × Text) :=
  ("DEBUG".toList, "unrecognised character".toList,
    [("character".toList, quoted error.character), ("offset".toList, Text.decimal error.position)])

theorem scanned_records (tokens : List Token) :
    (tokens.map Event.scanned).map Event.record = tokens.map tokenRecord := by
  rw [List.map_map]
  rfl

theorem trace_tells_tokens (source : Text) :
    ∃ events, trace source = .opened source.byteLength :: events ∧ Emits source.byteLength (.begin source) events ∧
      match tokenize source with
      | .ok tokens =>
          events = tokens.map .scanned ∧ (trace source).map Event.record = spanRecord source :: tokens.map tokenRecord
      | .error error =>
          ∃ before tokens, source.slice? 0 error.position = some before ∧ tokenize before = .ok tokens ∧
            (∀ token ∈ tokens.dropLast, token.kind ≠ .endOfInput) ∧
              events = tokens.dropLast.map .scanned ++ [.unrecognised error] ∧
                (trace source).map Event.record =
                  spanRecord source :: (tokens.dropLast.map tokenRecord ++ [refusalRecord error]) := by
  cases made : tokenize source with
  | ok tokens =>
      obtain ⟨body, scan, rfl⟩ := (tokenize_ok_iff source tokens).mp made
      have traced : trace source = .opened source.byteLength ::
          (body ++ [Token.endOfInput source.byteLength]).map .scanned := by
        rw [scans_traced source body none scan, List.map_append]
        rfl
      refine ⟨_, traced, (trace_emits source _).mp traced, rfl, ?_⟩
      rw [traced, List.map_cons, scanned_records]
      rfl
  | error error =>
      obtain ⟨body, scan⟩ := (tokenize_error_iff source error).mp made
      obtain ⟨before, after, cut, place, _, accepted⟩ := scans_refused 0 source body error scan
      have traced := scans_traced source body (some error) scan
      refine ⟨_, traced, (trace_emits source _).mp traced, before, body ++ [.endOfInput before.byteLength],
        (Text.slice_iff source before _ _).mpr ⟨[], _, cut, rfl, place.symm⟩,
        (tokenize_ok_iff before _).mpr ⟨body, accepted, rfl⟩, ?_⟩
      rw [List.dropLast_concat]
      refine ⟨?_, rfl, ?_⟩
      · intro token member
        have stands := scans_stands before [] before 0 body none rfl rfl accepted token member
        exact spells_not_end token.kind token.value stands.spelled
      · rw [traced, List.map_cons, List.map_append, scanned_records]
        rfl

end ArithScan
