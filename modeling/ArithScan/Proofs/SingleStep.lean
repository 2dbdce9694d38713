import ArithScan.Proofs.Joining
import ArithScan.Proofs.Locating
import ArithScan.Proofs.RuleTable
import ArithScan.Proofs.Stepping

set_option autoImplicit false

namespace ArithScan

namespace Rule

theorem take_whole_iff (rule : Rule) (member : rule ∈ table) (run after : Text) :
    rule.take? (run ++ after) = some run ↔
      Reads rule.kind? run ∧ ∀ c, after.head? = some c → ¬ Reads rule.kind? (run ++ [c]) := by
  rw [take_iff, ← table_reads rule member]
  apply Iff.intro
  · intro taken
    obtain ⟨rest, cut, valid, stop⟩ := taken
    obtain rfl := List.append_cancel_left cut
    exact ⟨valid, (run_stops_iff _ _ run after valid).mp stop⟩
  · intro whole
    exact ⟨after, rfl, whole.1, (run_stops_iff _ _ run after whole.1).mpr whole.2⟩

theorem reads_rule (kind? : Option TokenKind) (run : Text) (reads : Reads kind? run) :
    ∃ rule ∈ table, rule.kind? = kind? := by
  cases kind? with
  | none => exact ⟨blank, by simp [table], rfl⟩
  | some kind =>
      cases kind with
      | number => exact ⟨number, by simp [table], rfl⟩
      | identifier => exact ⟨identifier, by simp [table], rfl⟩
      | operator => exact ⟨operator, by simp [table], rfl⟩
      | parenthesis => exact ⟨parenthesis, by simp [table], rfl⟩
      | endOfInput => exact absurd rfl (spells_not_end _ run reads)

theorem first_whole_iff (kind? : Option TokenKind) (run after : Text) :
    (∃ rule, first? table (run ++ after) = some (rule, run) ∧ rule.kind? = kind?) ↔
      Reads kind? run ∧ ∀ c, after.head? = some c → ¬ Reads kind? (run ++ [c]) := by
  apply Iff.intro
  · intro found
    obtain ⟨rule, first, rfl⟩ := found
    obtain ⟨member, taken⟩ := first_taken table _ run rule first
    exact (take_whole_iff rule member run after).mp taken
  · intro whole
    obtain ⟨rule, member, rfl⟩ := reads_rule kind? run whole.1
    have taken := (take_whole_iff rule member run after).mpr whole
    exact ⟨rule, (first_iff table _ run rule (table_apart _)).mpr ⟨member, taken⟩, rfl⟩

end Rule

-- What a step takes from a source at a position: a run that no character more would
-- continue, and the token of its kind, unless the run is blank.
structure RunAt (source : Text) (position : Nat) (token? : Option Token) (stop : Nat) (run : Text) : Prop
    extends Taken source position token? stop run where
  ahead : position < stop
  fits : position + run.byteLength = stop
  inside : stop ≤ source.byteLength
  place : source.IsPlace stop
  skipped : token? = none ↔ ∀ c ∈ run, Separates c
  reads : Rule.Reads (token?.map Token.kind) run
  longest : ∀ c, source.charAt? stop = some c → ¬ Rule.Reads (token?.map Token.kind) (run ++ [c])

theorem token_kind (lexeme : Lexeme) : lexeme.token?.map Token.kind = lexeme.kind? := by
  rw [Lexeme.token?, Option.map_map]
  exact Option.map_id'

theorem reads_skipped (lexeme : Lexeme) (reads : Rule.Reads lexeme.kind? lexeme.text) :
    lexeme.token? = none ↔ ∀ c ∈ lexeme.text, Separates c := by
  obtain ⟨kind?, start, run⟩ := lexeme
  cases kind? with
  | none => exact iff_of_true rfl reads.2
  | some kind =>
      refine iff_of_false (Option.some_ne_none _) ?_
      intro blanks
      obtain ⟨c, member⟩ := List.exists_mem_of_ne_nil run (run_nonempty _ _ run reads)
      exact spells_no_blank kind run reads c ((blank_iff c).mpr (blanks c member)) member

theorem scan_found (source : Text) (position : Nat) (current : Char) (lexeme : Lexeme)
    (found : Lexeme.scanAt Rule.table source position current = .ok lexeme) :
    ∃ rule, Rule.first? Rule.table (source.dropBytes position) = some (rule, lexeme.text) ∧
      lexeme = ⟨rule.kind?, position, lexeme.text⟩ := by
  unfold Lexeme.scanAt Lexeme.first at found
  split at found
  · rename_i rule run first
    cases found
    exact ⟨rule, first, rfl⟩
  · cases found

theorem scan_run_at (source : Text) (position : Nat) (current : Char) (lexeme : Lexeme)
    (found : Lexeme.scanAt Rule.table source position current = .ok lexeme) :
    RunAt source position lexeme.token? lexeme.stop lexeme.text := by
  have taken := scan_taken source position current lexeme found
  obtain ⟨ahead, inside⟩ := taken_bounds source _ position _ _ taken
  obtain ⟨after, rest, next, fits⟩ := Text.slice_reads source _ _ _ taken.shown
  obtain ⟨rule, first, made⟩ := scan_found source position current lexeme found
  have kind : rule.kind? = lexeme.kind? := (congrArg Lexeme.kind? made).symm
  rw [rest] at first
  obtain ⟨reads, longest⟩ := (Rule.first_whole_iff lexeme.kind? lexeme.text after).mp ⟨rule, first, kind⟩
  refine ⟨taken, ahead, fits, inside, taken_place source _ position _ _ taken, reads_skipped lexeme reads, ?_, ?_⟩
  · rwa [token_kind]
  · intro c here
    rw [token_kind]
    exact longest c (next.symm.trans here)

theorem run_at_scan (source run : Text) (position stop : Nat) (token? : Option Token) (current : Char)
    (taken : RunAt source position token? stop run) :
    ∃ lexeme, Lexeme.scanAt Rule.table source position current = .ok lexeme ∧ lexeme.token? = token? ∧
      lexeme.stop = stop := by
  obtain ⟨after, rest, next, fits⟩ := Text.slice_reads source run position stop taken.shown
  have longest : ∀ c, after.head? = some c → ¬ Rule.Reads (token?.map Token.kind) (run ++ [c]) := by
    intro c head
    exact taken.longest c (next.trans head)
  obtain ⟨rule, first, kind⟩ := (Rule.first_whole_iff _ run after).mpr ⟨taken.reads, longest⟩
  refine ⟨⟨token?.map Token.kind, position, run⟩, ?_, ?_, fits⟩
  · rw [Lexeme.scanAt, Lexeme.first, rest, first, ← kind]
  · cases token? with
    | none => rfl
    | some token =>
        obtain ⟨kind, rfl⟩ := taken.made token rfl
        rw [← fits]
        rfl

structure Text.OpensAt (source : Text) (position : Nat) : Prop where
  inside : position < source.byteLength
  place : source.IsPlace position
  accepted : ∃ c, source.charAt? position = some c ∧ Acceptable c

theorem opens_at_iff (source : Text) (position : Nat) :
    source.OpensAt position ↔ ∃ c, source.charAt? position = some c ∧ Acceptable c := by
  refine ⟨Text.OpensAt.accepted, ?_⟩
  intro opening
  obtain ⟨c, here, acceptable⟩ := opening
  have reached : source.dropBytes position ≠ [] := by
    intro nothing
    rw [Text.charAt?, nothing] at here
    cases here
  obtain ⟨before, cut, place⟩ := drop_bytes_place source position reached
  refine ⟨?_, ⟨before, _, cut, place⟩, c, here, acceptable⟩
  have wide := Text.byte_length_pos _ reached
  rw [cut, Text.byte_length_append, place]
  exact Nat.lt_add_of_pos_right wide

theorem scan_opens_iff (source : Text) (position : Nat) (current : Char) :
    (∃ lexeme, Lexeme.scanAt Rule.table source position current = .ok lexeme) ↔ source.OpensAt position := by
  rw [opens_at_iff, Text.charAt?, ← Rule.table_takes]
  apply Iff.intro
  · intro scanned
    obtain ⟨lexeme, found⟩ := scanned
    obtain ⟨rule, first, _⟩ := scan_found source position current lexeme found
    obtain ⟨member, taken⟩ := Rule.first_taken _ _ _ _ first
    exact ⟨rule, member, lexeme.text, taken⟩
  · intro taken
    obtain ⟨rule, member, run, taken⟩ := taken
    have first := (Rule.first_iff Rule.table _ run rule (Rule.table_apart _)).mpr ⟨member, taken⟩
    refine ⟨⟨rule.kind?, position, run⟩, ?_⟩
    rw [Lexeme.scanAt, Lexeme.first, first]

theorem drop_bytes_behind (before text : Text) (offset : Nat) :
    Text.dropBytes (before ++ text) (before.byteLength + offset) = text.dropBytes offset := by
  unfold Text.dropBytes
  rw [char_index_append]
  cases text.charIndex? offset with
  | none => rfl
  | some index => exact List.drop_length_add_append index

def Reply.shift (offset : Nat) : Reply → Reply
  | .stepped token? stop => .stepped (token?.map (Token.shift offset)) (offset + stop)
  | .refused error => .refused (error.shift offset)
  | reply => reply

namespace Session

theorem step_behind (session : Session) (before : Text) (position : Nat) (current : Char) (keep : Bool) :
    ({ session with source := before ++ session.source }.step (before.byteLength + position) current keep).1 =
      (session.step position current keep).1.shift before.byteLength := by
  unfold step Lexeme.scanAt Lexeme.first
  rw [drop_bytes_behind]
  cases Rule.first? Rule.table (session.source.dropBytes position) with
  | none => rfl
  | some found =>
      obtain ⟨rule, run⟩ := found
      cases rule with
      | mk kind? starts continues => cases kind? <;> simp [Reply.shift, Lexeme.token?, Lexeme.stop, Token.shift, Nat.add_assoc]

theorem step_scanned (session : Session) (position : Nat) (current : Char) (keep : Bool) (token? : Option Token)
    (stop : Nat) :
    (session.step position current keep).1 = .stepped token? stop ↔
      ∃ lexeme, Lexeme.scanAt Rule.table session.source position current = .ok lexeme ∧ lexeme.token? = token? ∧
        lexeme.stop = stop := by
  unfold step
  cases Lexeme.scanAt Rule.table session.source position current with
  | error error => simp
  | ok lexeme => simp

theorem step_run_iff (session : Session) (position : Nat) (current : Char) (keep : Bool) (token? : Option Token)
    (stop : Nat) :
    (session.step position current keep).1 = .stepped token? stop ↔
      ∃ run, RunAt session.source position token? stop run := by
  rw [step_scanned]
  apply Iff.intro
  · intro scanned
    obtain ⟨lexeme, found, rfl, rfl⟩ := scanned
    exact ⟨lexeme.text, scan_run_at session.source position current lexeme found⟩
  · intro taken
    obtain ⟨run, taken⟩ := taken
    exact run_at_scan session.source run position stop token? current taken

theorem step_opens_iff (session : Session) (position : Nat) (current : Char) (keep : Bool) :
    (∃ token? stop, (session.step position current keep).1 = .stepped token? stop) ↔
      session.source.OpensAt position := by
  simp only [step_scanned, ← scan_opens_iff session.source position current]
  apply Iff.intro
  · intro stepped
    obtain ⟨_, _, lexeme, found, _⟩ := stepped
    exact ⟨lexeme, found⟩
  · intro scanned
    obtain ⟨lexeme, found⟩ := scanned
    exact ⟨lexeme.token?, lexeme.stop, lexeme, found, rfl, rfl⟩

theorem step_refused_iff (session : Session) (position : Nat) (current : Char) (keep : Bool) :
    session.step position current keep = (.refused ⟨current, position⟩, session) ↔
      ¬ session.source.OpensAt position := by
  rw [← session.step_opens_iff position current keep]
  rcases session.step_cases position current keep with refused | ⟨token?, stop, run, _, moved⟩
  · simp [refused]
  · simp [moved]

theorem step_takes_or_refuses (session : Session) (position : Nat) (current : Char) (keep : Bool) :
    ((∃ token? stop, (session.step position current keep).1 = .stepped token? stop) ↔
        session.source.OpensAt position) ∧
      (∀ token? stop,
        (session.step position current keep).1 = .stepped token? stop ↔
          ∃ run, RunAt session.source position token? stop run) ∧
        (∀ other token? stop,
          (session.step position current keep).1 = .stepped token? stop ↔
            (session.step position other keep).1 = .stepped token? stop) ∧
          (session.step position current keep = (.refused ⟨current, position⟩, session) ↔
            ¬ session.source.OpensAt position) ∧
            ∀ before,
              ({ session with source := before ++ session.source }.step (before.byteLength + position) current keep).1 =
                (session.step position current keep).1.shift before.byteLength := by
  have stepped := session.step_run_iff position current keep
  refine ⟨session.step_opens_iff position current keep, stepped, ?_, session.step_refused_iff position current keep, ?_⟩
  · intro other token? stop
    rw [stepped, session.step_run_iff position other keep]
  · intro before
    exact session.step_behind before position current keep

end Session

end ArithScan
