import ArithScan.Proofs.Driving

set_option autoImplicit false

namespace ArithScan

def Lexeme.Matches (source : Text) (lexeme : Lexeme) : Prop :=
  ∃ rule ∈ Rule.table, rule.kind? = lexeme.kind? ∧ rule.take? (source.dropBytes lexeme.start) = some lexeme.text

def Abutting : List Lexeme → Nat → Prop
  | [], position => position = 0
  | latest :: earlier, position =>
      latest.start + latest.text.byteLength = position ∧ Abutting earlier latest.start

-- Every lexeme of a kind is a token of that kind, with its text and the bytes it takes
-- up. A lexeme without a kind is none.
def tokensOf (lexemes : List Lexeme) : List Token :=
  lexemes.flatMap fun lexeme =>
    match lexeme.kind? with
    | none => []
    | some kind => [⟨kind, lexeme.text, ⟨lexeme.start, lexeme.start + lexeme.text.byteLength⟩⟩]

theorem tokens_of_kept (lexemes : List Lexeme) : lexemes.filterMap Lexeme.token? = tokensOf lexemes := by
  induction lexemes with
  | nil => rfl
  | cons lexeme later ih =>
      rw [tokensOf, List.flatMap_cons, ← tokensOf, ← ih, List.filterMap_cons, Lexeme.token?]
      cases lexeme.kind? <;> rfl

namespace Scanner

inductive Reached (source : Text) : Nat → Scanner → Prop where
  | begun : Reached source 0 (begin source)
  | turned (count : Nat) (scanner later : Scanner) (reached : Reached source count scanner)
      (moved : scanner.next? Rule.table = some (.ok later)) : Reached source (count + 1) later

def covered (scanner : Scanner) : Text := scanner.taken.reverse.flatMap Lexeme.text

-- What every turn keeps. A session that is asked for one step after the other is as far
-- and has pushed the same tokens.
structure Carries (source : Text) (count : Nat) (scanner : Scanner) : Prop where
  cut : source = scanner.covered ++ scanner.rest
  place : scanner.covered.byteLength = scanner.position
  counted : scanner.taken.length = count
  few : count + scanner.rest.length ≤ source.length
  matched : ∀ lexeme ∈ scanner.taken, lexeme.Matches source
  abutting : Abutting scanner.taken scanner.position
  pushed : (scanner.halt none).tokens = tokensOf scanner.taken.reverse
  kept : Session.proceed^[count] (Session.begin source) = ⟨source, scanner.position, tokensOf scanner.taken.reverse⟩

-- What that says in terms of the source alone.
structure Head (source : Text) (count : Nat) (scanner : Scanner) : Prop extends Carries source count scanner where
  boundary : source.IsPlace scanner.position
  bounded : scanner.position ≤ source.byteLength
  covers : source.slice? 0 scanner.position = some scanner.covered
  turns : scanner.next? Rule.table =
    (source.charAt? scanner.position).map fun current =>
      (Lexeme.scanAt Rule.table source scanner.position current).map scanner.take
  ended : source.charAt? scanner.position = none ↔ scanner.position = source.byteLength
  exits : scanner.next? Rule.table = none ↔ scanner.position = source.byteLength
  ahead : ∀ later, scanner.next? Rule.table = some (.ok later) → scanner.position < later.position

theorem carried_cuts (source : Text) (count : Nat) (scanner : Scanner) (carries : Carries source count scanner) :
    scanner.Cuts source :=
  ⟨scanner.covered, carries.cut, carries.place⟩

theorem begin_carries (source : Text) : Carries source 0 (begin source) where
  cut := rfl
  place := rfl
  counted := rfl
  few := Nat.le_of_eq (Nat.zero_add _)
  matched := List.forall_mem_nil _
  abutting := rfl
  pushed := rfl
  kept := rfl

theorem session_kept (source : Text) (scanner : Scanner) :
    scanner.session source = ⟨source, scanner.position, tokensOf scanner.taken.reverse⟩ := by
  rw [session, tokens_of_kept]

theorem turn_answers (source : Text) (count : Nat) (scanner later : Scanner) (carries : Carries source count scanner)
    (moved : scanner.next? Rule.table = some (.ok later)) :
    scanner.position < later.position ∧ (scanner.session source).proceed = later.session source := by
  have answers := scanner.session_answers source (carried_cuts source count scanner carries)
  rw [moved] at answers
  obtain ⟨_, ahead, token?, made⟩ := answers
  exact ⟨ahead, congrArg Prod.snd made⟩

theorem turn_carries (source : Text) (count : Nat) (scanner later : Scanner) (carries : Carries source count scanner)
    (moved : scanner.next? Rule.table = some (.ok later)) : Carries source (count + 1) later := by
  have shorter := next_shortens Rule.table scanner later moved
  have answered := (turn_answers source count scanner later carries moved).2
  have reads := cut_reads source scanner (carried_cuts source count scanner carries)
  obtain ⟨rule, member, run, rest, cut, valid, stop, rfl⟩ := next_taken scanner later moved
  have taken := (Rule.take_iff rule (run ++ rest) run).mpr ⟨rest, rfl, valid, stop⟩
  have fresh : (⟨rule.kind?, scanner.position, run⟩ : Lexeme).Matches source := by
    refine ⟨rule, member, rfl, ?_⟩
    rw [reads, cut]
    exact taken
  have longer : covered ⟨scanner.position + run.byteLength, rest, ⟨rule.kind?, scanner.position, run⟩ :: scanner.taken⟩ =
      scanner.covered ++ run := by simp [covered]
  refine ⟨?_, ?_, ?_, ?_, ?_, ⟨rfl, carries.abutting⟩, tokens_of_kept _, ?_⟩
  · rw [longer, List.append_assoc, ← cut, ← carries.cut]
  · rw [longer, Text.byte_length_append, carries.place]
  · rw [List.length_cons, carries.counted]
  · have few := carries.few
    omega
  · exact List.forall_mem_cons.mpr ⟨fresh, carries.matched⟩
  · rw [Function.iterate_succ_apply', carries.kept, ← session_kept, answered, session_kept]

theorem reached_carries (source : Text) (count : Nat) (scanner : Scanner) (reached : Reached source count scanner) :
    Carries source count scanner := by
  induction reached with
  | begun => exact begin_carries source
  | turned count scanner later _ moved ih => exact turn_carries source count scanner later ih moved

theorem next_scanned (source : Text) (scanner : Scanner) (cuts : scanner.Cuts source) :
    scanner.next? Rule.table =
      (source.charAt? scanner.position).map fun current =>
        (Lexeme.scanAt Rule.table source scanner.position current).map scanner.take := by
  rw [Text.charAt?, cut_reads source scanner cuts]
  cases rest : scanner.rest with
  | nil => simp only [next?, rest, List.head?_nil, Option.map_none]
  | cons c tail =>
      rw [next_first Rule.table scanner c tail rest, List.head?_cons, Option.map_some, Lexeme.scanAt,
        cut_reads source scanner cuts]

theorem carried_head (source : Text) (count : Nat) (scanner : Scanner) (carries : Carries source count scanner) :
    Head source count scanner := by
  have cuts := carried_cuts source count scanner carries
  have place : source.IsPlace scanner.position := ⟨scanner.covered, scanner.rest, carries.cut, carries.place⟩
  have turns := next_scanned source scanner cuts
  have ended := nothing_at_iff source _ place
  refine ⟨carries, place, place_bound source _ place, ?_, turns, ended, ?_, ?_⟩
  · refine (Text.slice_iff source _ _ _).mpr ⟨[], scanner.rest, carries.cut, rfl, ?_⟩
    rw [Nat.zero_add, carries.place]
  · rw [turns, Option.map_eq_none_iff, ended]
  · intro later moved
    exact (turn_answers source count scanner later carries moved).1

theorem run_reaches (source : Text) (count : Nat) (scanner : Scanner) (reached : Reached source count scanner) :
    ∃ total last, Reached source total last ∧
      ((last.next? Rule.table = none ∧ scanner.run Rule.table = last.halt none) ∨
        ∃ error, last.next? Rule.table = some (.error error) ∧ scanner.run Rule.table = last.halt (some error)) := by
  fun_induction scanner.run Rule.table generalizing count with
  | case1 scanner nothing => exact ⟨count, scanner, reached, .inl ⟨nothing, rfl⟩⟩
  | case2 scanner error stuck => exact ⟨count, scanner, reached, .inr ⟨error, stuck, rfl⟩⟩
  | case3 scanner later moved ih => exact ih (count + 1) (.turned count scanner later reached moved)

theorem loop_covers_source (source : Text) :
    (∀ count scanner, Reached source count scanner → Head source count scanner) ∧
      ∃ count last, Reached source count last ∧ count ≤ source.length ∧
        match tokenize source with
        | .ok tokens =>
            last.next? Rule.table = none ∧ last.position = source.byteLength ∧ last.covered = source ∧
              tokens = tokensOf last.taken.reverse ++ [⟨.endOfInput, [], ⟨source.byteLength, source.byteLength⟩⟩]
        | .error error => last.next? Rule.table = some (.error error) := by
  have heads : ∀ count scanner, Reached source count scanner → Head source count scanner := by
    intro count scanner reached
    exact carried_head source count scanner (reached_carries source count scanner reached)
  refine ⟨heads, ?_⟩
  obtain ⟨count, last, reached, ends⟩ := run_reaches source 0 (begin source) .begun
  have carries := reached_carries source count last reached
  refine ⟨count, last, reached, Nat.le_trans (Nat.le_add_right count _) carries.few, ?_⟩
  rcases ends with ⟨nothing, ran⟩ | ⟨error, stuck, ran⟩
  · have whole : source = last.covered := by
      have cut := carries.cut
      rwa [next_none last nothing, List.append_nil] at cut
    rw [tokenize, tokenizeWith, Scan.ofSource, ran]
    refine ⟨nothing, by rw [← carries.place, ← whole], whole.symm, ?_⟩
    rw [← carries.pushed]
    rfl
  · rw [tokenize, tokenizeWith, Scan.ofSource, ran]
    exact stuck

theorem loop_covers_source_wide :
    Reached "1\u3000ab".toList 3
        ⟨6, [], [⟨some .identifier, 4, "ab".toList⟩, ⟨none, 1, "\u3000".toList⟩, ⟨some .number, 0, "1".toList⟩]⟩ ∧
      Head "1\u3000ab".toList 3
          ⟨6, [], [⟨some .identifier, 4, "ab".toList⟩, ⟨none, 1, "\u3000".toList⟩, ⟨some .number, 0, "1".toList⟩]⟩ ∧
        (Session.proceed^[3] (Session.begin "1\u3000ab".toList)).pushed =
          [⟨.number, "1".toList, ⟨0, 1⟩⟩, ⟨.identifier, "ab".toList, ⟨4, 6⟩⟩] := by
  have first : Reached "1\u3000ab".toList 1 ⟨1, "\u3000ab".toList, [⟨some .number, 0, "1".toList⟩]⟩ :=
    .turned 0 (begin "1\u3000ab".toList) _ .begun rfl
  have second := Reached.turned 1 _ ⟨4, "ab".toList, [⟨none, 1, "\u3000".toList⟩, ⟨some .number, 0, "1".toList⟩]⟩ first rfl
  have third := Reached.turned 2 _
    ⟨6, [], [⟨some .identifier, 4, "ab".toList⟩, ⟨none, 1, "\u3000".toList⟩, ⟨some .number, 0, "1".toList⟩]⟩ second rfl
  have head := (loop_covers_source _).1 3 _ third
  exact ⟨third, head, congrArg Session.pushed head.kept⟩

end Scanner

end ArithScan
