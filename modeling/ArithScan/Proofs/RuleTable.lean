import ArithScan.Proofs.Acceptance

set_option autoImplicit false

namespace ArithScan

structure LongestPrefix (holds : Text → Prop) (text run : Text) : Prop where
  leads : run <+: text
  valid : holds run
  longest : ∀ other, other <+: text → holds other → other <+: run

theorem stopped_longest (opens continues : Char → Bool) (run rest : Text) (valid : IsRun opens continues run)
    (stop : Stops continues rest) : LongestPrefix (IsRun opens continues) (run ++ rest) run where
  leads := List.prefix_append run rest
  valid := valid
  longest := by
    intro other leads longer
    rcases List.prefix_or_prefix_of_prefix leads (List.prefix_append run rest) with shorter | extended
    · exact shorter
    · obtain ⟨more, same⟩ := extended
      subst other
      cases more with
      | nil => simp
      | cons c tail =>
          -- What goes on behind the run would be the character that stops it.
          obtain ⟨_, each⟩ := run_split opens continues run (c :: tail) (run_nonempty _ _ run valid) longer
          have goesOn : continues c = true := each c List.mem_cons_self
          have head : rest.head? = some c := by
            obtain ⟨after, whole⟩ := (List.prefix_append_right_inj run).mp leads
            rw [← whole]
            rfl
          rw [stop c head] at goesOn
          cases goesOn

theorem run_stops_iff (opens continues : Char → Bool) (run rest : Text) (valid : IsRun opens continues run) :
    Stops continues rest ↔ ∀ c, rest.head? = some c → ¬ IsRun opens continues (run ++ [c]) := by
  apply Iff.intro
  · intro stop c head longer
    obtain ⟨_, each⟩ := run_split opens continues run [c] (run_nonempty _ _ run valid) longer
    have more := each c (List.mem_singleton_self c)
    rw [stop c head] at more
    cases more
  · intro longest c head
    apply Bool.eq_false_iff.mpr
    intro more
    exact longest c head (run_extend opens continues run [c] valid (List.forall_mem_singleton.mpr more))

theorem longest_stopped (opens continues : Char → Bool) (text run : Text)
    (most : LongestPrefix (IsRun opens continues) text run) : ∃ rest, text = run ++ rest ∧ Stops continues rest := by
  obtain ⟨⟨rest, cut⟩, valid, longest⟩ := most
  refine ⟨rest, cut.symm, (run_stops_iff opens continues run rest valid).mpr ?_⟩
  intro c head longer
  obtain ⟨tail, same⟩ := List.head?_eq_some_iff.mp head
  have bound := (longest (run ++ [c]) ⟨tail, by simp [← cut, same]⟩ longer).length_le
  rw [List.length_append, List.length_singleton] at bound
  omega

namespace Rule

def Reads : Option TokenKind → Text → Prop
  | none, run => run ≠ [] ∧ ∀ c ∈ run, Separates c
  | some kind, run => kind.Spells run

theorem blank_run (run : Text) : IsRun isBlank isBlank run ↔ run ≠ [] ∧ ∀ c ∈ run, Separates c := by
  simp only [← blank_iff]
  apply Iff.intro
  · intro valid
    refine ⟨run_nonempty _ _ run valid, ?_⟩
    intro c member
    have either := run_each _ _ run valid c member
    rwa [or_self] at either
  · intro blanks
    cases run with
    | nil => exact absurd rfl blanks.1
    | cons first more =>
        obtain ⟨opening, each⟩ := List.forall_mem_cons.mp blanks.2
        exact ⟨first, more, rfl, opening, each⟩

theorem table_reads (rule : Rule) (member : rule ∈ table) : IsRun rule.starts rule.continues = Reads rule.kind? := by
  funext run
  rcases table_languages rule member with ⟨kindless, starts, continues⟩ | ⟨kind, kindful, starts, continues⟩
  · rw [kindless, starts, continues]
    exact propext (blank_run run)
  · rw [kindful, starts, continues]
    rfl

theorem take_longest (rule : Rule) (member : rule ∈ table) (text run : Text) :
    rule.take? text = some run ↔ LongestPrefix (Reads rule.kind?) text run := by
  rw [take_iff, ← table_reads rule member]
  apply Iff.intro
  · intro taken
    obtain ⟨rest, cut, valid, stop⟩ := taken
    rw [cut]
    exact stopped_longest _ _ run rest valid stop
  · intro most
    obtain ⟨rest, cut, stop⟩ := longest_stopped _ _ text run most
    exact ⟨rest, cut, most.valid, stop⟩

theorem take_starts (rule : Rule) (text : Text) :
    (∃ run, rule.take? text = some run) ↔ ∃ c, text.head? = some c ∧ rule.starts c = true := by
  cases text with
  | nil => simp [take?]
  | cons c rest => simp [take?]

theorem starts_kind (a b : Rule) (left : a ∈ table) (right : b ∈ table) (c : Char) (opening : a.starts c = true)
    (opening' : b.starts c = true) : a.kind? = b.kind? := by
  rcases table_languages a left with ⟨kindless, starts, _⟩ | ⟨kind, kindful, starts, _⟩
  · rw [starts] at opening
    rcases table_languages b right with ⟨kindless', _, _⟩ | ⟨kind', _, starts', _⟩
    · rw [kindless, kindless']
    · rw [starts'] at opening'
      simp [kind'.opens_not_blank c opening'] at opening
  · rw [starts] at opening
    rcases table_languages b right with ⟨_, starts', _⟩ | ⟨kind', kindful', starts', _⟩
    · rw [starts'] at opening'
      simp [kind.opens_not_blank c opening] at opening'
    · rw [starts'] at opening'
      rw [kindful, kindful', TokenKind.opens_unique kind kind' c opening opening']

def Apart (text : Text) (a b : Rule) : Prop := a.take? text = none ∨ b.take? text = none

theorem table_kinds : table.Pairwise fun a b => a.kind? ≠ b.kind? := by
  simp [table, blank, number, identifier, operator, parenthesis]

theorem table_apart (text : Text) : table.Pairwise (Apart text) := by
  refine List.Pairwise.imp_of_mem ?_ table_kinds
  intro a b left right different
  cases taken : a.take? text with
  | none => exact .inl taken
  | some run =>
      obtain ⟨c, head, opening⟩ := (take_starts a text).mp ⟨run, taken⟩
      apply Or.inr
      apply Option.eq_none_iff_forall_ne_some.mpr
      intro run' taken'
      obtain ⟨c', head', opening'⟩ := (take_starts b text).mp ⟨run', taken'⟩
      obtain rfl : c = c' := Option.some.inj (head.symm.trans head')
      exact different (starts_kind a b left right c opening opening')

theorem table_takes (text : Text) :
    (∃ rule ∈ table, ∃ run, rule.take? text = some run) ↔ ∃ c, text.head? = some c ∧ Acceptable c := by
  simp only [take_starts, table_starts]
  apply Iff.intro
  · intro found
    obtain ⟨rule, member, c, head, opening⟩ := found
    exact ⟨c, head, rule, member, opening⟩
  · intro found
    obtain ⟨c, head, rule, member, opening⟩ := found
    exact ⟨rule, member, c, head, opening⟩

theorem first_iff (rules : List Rule) (text run : Text) (rule : Rule) (apart : rules.Pairwise (Apart text)) :
    first? rules text = some (rule, run) ↔ rule ∈ rules ∧ rule.take? text = some run := by
  refine ⟨first_taken rules text run rule, ?_⟩
  intro among
  obtain ⟨member, taken⟩ := among
  induction rules with
  | nil => cases member
  | cons head later ih =>
      obtain ⟨ahead, apart⟩ := List.pairwise_cons.mp apart
      rw [first?, List.findSome?_cons]
      cases member with
      | head => rw [taken, Option.map_some]
      | tail _ found =>
          have missed : head.take? text = none := by
            apply (ahead rule found).resolve_right
            rw [taken]
            exact Option.some_ne_none run
          rw [missed, Option.map_none]
          exact ih apart found

theorem first_permuted (rules : List Rule) (order : rules.Perm table) (text : Text) :
    first? rules text = first? table text := by
  have apart : rules.Pairwise (Apart text) :=
    (order.pairwise_iff fun {a b} (either : Apart text a b) => Or.symm either).mpr (table_apart text)
  apply Option.ext
  intro found
  obtain ⟨rule, run⟩ := found
  rw [first_iff rules text run rule apart,
    first_iff table text run rule (table_apart text), order.mem_iff]

end Rule

theorem run_step (rules : List Rule) (scanner : Scanner) :
    scanner.run rules =
      match scanner.next? rules with
      | none => scanner.halt none
      | some (.error error) => scanner.halt (some error)
      | some (.ok later) => later.run rules := by
  rw [Scanner.run]
  split <;> rename_i found <;> rw [found]

-- Two tables that find the same scan the same, since a step asks a table for nothing else.
section SameSearch

variable {left right : List Rule} (same : ∀ text, Rule.first? left text = Rule.first? right text)

include same

theorem first_congr (rest : Text) (position : Nat) (current : Char) :
    Lexeme.first left rest position current = Lexeme.first right rest position current := by
  rw [Lexeme.first, Lexeme.first, same]

theorem next_congr (scanner : Scanner) : scanner.next? left = scanner.next? right := by
  cases remaining : scanner.rest with
  | nil => simp only [Scanner.next?, remaining]
  | cons current tail => simp only [Scanner.next?, remaining, first_congr same]

theorem run_congr (scanner : Scanner) : scanner.run left = scanner.run right := by
  fun_induction scanner.run left with
  | case1 scanner nothing =>
      rw [next_congr same] at nothing
      rw [run_step right scanner, nothing]
  | case2 scanner error stuck =>
      rw [next_congr same] at stuck
      rw [run_step right scanner, stuck]
  | case3 scanner later moved ih =>
      rw [next_congr same] at moved
      rw [run_step right scanner, moved]
      exact ih

theorem tokenize_congr (source : Text) : tokenizeWith left source = tokenizeWith right source := by
  rw [tokenizeWith, tokenizeWith, Scan.ofSource, Scan.ofSource, run_congr same]

end SameSearch

theorem table_order_irrelevant (rules : List Rule) (order : rules.Perm Rule.table) :
    (∀ text,
      (Rule.table.Pairwise fun a b => a.take? text = none ∨ b.take? text = none) ∧
        (∀ rule ∈ Rule.table, ∀ run,
          rule.take? text = some run ↔ LongestPrefix (Rule.Reads rule.kind?) text run) ∧
          (∀ rule ∈ Rule.table, ∀ run, rule.take? text = some run → run ≠ []) ∧
            ((∃ rule ∈ Rule.table, ∃ run, rule.take? text = some run) ↔ ∃ c, text.head? = some c ∧ Acceptable c)) ∧
      (∀ source position current,
        Lexeme.scanAt rules source position current = Lexeme.scanAt Rule.table source position current) ∧
        ∀ source, tokenizeWith rules source = tokenize source := by
  have search := Rule.first_permuted rules order
  refine ⟨?_, ?_, tokenize_congr search⟩
  · intro text
    refine ⟨Rule.table_apart text, ?_, ?_, Rule.table_takes text⟩
    · intro rule member run
      exact Rule.take_longest rule member text run
    · intro rule _ run taken
      exact (Rule.take_leads rule text run taken).1
  · intro source position current
    exact first_congr search (source.dropBytes position) position current

theorem table_order_reversed :
    Rule.table.reverse.Perm Rule.table ∧
      Lexeme.scanAt Rule.table.reverse "é12ab".toList 2 '?' = .ok ⟨some .number, 2, "12".toList⟩ ∧
        tokenizeWith Rule.table.reverse "x1 \u00a02".toList = .error ⟨'\u00a0', 3⟩ := by
  have order := List.reverse_perm Rule.table
  obtain ⟨_, steps, scans⟩ := table_order_irrelevant Rule.table.reverse order
  have refused : tokenize "x1 \u00a02".toList = .error ⟨'\u00a0', 3⟩ :=
    (refused_iff _ _).mpr ⟨"x1 ".toList, ['2'], rfl, rfl, acceptable_each _ (by decide), by decide⟩
  exact ⟨order, (steps _ _ _).trans rfl, (scans _).trans refused⟩

end ArithScan
