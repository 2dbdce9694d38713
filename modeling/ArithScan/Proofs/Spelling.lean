import ArithScan.Proofs.Alphabet
import ArithScan.Rule

set_option autoImplicit false

namespace ArithScan

def IsRun (opens continues : Char → Bool) (run : Text) : Prop :=
  ∃ first more, run = first :: more ∧ opens first = true ∧ ∀ c ∈ more, continues c = true

-- Where a run stops it could not have been longer.
def Stops (continues : Char → Bool) (rest : Text) : Prop :=
  ∀ c ∈ rest.head?, continues c = false

def TokenKind.Spells (kind : TokenKind) (value : Text) : Prop := IsRun kind.opens kind.continues value

theorem run_nonempty (opens continues : Char → Bool) (run : Text) (valid : IsRun opens continues run) : run ≠ [] := by
  obtain ⟨first, more, rfl, _, _⟩ := valid
  exact List.cons_ne_nil first more

theorem run_each (opens continues : Char → Bool) (run : Text) (valid : IsRun opens continues run) :
    ∀ c ∈ run, opens c = true ∨ continues c = true := by
  obtain ⟨first, more, rfl, opening, each⟩ := valid
  exact List.forall_mem_cons.mpr ⟨.inl opening, fun c member => .inr (each c member)⟩

theorem run_extend (opens continues : Char → Bool) (run more : Text) (valid : IsRun opens continues run)
    (longer : ∀ c ∈ more, continues c = true) : IsRun opens continues (run ++ more) := by
  obtain ⟨first, tail, rfl, opening, each⟩ := valid
  exact ⟨first, tail ++ more, rfl, opening, List.forall_mem_append.mpr ⟨each, longer⟩⟩

theorem run_split (opens continues : Char → Bool) (left right : Text) (filled : left ≠ [])
    (valid : IsRun opens continues (left ++ right)) : IsRun opens continues left ∧ ∀ c ∈ right, continues c = true := by
  cases left with
  | nil => exact absurd rfl filled
  | cons c more =>
      obtain ⟨first, body, same, opening, each⟩ := valid
      obtain ⟨head, tail⟩ := List.cons.inj same
      subst first body
      obtain ⟨inside, behind⟩ := List.forall_mem_append.mp each
      exact ⟨⟨c, more, rfl, opening, inside⟩, behind⟩

theorem spells_acceptable (kind : TokenKind) (value : Text) (spelled : kind.Spells value) :
    ∀ c ∈ value, Acceptable c := by
  intro c member
  rcases run_each _ _ value spelled c member with opening | more
  · exact opens_acceptable kind c opening
  · exact continues_acceptable kind c more

theorem spells_not_blank (kind : TokenKind) (value : Text) (spelled : kind.Spells value) :
    ∀ c ∈ value, isBlank c = false := by
  intro c member
  rcases run_each _ _ value spelled c member with opening | more
  · exact kind.opens_not_blank c opening
  · exact kind.continues_not_blank c more

theorem spells_no_blank (kind : TokenKind) (value : Text) (spelled : kind.Spells value) (c : Char)
    (blank : isBlank c = true) : c ∉ value := by
  intro member
  rw [spells_not_blank kind value spelled c member] at blank
  cases blank

theorem spells_narrow (kind : TokenKind) (value : Text) (spelled : kind.Spells value) : ∀ c ∈ value, c.utf8Size = 1 := by
  intro c member
  rcases run_each _ _ value spelled c member with opening | more
  · exact kind.opens_narrow c opening
  · rcases kind.continues_opens c more with digit | letter
    · exact TokenKind.opens_narrow .number c digit
    · exact TokenKind.opens_narrow .identifier c letter

theorem digits_spell (digits : Text) (filled : digits ≠ []) (numeric : ∀ d ∈ digits, d.isDigit = true) :
    TokenKind.number.Spells digits := by
  cases digits with
  | nil => exact absurd rfl filled
  | cons c more =>
      obtain ⟨opening, others⟩ := List.forall_mem_cons.mp numeric
      exact ⟨c, more, rfl, opening, others⟩

theorem spells_not_end (kind : TokenKind) (value : Text) (spelled : kind.Spells value) : kind ≠ .endOfInput := by
  intro same
  subst same
  obtain ⟨_, _, _, opening, _⟩ := spelled
  cases opening

theorem stops_nil (continues : Char → Bool) : Stops continues [] := by
  simp [Stops]

theorem stops_append (continues : Char → Bool) (a b : Text) (nonempty : a ≠ []) :
    Stops continues (a ++ b) ↔ Stops continues a := by
  cases a with
  | nil => exact absurd rfl nonempty
  | cons c rest => rfl

theorem stops_left (continues : Char → Bool) (a b : Text) (stop : Stops continues (a ++ b)) : Stops continues a := by
  cases a with
  | nil => exact stops_nil continues
  | cons c rest => exact stop

theorem blank_stops (kind : TokenKind) (c : Char) (rest : Text) (blank : isBlank c = true) :
    Stops kind.continues (c :: rest) := by
  intro d head
  obtain rfl : c = d := Option.some.inj head
  apply Bool.eq_false_iff.mpr
  intro more
  rw [kind.continues_not_blank c more] at blank
  cases blank

theorem stops_digits (kind : TokenKind) (c : Char) (rest : Text) (more : kind.continues c = true)
    (stop : Stops kind.continues rest) : Stops TokenKind.number.continues rest := by
  intro d head
  apply Bool.eq_false_iff.mpr
  intro digit
  exact absurd (kind.continues_digit c d more digit) (Bool.eq_false_iff.mp (stop d head))

theorem take_while_stops (continues : Char → Bool) (run rest : Text) (each : ∀ c ∈ run, continues c = true)
    (stop : Stops continues rest) : (run ++ rest).takeWhile continues = run := by
  rw [List.takeWhile_append_of_pos each]
  cases rest with
  | nil => simp
  | cons c tail => simp [stop c rfl]

theorem run_unique (opens continues : Char → Bool) (a b rest rest' : Text)
    (left : IsRun opens continues a) (right : IsRun opens continues b) (same : a ++ rest = b ++ rest')
    (stop : Stops continues rest) (stop' : Stops continues rest') : a = b ∧ rest = rest' := by
  obtain ⟨first, more, rfl, _, each⟩ := left
  obtain ⟨first', more', rfl, _, each'⟩ := right
  obtain ⟨head, tail⟩ : first = first' ∧ more ++ rest = more' ++ rest' := List.cons.inj same
  have runs : more = more' := by
    rw [← take_while_stops continues more rest each stop, tail, take_while_stops continues more' rest' each' stop']
  subst head runs
  exact ⟨rfl, List.append_cancel_left tail⟩

namespace Rule

theorem take_iff (rule : Rule) (text run : Text) :
    rule.take? text = some run ↔
      ∃ rest, text = run ++ rest ∧ IsRun rule.starts rule.continues run ∧ Stops rule.continues rest := by
  constructor
  · intro taken
    cases text with
    | nil => cases taken
    | cons c rest =>
        rw [take?] at taken
        split at taken
        · rename_i opening
          cases taken
          refine ⟨rest.dropWhile rule.continues, ?_, ⟨c, _, rfl, opening, ?_⟩, ?_⟩
          · rw [List.cons_append, List.takeWhile_append_dropWhile]
          · exact List.all_eq_true.mp List.all_takeWhile
          · intro d head
            have failed := List.head?_dropWhile_not rule.continues rest
            simpa [Option.mem_def.mp head] using failed
        · cases taken
  · intro leading
    obtain ⟨rest, rfl, ⟨c, more, rfl, opening, each⟩, stop⟩ := leading
    rw [List.cons_append, take?, if_pos opening, take_while_stops rule.continues more rest each stop]

theorem table_languages (rule : Rule) (member : rule ∈ table) :
    (rule.kind? = none ∧ rule.starts = isBlank ∧ rule.continues = isBlank) ∨
      ∃ kind, rule.kind? = some kind ∧ rule.starts = kind.opens ∧ rule.continues = kind.continues := by
  simp only [table, List.mem_cons, List.not_mem_nil, or_false] at member
  rcases member with rfl | rfl | rfl | rfl | rfl
  · exact .inl ⟨rfl, rfl, rfl⟩
  · exact .inr ⟨.number, rfl, rfl, rfl⟩
  · exact .inr ⟨.identifier, rfl, rfl, rfl⟩
  · refine .inr ⟨.operator, rfl, ?_, rfl⟩
    funext c
    rw [Bool.eq_iff_iff]
    simp [operator, isOperator, TokenKind.opens, or_assoc]
  · refine .inr ⟨.parenthesis, rfl, ?_, rfl⟩
    funext c
    rw [Bool.eq_iff_iff]
    simp [parenthesis, isParenthesis, TokenKind.opens]

theorem table_starts (c : Char) : Acceptable c ↔ ∃ rule ∈ table, rule.starts c = true := by
  simp [Acceptable, ← blank_iff, table, blank, number, identifier, operator, parenthesis, startsIdentifier, isOperator,
    isParenthesis, or_assoc]

theorem first_none (c : Char) (rest : Text) (missed : first? table (c :: rest) = none) : ¬ Acceptable c := by
  intro acceptable
  obtain ⟨rule, member, opening⟩ := (table_starts c).mp acceptable
  have untaken := List.findSome?_eq_none_iff.mp missed rule member
  simp [take?, opening] at untaken

end Rule

end ArithScan
