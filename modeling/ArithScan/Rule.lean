import ArithScan.Text.CharClass
import ArithScan.Token

set_option autoImplicit false

namespace ArithScan

-- A rule takes a run from the start of a text: one character that may start the
-- run, then all that continue it. A run becomes a token of the kind of the rule,
-- and a run without a kind is skipped.
structure Rule where
  kind? : Option TokenKind
  starts : Char → Bool
  continues : Char → Bool

namespace Rule

def take? (rule : Rule) : Text → Option Text
  | [] => none
  | c :: rest => if rule.starts c then some (c :: rest.takeWhile rule.continues) else none

def blank : Rule := ⟨none, isBlank, isBlank⟩

def number : Rule := ⟨some .number, Char.isDigit, Char.isDigit⟩

def identifier : Rule := ⟨some .identifier, startsIdentifier, continuesIdentifier⟩

def operator : Rule := ⟨some .operator, isOperator, fun _ => false⟩

def parenthesis : Rule := ⟨some .parenthesis, isParenthesis, fun _ => false⟩

def table : List Rule := [blank, number, identifier, operator, parenthesis]

def first? (table : List Rule) (text : Text) : Option (Rule × Text) :=
  table.findSome? fun rule => (rule.take? text).map fun run => (rule, run)

theorem take_leads (rule : Rule) (text run : Text) (taken : rule.take? text = some run) :
    run ≠ [] ∧ run <+: text := by
  cases text with
  | nil => cases taken
  | cons c rest =>
      rw [take?] at taken
      split at taken
      · cases taken
        exact ⟨List.cons_ne_nil _ _, List.cons_prefix_cons.mpr ⟨rfl, List.takeWhile_prefix _⟩⟩
      · cases taken

theorem first_taken (table : List Rule) (text run : Text) (rule : Rule)
    (found : first? table text = some (rule, run)) : rule ∈ table ∧ rule.take? text = some run := by
  obtain ⟨tried, member, taken⟩ := List.exists_of_findSome?_eq_some found
  obtain ⟨part, partTaken, same⟩ := Option.map_eq_some_iff.mp taken
  cases same
  exact ⟨member, partTaken⟩

theorem first_leads (table : List Rule) (text run : Text) (rule : Rule)
    (found : first? table text = some (rule, run)) : run ≠ [] ∧ run <+: text :=
  take_leads rule text run (first_taken table text run rule found).2

end Rule

end ArithScan
