import ArithScan.Lexeme

set_option autoImplicit false

namespace ArithScan

-- The lexemes taken so far are kept with the latest first.
structure Scanner where
  position : Nat
  rest : Text
  taken : List Lexeme
deriving DecidableEq

structure Scan where
  lexemes : List Lexeme
  error? : Option LexError
deriving DecidableEq

namespace Scanner

def begin (source : Text) : Scanner := ⟨0, source, []⟩

def take (scanner : Scanner) (lexeme : Lexeme) : Scanner :=
  ⟨lexeme.stop, scanner.rest.drop lexeme.text.length, lexeme :: scanner.taken⟩

def next? (table : List Rule) (scanner : Scanner) : Option (Except LexError Scanner) :=
  match scanner.rest with
  | [] => none
  | current :: _ => some ((Lexeme.first table scanner.rest scanner.position current).map scanner.take)

def halt (scanner : Scanner) (error? : Option LexError) : Scan :=
  ⟨scanner.taken.reverse, error?⟩

theorem next_shortens (table : List Rule) (scanner later : Scanner)
    (moved : scanner.next? table = some (.ok later)) : later.rest.length < scanner.rest.length := by
  unfold next? at moved
  split at moved
  · cases moved
  · rename_i current tail remaining
    cases found : Lexeme.first table scanner.rest scanner.position current with
    | error _ =>
        rw [found] at moved
        cases moved
    | ok lexeme =>
        rw [found] at moved
        cases moved
        have nonempty := List.length_pos_iff.mpr (Lexeme.lexeme_leads _ _ _ _ _ found).1
        have someLeft : 0 < scanner.rest.length := by simp [remaining]
        simp only [take, List.length_drop]
        omega

def run (table : List Rule) (scanner : Scanner) : Scan :=
  match _ : scanner.next? table with
  | none => scanner.halt none
  | some (.error error) => scanner.halt (some error)
  | some (.ok later) => later.run table
termination_by scanner.rest.length
decreasing_by exact next_shortens table scanner later ‹_›

end Scanner

namespace Scan

def ofSource (table : List Rule) (source : Text) : Scan :=
  (Scanner.begin source).run table

def tokens (scan : Scan) : List Token :=
  scan.lexemes.filterMap Lexeme.token?

end Scan

def tokenizeWith (table : List Rule) (source : Text) : Except LexError (List Token) :=
  let scan := Scan.ofSource table source
  match scan.error? with
  | some error => .error error
  | none => .ok (scan.tokens ++ [.endOfInput source.byteLength])

def tokenize (source : Text) : Except LexError (List Token) :=
  tokenizeWith Rule.table source

end ArithScan
