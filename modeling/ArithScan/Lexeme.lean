import ArithScan.LexError
import ArithScan.Rule

set_option autoImplicit false

namespace ArithScan

structure Lexeme where
  kind? : Option TokenKind
  start : Nat
  text : Text
deriving DecidableEq

namespace Lexeme

def stop (lexeme : Lexeme) : Nat := lexeme.start + lexeme.text.byteLength

def token? (lexeme : Lexeme) : Option Token :=
  lexeme.kind?.map fun kind => ⟨kind, lexeme.text, ⟨lexeme.start, lexeme.stop⟩⟩

-- The current character is only what an error would report.
def first (table : List Rule) (rest : Text) (position : Nat) (current : Char) : Except LexError Lexeme :=
  match Rule.first? table rest with
  | some (rule, run) => .ok ⟨rule.kind?, position, run⟩
  | none => .error ⟨current, position⟩

def scanAt (table : List Rule) (source : Text) (position : Nat) (current : Char) : Except LexError Lexeme :=
  first table (source.dropBytes position) position current

theorem lexeme_leads (table : List Rule) (rest : Text) (position : Nat) (current : Char) (lexeme : Lexeme)
    (found : first table rest position current = .ok lexeme) : lexeme.text ≠ [] ∧ lexeme.text <+: rest := by
  unfold first at found
  split at found
  · rename_i rule run taken
    cases found
    exact Rule.first_leads table rest run rule taken
  · cases found

end Lexeme

end ArithScan
