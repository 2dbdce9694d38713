import ArithScan.Proofs.Acceptance
import ArithScan.Proofs.Stepping
import Mathlib.Logic.Function.Iterate

set_option autoImplicit false

namespace ArithScan

namespace Session

def proceed (session : Session) : Session := (session.answer (.next true)).2

end Session

namespace Scanner

def session (source : Text) (scanner : Scanner) : Session :=
  ⟨source, scanner.position, scanner.taken.reverse.filterMap Lexeme.token?⟩

def Cuts (source : Text) (scanner : Scanner) : Prop :=
  ∃ before, source = before ++ scanner.rest ∧ before.byteLength = scanner.position

def Answers (source : Text) (scanner : Scanner) (reply : Reply × Session) : Option (Except LexError Scanner) → Prop
  | none => reply = (.nothingLeft, scanner.session source)
  | some (.error error) => reply = (.refused error, scanner.session source)
  | some (.ok later) => later.Cuts source ∧ scanner.position < later.position ∧
      ∃ token?, reply = (.stepped token? later.position, later.session source)

theorem cut_reads (source : Text) (scanner : Scanner) (cuts : scanner.Cuts source) :
    source.dropBytes scanner.position = scanner.rest := by
  obtain ⟨before, cut, place⟩ := cuts
  rw [← place, cut, Text.drop_bytes_split]

theorem take_cuts (source : Text) (scanner : Scanner) (lexeme : Lexeme) (c : Char) (cuts : scanner.Cuts source)
    (found : Lexeme.first Rule.table scanner.rest scanner.position c = .ok lexeme) :
    (scanner.take lexeme).Cuts source ∧ scanner.position < (scanner.take lexeme).position := by
  obtain ⟨before, cut, place⟩ := cuts
  obtain ⟨nonempty, rest, split⟩ := Lexeme.lexeme_leads _ _ _ _ _ found
  have begins := lexeme_starts _ _ _ _ _ found
  have wide := Text.byte_length_pos lexeme.text nonempty
  refine ⟨⟨before ++ lexeme.text, ?_, ?_⟩, ?_⟩
  · rw [take, ← split, List.drop_left, List.append_assoc, split, cut]
  · rw [take, Lexeme.stop, begins, Text.byte_length_append, place]
  · rw [take, Lexeme.stop, begins]
    exact Nat.lt_add_of_pos_right wide

theorem take_session (source : Text) (scanner : Scanner) (lexeme : Lexeme) :
    (scanner.take lexeme).session source = (scanner.session source).pass lexeme true := by
  simp only [session, take, Session.pass, List.reverse_cons, List.filterMap_append, if_true]
  cases made : lexeme.token? <;> simp [made]

theorem next_first (table : List Rule) (scanner : Scanner) (c : Char) (tail : Text) (rest : scanner.rest = c :: tail) :
    scanner.next? table = some ((Lexeme.first table scanner.rest scanner.position c).map scanner.take) := by
  unfold next?
  split
  · rename_i nothing
    rw [rest] at nothing
    cases nothing
  · rename_i d others same
    rw [rest] at same
    cases same
    rfl

theorem session_answers (source : Text) (scanner : Scanner) (cuts : scanner.Cuts source) :
    scanner.Answers source ((scanner.session source).answer (.next true)) (scanner.next? Rule.table) := by
  have reads := cut_reads source scanner cuts
  cases rest : scanner.rest with
  | nil =>
      have nothing : source.charAt? scanner.position = none := by rw [Text.charAt?, reads, rest]; rfl
      simp [next?, rest, Answers, Session.answer, session, nothing]
  | cons c tail =>
      have found : source.charAt? scanner.position = some c := by rw [Text.charAt?, reads, rest]; rfl
      have answer : (scanner.session source).answer (.next true) =
          (scanner.session source).step scanner.position c true := by
        simp only [Session.answer, session, found]
      rw [next_first Rule.table scanner c tail rest, answer, Session.step, Lexeme.scanAt,
        show (scanner.session source).source = source from rfl, reads]
      cases made : Lexeme.first Rule.table scanner.rest scanner.position c with
      | error error => rfl
      | ok lexeme =>
          obtain ⟨later, ahead⟩ := take_cuts source scanner lexeme c cuts made
          exact ⟨later, ahead, lexeme.token?, by rw [take_session]; rfl⟩

end Scanner

namespace Scan

def stop (source : Text) (scan : Scan) : Nat := scan.error?.elim source.byteLength LexError.position

end Scan

end ArithScan
