import ArithScan.Proofs.Scanning
import ArithScan.Proofs.Slice
import ArithScan.Session

set_option autoImplicit false

namespace ArithScan

theorem drop_bytes_place (text : Text) (offset : Nat) (reached : text.dropBytes offset ≠ []) :
    ∃ before, text = before ++ text.dropBytes offset ∧ before.byteLength = offset := by
  unfold Text.dropBytes at reached ⊢
  cases place : text.charIndex? offset with
  | none => simp [place] at reached
  | some index =>
      obtain ⟨_, filled⟩ := (Text.char_index_iff text offset index).mp place
      exact ⟨text.take index, (List.take_append_drop index text).symm, filled⟩

structure Taken (source : Text) (position : Nat) (token? : Option Token) (stop : Nat) (run : Text) : Prop where
  shown : source.slice? position stop = some run
  nonempty : run ≠ []
  made : ∀ token ∈ token?, ∃ kind, token = ⟨kind, run, ⟨position, stop⟩⟩

theorem lexeme_starts (table : List Rule) (rest : Text) (position : Nat) (current : Char) (lexeme : Lexeme)
    (found : Lexeme.first table rest position current = .ok lexeme) : lexeme.start = position := by
  unfold Lexeme.first at found
  split at found
  · cases found
    rfl
  · cases found

theorem scan_taken (source : Text) (position : Nat) (current : Char) (lexeme : Lexeme)
    (found : Lexeme.scanAt Rule.table source position current = .ok lexeme) :
    Taken source position lexeme.token? lexeme.stop lexeme.text := by
  unfold Lexeme.scanAt at found
  obtain ⟨nonempty, rest, cut⟩ := Lexeme.lexeme_leads _ _ _ _ _ found
  have begins := lexeme_starts _ _ _ _ _ found
  obtain ⟨before, whole, place⟩ := drop_bytes_place source position (by simp [← cut, nonempty])
  rw [← cut, ← List.append_assoc] at whole
  refine ⟨(Text.slice_iff source _ _ _).mpr ⟨before, rest, whole, place, ?_⟩, nonempty, ?_⟩
  · rw [Lexeme.stop, begins]
  · intro token made
    obtain ⟨kind, _, rfl⟩ := Option.map_eq_some_iff.mp made
    exact ⟨kind, by rw [begins]⟩

theorem scan_refused (table : List Rule) (source : Text) (position : Nat) (current : Char) (error : LexError)
    (failed : Lexeme.scanAt table source position current = .error error) : error = ⟨current, position⟩ := by
  unfold Lexeme.scanAt Lexeme.first at failed
  split at failed
  · cases failed
  · cases failed
    rfl

theorem taken_bounds (source run : Text) (position stop : Nat) (token? : Option Token)
    (taken : Taken source position token? stop run) : position < stop ∧ stop ≤ source.byteLength := by
  obtain ⟨before, after, cut, place, ends⟩ := (Text.slice_iff source run position stop).mp taken.shown
  have wide := Text.byte_length_pos run taken.nonempty
  rw [cut, Text.byte_length_append, Text.byte_length_append]
  omega

def Text.IsPlace (text : Text) (position : Nat) : Prop :=
  ∃ before after, text = before ++ after ∧ before.byteLength = position

theorem taken_place (source run : Text) (position stop : Nat) (token? : Option Token)
    (taken : Taken source position token? stop run) : source.IsPlace stop := by
  obtain ⟨before, after, cut, place, ends⟩ := (Text.slice_iff source run position stop).mp taken.shown
  refine ⟨before ++ run, after, cut, ?_⟩
  rw [Text.byte_length_append, place, ends]

theorem place_bound (text : Text) (position : Nat) (place : text.IsPlace position) : position ≤ text.byteLength := by
  obtain ⟨before, after, rfl, rfl⟩ := place
  rw [Text.byte_length_append]
  exact Nat.le_add_right _ _

theorem nothing_at_iff (text : Text) (position : Nat) (place : text.IsPlace position) :
    text.charAt? position = none ↔ position = text.byteLength := by
  obtain ⟨before, after, rfl, rfl⟩ := place
  rw [Text.char_at_split, List.head?_eq_none_iff, Text.byte_length_append]
  constructor
  · intro nothing
    rw [nothing, Text.byte_length_nil, Nat.add_zero]
  · intro full
    exact Text.byte_length_zero after (by omega)

def Reply.token? : Reply → Option Token
  | .stepped token? _ => token?
  | _ => none

def Request.contributes : Request → Reply → List Token
  | .push token, _ => [token]
  | .step _ _ keep, reply => if keep then reply.token?.toList else []
  | .next keep, reply => if keep then reply.token?.toList else []
  | _, _ => []

namespace Session

def after (source : Text) (requests : List Request) : Session :=
  ((begin source).run requests).2

theorem step_cases (session : Session) (position : Nat) (current : Char) (keep : Bool) :
    session.step position current keep = (.refused ⟨current, position⟩, session) ∨
      ∃ token? stop run, Taken session.source position token? stop run ∧
        session.step position current keep =
          (.stepped token? stop, ⟨session.source, stop, session.pushed ++ if keep then token?.toList else []⟩) := by
  unfold step
  cases found : Lexeme.scanAt Rule.table session.source position current with
  | error error =>
      obtain rfl := scan_refused _ _ _ _ _ found
      exact .inl rfl
  | ok lexeme => exact .inr ⟨lexeme.token?, lexeme.stop, lexeme.text, scan_taken _ _ _ _ found, rfl⟩

theorem next_cases (session : Session) (keep : Bool) :
    (session.source.charAt? session.cursor = none ∧ session.answer (.next keep) = (.nothingLeft, session)) ∨
      ∃ current, session.source.charAt? session.cursor = some current ∧
        session.answer (.next keep) = session.step session.cursor current keep := by
  simp only [answer]
  cases session.source.charAt? session.cursor with
  | none => exact .inl ⟨rfl, rfl⟩
  | some current => exact .inr ⟨current, rfl, rfl⟩

theorem run_append (session : Session) (earlier later : List Request) :
    session.run (earlier ++ later) =
      ((session.run earlier).1 ++ ((session.run earlier).2.run later).1, ((session.run earlier).2.run later).2) := by
  induction earlier generalizing session with
  | nil => rfl
  | cons request earlier ih => simp only [List.cons_append, run, ih]

theorem replies_length (session : Session) (requests : List Request) :
    (session.run requests).1.length = requests.length := by
  induction requests generalizing session with
  | nil => rfl
  | cons request later ih => simp only [run, List.length_cons, ih]

end Session

end ArithScan
