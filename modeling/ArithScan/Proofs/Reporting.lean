import ArithScan.Command
import ArithScan.Proofs.Acceptance
import ArithScan.Proofs.Caret

set_option autoImplicit false

namespace ArithScan

-- The lines that show the tokens of a source, without the line for its end.
def displayed (source : Text) : List Text :=
  (Scan.ofSource Rule.table source).tokens.map Token.display

def endLine : Text := "Token[type=EOF, value='']".toList

theorem scans_displayed (source : Text) (tokens : List Token) (error? : Option LexError)
    (scan : Scans 0 source tokens error?) : displayed source = tokens.map Token.display := by
  rw [displayed, (scans_unique 0 source tokens _ error? _ scan (source_scans source)).1]

theorem accepted_scans (source : Text) (accepted : Accepted source) :
    ∃ tokens, Scans 0 source tokens none ∧ displayed source = tokens.map Token.display := by
  obtain ⟨tokens, done⟩ := accepted
  obtain ⟨body, scan, _⟩ := (tokenize_ok_iff source tokens).mp done
  exact ⟨body, scan, scans_displayed source body none scan⟩

theorem scans_accepted (source : Text) (tokens : List Token) (scan : Scans 0 source tokens none) :
    Accepted source ∧ displayed source = tokens.map Token.display :=
  ⟨⟨_, tokenize_scans source tokens none scan⟩, scans_displayed source tokens none scan⟩

theorem tokens_displayed (source : Text) (tokens : List Token) (done : tokenize source = .ok tokens) :
    tokens.map Token.display = displayed source ++ [endLine] := by
  obtain ⟨body, scan, rfl⟩ := (tokenize_ok_iff source tokens).mp done
  rw [scans_displayed source body none scan, List.map_append]
  rfl

theorem report_accepted (source origin : Text) (accepted : Accepted source) :
    report source origin = .ok (.tokens (displayed source ++ [endLine])) := by
  obtain ⟨tokens, done⟩ := accepted
  rw [report, done, ← tokens_displayed source tokens done]

theorem report_refused (source origin : Text) (error : LexError) (refused : tokenize source = .error error) :
    report source origin = (error.render source origin).map .diagnostic := by
  rw [report, refused]

theorem refused_located (source : Text) (error : LexError) (refused : tokenize source = .error error) :
    ∃ location, source.locationAt? error.position = some location := by
  obtain ⟨before, after, rfl, place, _, _⟩ := (refused_iff source error).mp refused
  rw [place]
  exact place_located before after error.character

namespace Command

theorem evaluate_accepted (origin expression : Text) (accepted : Accepted expression) :
    evaluate origin expression = ⟨Text.unlines (displayed expression ++ [endLine]), .done⟩ := by
  rw [evaluate, report_accepted expression origin accepted]

theorem evaluate_refused (origin expression : Text) (error : LexError) (location : Location)
    (refused : tokenize expression = .error error) (located : expression.locationAt? error.position = some location) :
    evaluate origin expression =
      ⟨[], if location.excerpt.before.columns + 1 ≤ Excerpt.fieldLimit then
          .failed (Text.unlines [error.headline, "-> ".toList ++ origin] ++
            Text.unlines [location.excerpt.gutter, location.excerpt.echoed, location.excerpt.pointer])
        else .aborted⟩ := by
  rw [evaluate, report_refused expression origin error refused, render_located error expression origin location located]
  by_cases fits : location.excerpt.before.columns + 1 ≤ Excerpt.fieldLimit
  · rw [if_pos fits, if_pos fits]
    rfl
  · rw [if_neg fits, if_neg fits]
    rfl

theorem refused_exits (origin expression : Text) (error : LexError) (location : Location)
    (refused : tokenize expression = .error error) (located : expression.locationAt? error.position = some location) :
    (evaluate origin expression).output = [] ∧
      (evaluate origin expression).ending.exitCode = if 65535 < location.excerpt.before.columns + 1 then 101 else 1 := by
  rw [evaluate_refused origin expression error location refused located]
  refine ⟨rfl, ?_⟩
  by_cases wide : 65535 < location.excerpt.before.columns + 1
  · rw [if_pos wide]
    exact congrArg Ending.exitCode (if_neg (Nat.not_le_of_lt wide))
  · rw [if_neg wide]
    exact congrArg Ending.exitCode (if_pos (Nat.le_of_not_lt wide))

theorem evaluate_cases (origin expression : Text) :
    (Accepted expression ∧ (evaluate origin expression).ending.exitCode = 0) ∨
      (¬ Accepted expression ∧ (evaluate origin expression).output = [] ∧
        (evaluate origin expression).ending.exitCode ≠ 0) := by
  cases made : tokenize expression with
  | ok tokens =>
      have accepted : Accepted expression := ⟨tokens, made⟩
      refine .inl ⟨accepted, ?_⟩
      rw [evaluate_accepted origin expression accepted]
      rfl
  | error error =>
      have refused : ¬ Accepted expression := by
        intro accepted
        obtain ⟨tokens, done⟩ := accepted
        rw [made] at done
        cases done
      obtain ⟨location, located⟩ := refused_located expression error made
      obtain ⟨nothing, code⟩ := refused_exits origin expression error location made located
      refine .inr ⟨refused, nothing, ?_⟩
      rw [code]
      split <;> decide

theorem evaluate_exits (origin expression : Text) :
    (evaluate origin expression).ending.exitCode = 0 ↔ Accepted expression := by
  rcases evaluate_cases origin expression with ⟨accepted, zero⟩ | ⟨refused, _, failed⟩
  · exact iff_of_true zero accepted
  · exact iff_of_false failed refused

theorem arguments_read (texts : List Text) : (texts.map Text.toBytes).mapM Text.ofBytes? = some texts := by
  induction texts with
  | nil => rfl
  | cons text later ih => rw [List.map_cons, List.mapM_cons, Text.of_bytes_to_bytes, ih]; rfl

theorem run_arguments (texts : List Text) (unread : Bytes) (given : texts ≠ []) :
    run (texts.map Text.toBytes) unread = evaluate "args".toList ([' '].intercalate texts) := by
  rw [run, if_neg (by simpa using given), onArguments, arguments_read]

theorem run_argument (text : Text) (unread : Bytes) : run [text.toBytes] unread = evaluate "args".toList text := by
  have alone := run_arguments [text] unread (List.cons_ne_nil text [])
  rwa [List.intercalate_singleton] at alone

end Command

end ArithScan
