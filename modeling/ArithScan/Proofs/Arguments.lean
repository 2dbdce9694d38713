import ArithScan.Proofs.CaretWidth
import ArithScan.Proofs.Concatenation
import ArithScan.Proofs.InputPaths

set_option autoImplicit false

namespace ArithScan

theorem joined_cons (first : Text) (later : List Text) (given : later ≠ []) :
    [' '].intercalate (first :: later) = first ++ ' ' :: [' '].intercalate later := by
  cases later with
  | nil => exact absurd rfl given
  | cons second others => rw [List.intercalate_cons_cons, List.append_assoc, List.singleton_append]

theorem accepted_spaced (a b : Text) : Accepted (a ++ ' ' :: b) ↔ Accepted a ∧ Accepted b := by
  have space : Acceptable ' ' := blank_acceptable ' ' space_blank
  rw [accepted_iff, accepted_iff, accepted_iff, List.forall_mem_append, List.forall_mem_cons]
  exact ⟨fun each => ⟨each.1, each.2.2⟩, fun each => ⟨each.1, space, each.2⟩⟩

theorem displayed_spaced (a b : Text) (accepted : Accepted a) (accepted' : Accepted b) :
    displayed (a ++ ' ' :: b) = displayed a ++ displayed b := by
  obtain ⟨tokens, left, shown⟩ := accepted_scans a accepted
  obtain ⟨tokens', right, shown'⟩ := accepted_scans b accepted'
  have moved := scans_shift (0 + a.byteLength + ' '.utf8Size) 0 b tokens' none right
  have joined := scans_append 0 a (' ' :: b) tokens _ none left (.blank _ ' ' b _ none space_blank moved)
    (fun token _ => blank_closes token _ ' ' b space_blank)
  rw [shown, shown', scans_displayed _ _ none joined, List.map_append, List.map_map]
  rfl

theorem accepted_joined (texts : List Text) :
    Accepted ([' '].intercalate texts) ↔ ∀ text ∈ texts, Accepted text := by
  induction texts with
  | nil => simp [accepted_iff]
  | cons first later ih =>
      by_cases given : later = []
      · subst given
        rw [List.intercalate_singleton, List.forall_mem_singleton]
      · rw [joined_cons first later given, accepted_spaced, ih, List.forall_mem_cons]

theorem displayed_joined (texts : List Text) (given : texts ≠ []) (accepted : ∀ text ∈ texts, Accepted text) :
    displayed ([' '].intercalate texts) = texts.flatMap displayed := by
  induction texts with
  | nil => exact absurd rfl given
  | cons first later ih =>
      obtain ⟨here, others⟩ := List.forall_mem_cons.mp accepted
      by_cases more : later = []
      · subst more
        simp
      · rw [joined_cons first later more, displayed_spaced first _ here ((accepted_joined later).mpr others),
          ih more others, List.flatMap_cons]

-- How far the space after each of these texts moves what follows them.
def spacedLength : List Text → Nat
  | [] => 0
  | text :: later => text.byteLength + 1 + spacedLength later

theorem refused_joined (earlier later : List Text) (failing : Text) (error : LexError)
    (accepted : ∀ text ∈ earlier, Accepted text) (refused : tokenize failing = .error error) :
    tokenize ([' '].intercalate (earlier ++ failing :: later)) =
      .error ⟨error.character, error.position + spacedLength earlier⟩ := by
  induction earlier with
  | nil =>
      rw [List.nil_append]
      by_cases last : later = []
      · rw [last, List.intercalate_singleton]
        exact refused
      · rw [joined_cons failing later last]
        exact tokenize_refused_left failing _ error refused
  | cons first earlier ih =>
      obtain ⟨here, others⟩ := List.forall_mem_cons.mp accepted
      have clean : Accepted (first ++ [' ']) := (accepted_spaced first []).mpr ⟨here, (accepted_joined []).mpr (by simp)⟩
      have moved := tokenize_refused_right (first ++ [' ']) _ _ clean (ih others)
      have joined : first ++ [' '] ++ [' '].intercalate (earlier ++ failing :: later) =
          [' '].intercalate (first :: earlier ++ failing :: later) := by
        rw [List.cons_append, joined_cons first _ (by simp), List.append_assoc, List.singleton_append]
      have offset : (first ++ [' ']).byteLength = first.byteLength + 1 := Text.byte_length_append first [' ']
      rw [← joined, moved, LexError.shift, offset]
      rw [spacedLength, Nat.add_left_comm]

theorem first_refused (texts : List Text) (refused : ¬ ∀ text ∈ texts, Accepted text) :
    ∃ earlier failing later error, texts = earlier ++ failing :: later ∧ (∀ text ∈ earlier, Accepted text) ∧
      tokenize failing = .error error := by
  induction texts with
  | nil => exact absurd (List.forall_mem_nil _) refused
  | cons first rest ih =>
      cases made : tokenize first with
      | error error => exact ⟨[], first, rest, error, rfl, List.forall_mem_nil _, made⟩
      | ok tokens =>
          rw [List.forall_mem_cons, not_and] at refused
          obtain ⟨earlier, failing, later, error, rfl, clean, failed⟩ := ih (refused ⟨tokens, made⟩)
          exact ⟨first :: earlier, failing, later, error, rfl, List.forall_mem_cons.mpr ⟨⟨tokens, made⟩, clean⟩, failed⟩

namespace Command

theorem run_accepted (text : Text) (unread : Bytes) (accepted : Accepted text) :
    (run [text.toBytes] unread).output = Text.unlines (displayed text) ++ Text.unlines [endLine] := by
  rw [run_argument, evaluate_accepted _ text accepted]
  exact List.flatMap_append

theorem run_exits (text : Text) (unread : Bytes) : (run [text.toBytes] unread).ending.exitCode = 0 ↔ Accepted text := by
  rw [run_argument, evaluate_exits]

theorem run_refused (text : Text) (unread : Bytes) (error : LexError) (refused : tokenize text = .error error) :
    (run [text.toBytes] unread).ending.exitCode ≠ 0 := by
  rw [ne_eq, run_exits]
  intro accepted
  obtain ⟨tokens, made⟩ := accepted
  rw [refused] at made
  cases made

theorem refused_exits_lead (origin expression : Text) (error : LexError) (refused : tokenize expression = .error error) :
    ∃ lead, LeadsTo expression error.position lead ∧ (evaluate origin expression).output = [] ∧
      (evaluate origin expression).ending.exitCode = if 65535 < caretWidth lead then 101 else 1 := by
  obtain ⟨location, located⟩ := refused_located expression error refused
  have leads := (leads_iff expression error.position _).mpr ⟨location, located, rfl⟩
  refine ⟨_, leads, ?_⟩
  rw [caret_width_columns]
  exact refused_exits origin expression error location refused located

-- Arguments are one expression together, but none of them has a part in what the
-- others show, and the first one that fails alone is where they fail together.
theorem run_joins_arguments (arguments : List Text) (unread : Bytes) (given : arguments ≠ []) :
    ((run (arguments.map Text.toBytes) unread).ending.exitCode = 0 ↔
        ∀ text ∈ arguments, (run [text.toBytes] unread).ending.exitCode = 0) ∧
      ((run (arguments.map Text.toBytes) unread).ending.exitCode = 0 →
        (∀ text ∈ arguments,
            (run [text.toBytes] unread).output = Text.unlines (displayed text) ++ Text.unlines [endLine]) ∧
          (run (arguments.map Text.toBytes) unread).output =
            (arguments.flatMap fun text => Text.unlines (displayed text)) ++ Text.unlines [endLine]) ∧
        ((run (arguments.map Text.toBytes) unread).ending.exitCode ≠ 0 →
          ∃ earlier failing later error lead, arguments = earlier ++ failing :: later ∧
            (∀ text ∈ earlier, (run [text.toBytes] unread).ending.exitCode = 0) ∧ tokenize failing = .error error ∧
              tokenize ([' '].intercalate arguments) =
                  .error ⟨error.character, error.position + spacedLength earlier⟩ ∧
                LeadsTo ([' '].intercalate arguments) (error.position + spacedLength earlier) lead ∧
                  (run (arguments.map Text.toBytes) unread).output = [] ∧
                    (run (arguments.map Text.toBytes) unread).ending.exitCode =
                      if 65535 < caretWidth lead then 101 else 1) := by
  have joint : (run (arguments.map Text.toBytes) unread).ending.exitCode = 0 ↔ ∀ text ∈ arguments, Accepted text := by
    rw [run_arguments arguments unread given, evaluate_exits, accepted_joined]
  simp only [run_exits, ne_eq, joint]
  rw [run_arguments arguments unread given]
  refine ⟨trivial, ?_, ?_⟩
  · intro accepted
    refine ⟨fun text member => run_accepted text unread (accepted text member), ?_⟩
    rw [evaluate_accepted _ _ ((accepted_joined arguments).mpr accepted), displayed_joined arguments given accepted]
    simp only [Text.unlines, List.flatMap_append, List.flatMap_assoc]
  · intro refused
    obtain ⟨earlier, failing, later, error, rfl, clean, failed⟩ := first_refused arguments refused
    have joint := refused_joined earlier later failing error clean failed
    obtain ⟨lead, leads, silent, code⟩ := refused_exits_lead "args".toList _ _ joint
    exact ⟨earlier, failing, later, error, lead, rfl, clean, failed, joint, leads, silent, code⟩

theorem value_displayed (kind : TokenKind) (value ends : Text) (spelled : kind.Spells value)
    (blank : ∀ c ∈ ends, isBlank c = true) :
    Accepted (value ++ ends) ∧ displayed (value ++ ends) = [(Token.placed kind value 0).display] := by
  have alone := Scans.token 0 kind value [] [] none spelled (stops_nil _) (.done _)
  rw [List.append_nil] at alone
  exact scans_accepted _ _ (scans_trailing 0 value ends _ alone blank)

theorem refused_lead (text lead lead' : Text) (error error' : LexError) (refused : tokenize text = .error error)
    (refused' : tokenize text = .error error') (leads : LeadsTo text error.position lead)
    (leads' : LeadsTo text error'.position lead') : lead' = lead := by
  obtain rfl : error = error' := Except.error.inj (refused.symm.trans refused')
  exact leads_unique text error.position lead lead' leads leads'

theorem letters_joined (count : Nat) :
    tokenize ([' '].intercalate ["b".toList, lettersThen count ['&']]) = .error ⟨'&', count + 2⟩ ∧
      LeadsTo ([' '].intercalate ["b".toList, lettersThen count ['&']]) (count + 2) ('b' :: ' ' :: List.replicate count 'a') ∧
        caretWidth ('b' :: ' ' :: List.replicate count 'a') = count + 3 := by
  have letter : Accepted "b".toList := (accepted_iff _).mpr (acceptable_each _ (by decide))
  have joined : [' '].intercalate ["b".toList, lettersThen count ['&']] = 'b' :: ' ' :: lettersThen count ['&'] := by
    rw [joined_cons _ _ (List.cons_ne_nil _ _), List.intercalate_singleton]
    rfl
  refine ⟨refused_joined ["b".toList] [] _ _ (List.forall_mem_singleton.mpr letter) (letters_refused count []), ?_, ?_⟩
  · refine ⟨[], ['&'], joined, List.cons_ne_nil _ _, ?_, .inl rfl, by simp⟩
    have narrow : 'b'.utf8Size = 1 ∧ ' '.utf8Size = 1 := ⟨rfl, rfl⟩
    rw [List.nil_append, Text.byte_length_cons, Text.byte_length_cons, letters_length]
    omega
  · rw [caret_width_columns, List.dropWhile_cons_of_neg (by decide), Text.columns_cons, Text.columns_cons, letters_columns,
      if_neg (by decide), if_neg (by decide)]
    omega

theorem run_joins_arguments_empty :
    (run (["x".toList, [], "1\n".toList].map Text.toBytes) []).ending.exitCode = 0 ∧
      (run (["x".toList, [], "1\n".toList].map Text.toBytes) []).output =
          "Token[type=IDENTIFIER, value='x']\nToken[type=NUMBER, value='1']\nToken[type=EOF, value='']\n".toList ∧
        (run ([lettersThen 65533 ['&']].map Text.toBytes) []).ending.exitCode = 1 ∧
          (run ([lettersThen 65533 ['&']].map Text.toBytes) []).output = [] ∧
            (run (["b".toList, lettersThen 65533 ['&']].map Text.toBytes) []).ending.exitCode = 101 ∧
              (run (["b".toList, lettersThen 65533 ['&']].map Text.toBytes) []).output = [] := by
  have letter : TokenKind.identifier.Spells ['x'] := ⟨'x', [], rfl, rfl, List.forall_mem_nil _⟩
  have digit : TokenKind.number.Spells ['1'] := ⟨'1', [], rfl, rfl, List.forall_mem_nil _⟩
  obtain ⟨clean, name⟩ := value_displayed .identifier ['x'] [] letter (List.forall_mem_nil _)
  obtain ⟨bare, nothing⟩ := scans_accepted [] [] (.done 0)
  obtain ⟨clean', number⟩ := value_displayed .number ['1'] ['\n'] digit (List.forall_mem_singleton.mpr feed_blank)
  have each : ∀ text ∈ ["x".toList, [], "1\n".toList], (run [Text.toBytes text] []).ending.exitCode = 0 := by
    simp only [run_exits, List.forall_mem_cons]
    exact ⟨clean, bare, clean', List.forall_mem_nil _⟩
  obtain ⟨joint, shown, _⟩ := run_joins_arguments ["x".toList, [], "1\n".toList] [] (by simp)
  have zero := joint.mpr each
  have output : (run (["x".toList, [], "1\n".toList].map Text.toBytes) []).output =
      "Token[type=IDENTIFIER, value='x']\nToken[type=NUMBER, value='1']\nToken[type=EOF, value='']\n".toList := by
    rw [(shown zero).2, List.flatMap_cons, List.flatMap_cons, List.flatMap_cons, List.flatMap_nil]
    rw [show displayed "x".toList = _ from name, nothing, show displayed "1\n".toList = _ from number]
    rfl
  have alone := letters_refused 65533 []
  have foreign := run_refused _ [] _ alone
  obtain ⟨single, _, refused⟩ := run_joins_arguments [lettersThen 65533 ['&']] [] (by simp)
  obtain ⟨_, _, _, error, lead, _, _, _, failed, leads, silent, code⟩ :=
    refused fun passed => foreign (single.mp passed _ (by simp))
  obtain ⟨both, _, refused'⟩ := run_joins_arguments ["b".toList, lettersThen 65533 ['&']] [] (by simp)
  obtain ⟨_, _, _, error', lead', _, _, _, failed', leads', silent', code'⟩ :=
    refused' fun passed => foreign (both.mp passed _ (by simp))
  rw [List.intercalate_singleton] at failed leads
  rw [refused_lead _ _ lead _ _ alone failed (letters_lead 65533 ['&'] (List.cons_ne_nil _ _)) leads, letters_width] at code
  obtain ⟨behind, further, width⟩ := letters_joined 65533
  rw [refused_lead _ _ lead' _ _ behind failed' further leads', width] at code'
  exact ⟨zero, output, code, silent, code', silent'⟩

end Command

end ArithScan
