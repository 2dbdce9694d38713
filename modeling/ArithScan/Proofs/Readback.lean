import ArithScan.Proofs.InputPaths
import ArithScan.Proofs.Tokenization

set_option autoImplicit false

namespace ArithScan

theorem parted_unique (mark : Char) (a b rest rest' : Text) (left : mark ∉ a) (right : mark ∉ b)
    (same : a ++ mark :: rest = b ++ mark :: rest') : a = b ∧ rest = rest' := by
  have bare : ∀ part : Text, mark ∉ part → ∀ c ∈ part, (c != mark) = true := by
    intro part clean c member
    rw [bne_iff_ne]
    intro marked
    exact clean (marked ▸ member)
  have stop : ∀ more : Text, Stops (fun c => c != mark) (mark :: more) := by simp [Stops]
  have parts : a = b := by
    rw [← take_while_stops _ a (mark :: rest) (bare a left) (stop rest), same,
      take_while_stops _ b (mark :: rest') (bare b right) (stop rest')]
  subst parts
  exact ⟨rfl, (List.cons.inj (List.append_cancel_left same)).2⟩

theorem parted_unique_last (mark : Char) (a b rest rest' : Text) (left : mark ∉ rest) (right : mark ∉ rest')
    (same : a ++ mark :: rest = b ++ mark :: rest') : a = b ∧ rest = rest' := by
  have reversed : rest.reverse ++ mark :: a.reverse = rest'.reverse ++ mark :: b.reverse := by
    simpa using congrArg List.reverse same
  obtain ⟨rests, parts⟩ := parted_unique mark _ _ _ _ (List.mem_reverse.not.mpr left) (List.mem_reverse.not.mpr right)
    reversed
  exact ⟨List.reverse_injective parts, List.reverse_injective rests⟩

theorem unlines_unique (a b : List Text) (left : ∀ line ∈ a, '\n' ∉ line) (right : ∀ line ∈ b, '\n' ∉ line)
    (same : Text.unlines a = Text.unlines b) : a = b := by
  have lengthen : ∀ (line : Text) (later : List Text),
      Text.unlines (line :: later) = line ++ '\n' :: Text.unlines later := by simp [Text.unlines]
  induction a generalizing b with
  | nil =>
      cases b with
      | nil => rfl
      | cons line later => simp [Text.unlines] at same
  | cons line later ih =>
      cases b with
      | nil => simp [Text.unlines] at same
      | cons line' later' =>
          obtain ⟨here, others⟩ := List.forall_mem_cons.mp left
          obtain ⟨here', others'⟩ := List.forall_mem_cons.mp right
          rw [lengthen, lengthen] at same
          obtain ⟨lines, rest⟩ := parted_unique '\n' line line' _ _ here here' same
          rw [lines, ih later' others others' rest]

namespace TokenKind

theorem name_letters (kind : TokenKind) : ∀ c ∈ kind.name, c.isAlpha = true := by
  apply List.all_eq_true.mp
  cases kind <;> decide

theorem name_unique (a b : TokenKind) (same : a.name = b.name) : a = b := by
  revert same
  cases a <;> cases b <;> decide

end TokenKind

namespace Token

def content (token : Token) : TokenKind × Text := (token.kind, token.value)

theorem display_form : ∃ opening middle closing : Text, ∀ token : Token,
    token.display = opening ++ (token.kind.name ++ ',' :: (middle ++ (token.value ++ closing))) := by
  have comma : ", value='".toList = ',' :: " value='".toList := by decide
  refine ⟨"Token[type=".toList, " value='".toList, "']".toList, ?_⟩
  intro token
  have parts : token.display =
      "Token[type=".toList ++ token.kind.name ++ ", value='".toList ++ token.value ++ "']".toList := rfl
  rw [parts, comma]
  simp only [List.append_assoc, List.cons_append]

-- No name has a comma in it, so that the kind is known before the value begins, and
-- the value may be any text because what follows it is always the same.
theorem display_iff (a b : Token) : a.display = b.display ↔ a.kind = b.kind ∧ a.value = b.value := by
  obtain ⟨opening, middle, closing, shown⟩ := display_form
  have commaless : ∀ kind : TokenKind, ',' ∉ kind.name := by
    intro kind member
    cases kind.name_letters ',' member
  rw [shown a, shown b]
  apply Iff.intro
  · intro same
    obtain ⟨names, rest⟩ := parted_unique ',' a.kind.name b.kind.name _ _ (commaless a.kind) (commaless b.kind)
      (List.append_cancel_left same)
    have values : a.value ++ closing = b.value ++ closing := List.append_cancel_left rest
    exact ⟨TokenKind.name_unique a.kind b.kind names, List.append_cancel_right values⟩
  · intro same
    rw [same.1, same.2]

theorem displays_iff (tokens tokens' : List Token) :
    tokens.map display = tokens'.map display ↔ tokens.map content = tokens'.map content := by
  induction tokens generalizing tokens' with
  | nil => simp [eq_comm]
  | cons token later ih =>
      cases tokens' with
      | nil => simp
      | cons token' later' =>
          simp only [List.map_cons, List.cons.injEq, ih, display_iff, content, Prod.mk.injEq]

theorem display_feedless (token : Token) (clean : '\n' ∉ token.value) : '\n' ∉ token.display := by
  have name : '\n' ∉ token.kind.name := by
    intro member
    cases token.kind.name_letters '\n' member
  have words : '\n' ∉ "Token[type=".toList ∧ '\n' ∉ ", value='".toList ∧ '\n' ∉ "']".toList := by decide
  exact List.not_mem_append (List.not_mem_append (List.not_mem_append (List.not_mem_append words.1 name) words.2.1) clean)
    words.2.2

end Token

theorem scanned_feedless (source : Text) (tokens : List Token) (done : tokenize source = .ok tokens) :
    ∀ line ∈ tokens.map Token.display, '\n' ∉ line := by
  obtain ⟨body, scan, rfl⟩ := (tokenize_ok_iff source tokens).mp done
  intro line member
  obtain ⟨token, among, rfl⟩ := List.mem_map.mp member
  apply token.display_feedless
  rw [List.mem_append, List.mem_singleton] at among
  cases among with
  | inl inside =>
      have stands := scans_stands source [] source 0 body none rfl rfl scan token inside
      exact spells_no_blank token.kind token.value stands.spelled '\n' feed_blank
  | inr last =>
      rw [last]
      exact List.not_mem_nil

theorem unlines_tell_tokens (source source' : Text) (tokens tokens' : List Token) (done : tokenize source = .ok tokens)
    (done' : tokenize source' = .ok tokens') :
    Text.unlines (tokens.map Token.display) = Text.unlines (tokens'.map Token.display) ↔
      tokens.map Token.content = tokens'.map Token.content := by
  rw [← Token.displays_iff]
  apply Iff.intro
  · exact unlines_unique _ _ (scanned_feedless source tokens done) (scanned_feedless source' tokens' done')
  · intro same
    rw [same]

namespace Command

theorem evaluate_output (origin source : Text) (tokens : List Token) (done : tokenize source = .ok tokens) :
    (evaluate origin source).output = Text.unlines (tokens.map Token.display) := by
  rw [evaluate, report, done]

theorem arguments_output (arguments : List Text) (unread : Bytes) (tokens : List Token) (given : arguments ≠ [])
    (done : tokenize ([' '].intercalate arguments) = .ok tokens) :
    (run (arguments.map Text.toBytes) unread).output = Text.unlines (tokens.map Token.display) := by
  rw [run_arguments arguments unread given, evaluate_output _ _ tokens done]

theorem input_output (source : Text) (tail : Bytes) (tokens : List Token) (single : '\n' ∉ source)
    (ended : tail = [] ∨ ∃ more, tail = 10 :: more) (done : tokenize source = .ok tokens) :
    (run [] (source.toBytes ++ tail)).output = prompt ++ Text.unlines (tokens.map Token.display) := by
  rw [run_input source tail single ended, ← (evaluate_trimmed "args".toList "stdin".toList source single).1,
    evaluate_output _ _ tokens done]

theorem output_tells_tokens (source source' : Text) (tokens tokens' : List Token) (done : tokenize source = .ok tokens)
    (done' : tokenize source' = .ok tokens') :
    (∀ a b : Token, a.display = b.display ↔ a.kind = b.kind ∧ a.value = b.value) ∧
      (∀ arguments arguments' unread unread', arguments ≠ [] → arguments' ≠ [] →
        [' '].intercalate arguments = source → [' '].intercalate arguments' = source' →
          (run (arguments.map Text.toBytes) unread).output = Text.unlines (tokens.map Token.display) ∧
            ((run (arguments.map Text.toBytes) unread).output = (run (arguments'.map Text.toBytes) unread').output ↔
              tokens.map Token.content = tokens'.map Token.content)) ∧
        ∀ tail tail', '\n' ∉ source → '\n' ∉ source' → (tail = [] ∨ ∃ more, tail = 10 :: more) →
          (tail' = [] ∨ ∃ more, tail' = 10 :: more) →
            (run [] (source.toBytes ++ tail)).output = prompt ++ Text.unlines (tokens.map Token.display) ∧
              ((run [] (source.toBytes ++ tail)).output = (run [] (source'.toBytes ++ tail')).output ↔
                tokens.map Token.content = tokens'.map Token.content) := by
  have told := unlines_tell_tokens source source' tokens tokens' done done'
  refine ⟨Token.display_iff, ?_, ?_⟩
  · intro arguments arguments' unread unread' given given' joined joined'
    subst joined joined'
    rw [arguments_output arguments unread tokens given done, arguments_output arguments' unread' tokens' given' done']
    exact ⟨rfl, told⟩
  · intro tail tail' single single' ended ended'
    rw [input_output source tail tokens single ended done, input_output source' tail' tokens' single' ended' done']
    exact ⟨rfl, (List.append_right_inj prompt).trans told⟩

theorem output_tells_tokens_parted :
    (run (["x".toList, "1".toList].map Text.toBytes) []).output = (run (["x\t1".toList].map Text.toBytes) []).output ∧
      (run [] (Text.toBytes "x 1".toList ++ [10, 255])).output ≠ (run [] (Text.toBytes "x1".toList ++ [])).output := by
  have letter : TokenKind.identifier.Spells ['x'] := ⟨'x', [], rfl, by decide, List.forall_mem_nil _⟩
  have digit : TokenKind.number.Spells ['1'] := ⟨'1', [], rfl, by decide, List.forall_mem_nil _⟩
  have both : TokenKind.identifier.Spells ['x', '1'] := 
    ⟨'x', ['1'], rfl, by decide, List.forall_mem_singleton.mpr (by decide)⟩
  have number : Scans 2 ['1'] [.placed .number ['1'] 2] none :=
    .token 2 .number ['1'] [] [] none digit (stops_nil _) (.done 3)
  have spaced := tokenize_scans "x 1".toList _ none
    (.token 0 .identifier ['x'] [' ', '1'] _ none letter (blank_stops _ ' ' _ space_blank)
      (.blank 1 ' ' ['1'] _ none space_blank number))
  have tabbed := tokenize_scans "x\t1".toList _ none
    (.token 0 .identifier ['x'] ['\t', '1'] _ none letter (blank_stops _ '\t' _ tab_blank)
      (.blank 1 '\t' ['1'] _ none tab_blank number))
  have joined := tokenize_scans "x1".toList _ none
    (.token 0 .identifier ['x', '1'] [] _ none both (stops_nil _) (.done 2))
  obtain ⟨_, arguments, _⟩ := output_tells_tokens _ _ _ _ spaced tabbed
  obtain ⟨_, _, input⟩ := output_tells_tokens _ _ _ _ spaced joined
  refine ⟨(arguments ["x".toList, "1".toList] ["x\t1".toList] [] [] (by simp) (by simp) rfl rfl).2.mpr rfl, ?_⟩
  intro same
  have told := (input [10, 255] [] (by decide) (by decide) (.inr ⟨[255], rfl⟩) (.inl rfl)).2.mp same
  exact absurd (congrArg List.length told) (by decide)

end Command

end ArithScan
