import ArithScan.Proofs.Concatenation
import ArithScan.Proofs.Reporting

set_option autoImplicit false

namespace ArithScan

namespace Text

theorem feedless_bytes (text : Text) (single : '\n' ∉ text) : 10 ∉ text.toBytes := by
  intro member
  obtain ⟨c, inside, among⟩ := List.mem_flatMap.mp member
  rw [ascii_byte_iff c 10 (by decide)] at among
  obtain rfl : c = '\n' := Char.toNat_inj.mp among
  exact single inside

end Text

theorem line_end_blank (c : Char) (ends : Text.isLineEnd c = true) : isBlank c = true := by
  rcases (by simpa [Text.isLineEnd] using ends : c = '\r' ∨ c = '\n') with rfl | rfl <;> decide

theorem blank_closes (token : Token) (position : Nat) (c : Char) (rest : Text) (blank : isBlank c = true) :
    ¬ token.OpenAt position (c :: rest) :=
  stops_closed token position (c :: rest) (blank_stops token.kind c rest blank)

theorem scans_trailing (position : Nat) (text ends : Text) (tokens : List Token)
    (scan : Scans position text tokens none) (blank : ∀ c ∈ ends, isBlank c = true) :
    Scans position (text ++ ends) tokens none := by
  have right : Scans (position + text.byteLength) ends [] none := by
    have passed := (scans_blanks (position + text.byteLength) ends [] [] none blank).mpr (.done _)
    rwa [List.append_nil] at passed
  have closed : ∀ token ∈ tokens.getLast?, ¬ token.OpenAt (position + text.byteLength) ends := by
    intro token _
    cases ends with
    | nil => simp [Token.OpenAt]
    | cons c rest => exact blank_closes token _ c rest (blank c List.mem_cons_self)
  have joined := scans_append position text ends tokens [] none scan right closed
  rwa [List.append_nil] at joined

theorem accepted_trailing (text ends : Text) (blank : ∀ c ∈ ends, isBlank c = true) (accepted : Accepted text) :
    Accepted (text ++ ends) ∧ displayed (text ++ ends) = displayed text := by
  obtain ⟨tokens, scan, shown⟩ := accepted_scans text accepted
  rw [shown]
  exact scans_accepted (text ++ ends) tokens (scans_trailing 0 text ends tokens scan blank)

theorem excerpt_trailing (number column : Nat) (line ends : Text) (inside : column ≤ line.length)
    (each : ∀ c ∈ ends, Text.isLineEnd c = true) :
    (⟨number, line ++ ends, column⟩ : Location).excerpt.before = (⟨number, line, column⟩ : Location).excerpt.before ∧
      (⟨number, line ++ ends, column⟩ : Location).excerpt.echo = (⟨number, line, column⟩ : Location).excerpt.echo := by
  have before : (line ++ ends).take column = line.take column := List.take_append_of_le_length inside
  have after : (line ++ ends).drop column = line.drop column ++ ends := List.drop_append_of_le_length inside
  refine ⟨by simp only [Location.excerpt, before], ?_⟩
  simp only [Excerpt.echo, Location.excerpt, before, after]
  rw [← List.append_assoc, Text.trim_ends _ ends each]

-- Two endings of one expression that differ at most in what the complaint calls it.
inductive EndsAlike (origin origin' : Text) : Ending → Ending → Prop where
  | done : EndsAlike origin origin' .done .done
  | failed (headline drawing : Text) (single : '\n' ∉ headline) :
      EndsAlike origin origin' (.failed (Text.unlines [headline, "-> ".toList ++ origin] ++ drawing))
        (.failed (Text.unlines [headline, "-> ".toList ++ origin'] ++ drawing))
  | aborted : EndsAlike origin origin' .aborted .aborted

theorem EndsAlike.exit_code (origin origin' : Text) (ending ending' : Ending)
    (alike : EndsAlike origin origin' ending ending') : ending'.exitCode = ending.exitCode := by
  cases alike <;> rfl

namespace Command

theorem refused_alike (origin origin' text text' : Text) (error : LexError) (location location' : Location)
    (refused : tokenize text = .error error) (refused' : tokenize text' = .error error)
    (located : text.locationAt? error.position = some location)
    (located' : text'.locationAt? error.position = some location') (number : location.number = location'.number)
    (before : location.excerpt.before = location'.excerpt.before)
    (echo : location.excerpt.echo = location'.excerpt.echo) :
    (evaluate origin text).output = (evaluate origin' text').output ∧
      EndsAlike origin origin' (evaluate origin text).ending (evaluate origin' text').ending := by
  have digits : location.excerpt.numberText = location'.excerpt.numberText := congrArg Text.decimal number
  have gutter : location.excerpt.gutter = location'.excerpt.gutter := by rw [Excerpt.gutter, digits, Excerpt.gutter]
  have echoed : location.excerpt.echoed = location'.excerpt.echoed := by
    rw [Excerpt.echoed, digits, echo, Excerpt.echoed]
  have pointer : location.excerpt.pointer = location'.excerpt.pointer := by
    rw [Excerpt.pointer, gutter, before, Excerpt.pointer]
  rw [evaluate_refused origin text error location refused located,
    evaluate_refused origin' text' error location' refused' located', gutter, echoed, pointer, before]
  refine ⟨rfl, ?_⟩
  by_cases fits : location'.excerpt.before.columns + 1 ≤ Excerpt.fieldLimit
  · rw [if_pos fits, if_pos fits]
    exact .failed error.headline _ (headline_feedless error)
  · rw [if_neg fits, if_neg fits]
    exact .aborted

theorem evaluate_trimmed (origin origin' text : Text) (single : '\n' ∉ text) :
    (evaluate origin text).output = (evaluate origin' text.trimLineEnd).output ∧
      EndsAlike origin origin' (evaluate origin text).ending (evaluate origin' text.trimLineEnd).ending := by
  obtain ⟨ends, cut, each⟩ := text.trimmed_cut
  generalize text.trimLineEnd = line at cut
  cases made : tokenize line with
  | ok tokens =>
      have accepted : Accepted line := ⟨tokens, made⟩
      obtain ⟨accepted', same⟩ := accepted_trailing line ends (fun c member => line_end_blank c (each c member)) accepted
      rw [← cut] at accepted' same
      rw [evaluate_accepted origin text accepted', evaluate_accepted origin' line accepted, same]
      exact ⟨rfl, .done⟩
  | error error =>
      obtain ⟨before, after, split, place, _, _⟩ := (refused_iff line error).mp made
      have refused : tokenize text = .error error := cut ▸ tokenize_refused_left line ends error made
      have clean : '\n' ∉ line := fun member => single (cut ▸ List.mem_append_left ends member)
      have located := single_line_located text before (after ++ ends) error.character single
        (by rw [cut, split, List.append_assoc, List.cons_append])
      have located' := single_line_located line before after error.character clean split
      rw [← place] at located located'
      obtain ⟨shown, echo⟩ := excerpt_trailing 1 before.length line ends (by simp [split]) each
      rw [← cut] at shown echo
      exact refused_alike origin origin' text line error _ _ refused made located located' rfl shown echo

theorem first_line_read (text : Text) (tail : Bytes) (single : '\n' ∉ text)
    (ended : tail = [] ∨ ∃ more, tail = 10 :: more) : firstLine (text.toBytes ++ tail) = text.toBytes := by
  have each : ∀ byte ∈ text.toBytes, (byte != 10) = true := by
    intro byte member
    rw [bne_iff_ne]
    rintro rfl
    exact text.feedless_bytes single member
  have stop : tail.takeWhile (fun byte => byte != 10) = [] := by
    rcases ended with rfl | ⟨more, rfl⟩ <;> rfl
  rw [firstLine, List.takeWhile_append_of_pos each, stop, List.append_nil]

theorem run_input (text : Text) (tail : Bytes) (single : '\n' ∉ text)
    (ended : tail = [] ∨ ∃ more, tail = 10 :: more) :
    run [] (text.toBytes ++ tail) = ⟨prompt ++ (evaluate "stdin".toList text.trimLineEnd).output,
      (evaluate "stdin".toList text.trimLineEnd).ending⟩ := by
  have read : onInput (text.toBytes ++ tail) = evaluate "stdin".toList text.trimLineEnd := by
    rw [onInput, first_line_read text tail single ended, Text.of_bytes_to_bytes]
  rw [run, List.isEmpty_nil, if_pos rfl, read]

theorem input_agrees_with_argument (text : Text) (tail unread : Bytes) (single : '\n' ∉ text)
    (ended : tail = [] ∨ ∃ more, tail = 10 :: more) :
    (run [] (text.toBytes ++ tail)).ending.exitCode = (run [text.toBytes] unread).ending.exitCode ∧
      (run [] (text.toBytes ++ tail)).output = prompt ++ (run [text.toBytes] unread).output ∧
        EndsAlike "args".toList "stdin".toList (run [text.toBytes] unread).ending
            (run [] (text.toBytes ++ tail)).ending ∧
          ((run [text.toBytes] unread).ending.exitCode ≠ 0 →
            (run [text.toBytes] unread).output = [] ∧ (run [] (text.toBytes ++ tail)).output = prompt) := by
  obtain ⟨output, alike⟩ := evaluate_trimmed "args".toList "stdin".toList text single
  rw [run_input text tail single ended, run_argument text unread, ← output]
  refine ⟨alike.exit_code _ _ _ _, rfl, alike, ?_⟩
  intro failed
  rcases evaluate_cases "args".toList text with ⟨_, zero⟩ | ⟨_, nothing, _⟩
  · exact absurd zero failed
  · rw [nothing]
    exact ⟨rfl, List.append_nil prompt⟩

theorem input_agrees_with_argument_refused :
    '\n' ∉ "3 & 4\r\r".toList ∧
      (run [Text.toBytes "3 & 4\r\r".toList] []).ending =
          .failed
            ("Error: UnrecognisedCharacter (\x60&\x60 is not a number, identifier, operator (+ - * /) or parenthesis)\n".toList ++
              "-> args\n  |\n1 | 3 & 4\n  | --^\n".toList) ∧
        (run [] (Text.toBytes "3 & 4\r\r".toList ++ [10, 255])).ending =
            .failed
              ("Error: UnrecognisedCharacter (\x60&\x60 is not a number, identifier, operator (+ - * /) or parenthesis)\n".toList ++
                "-> stdin\n  |\n1 | 3 & 4\n  | --^\n".toList) ∧
          (run [] (Text.toBytes "3 & 4\r\r".toList ++ [10, 255])).output = prompt ∧
            EndsAlike "args".toList "stdin".toList (run [Text.toBytes "3 & 4\r\r".toList] []).ending
              (run [] (Text.toBytes "3 & 4\r\r".toList ++ [10, 255])).ending := by
  have single : '\n' ∉ "3 & 4\r\r".toList := by decide
  have ended : ([10, 255] : Bytes) = [] ∨ ∃ more, ([10, 255] : Bytes) = 10 :: more := .inr ⟨[255], rfl⟩
  have made : tokenize "3 & 4\r\r".toList = .error ⟨'&', 2⟩ :=
    (refused_iff _ _).mpr ⟨"3 ".toList, " 4\r\r".toList, rfl, rfl, acceptable_each _ (by decide), by decide⟩
  have trimmed : tokenize "3 & 4".toList = .error ⟨'&', 2⟩ :=
    (refused_iff _ _).mpr ⟨"3 ".toList, " 4".toList, rfl, rfl, acceptable_each _ (by decide), by decide⟩
  have argument := evaluate_refused "args".toList _ _ ⟨1, "3 & 4\r\r".toList, 2⟩ made rfl
  have line := evaluate_refused "stdin".toList _ _ ⟨1, "3 & 4".toList, 2⟩ trimmed rfl
  obtain ⟨_, _, alike, nothing⟩ := input_agrees_with_argument "3 & 4\r\r".toList [10, 255] [] single ended
  have failed : (run [Text.toBytes "3 & 4\r\r".toList] []).ending.exitCode ≠ 0 := by
    rw [run_argument, argument]
    decide
  refine ⟨single, ?_, ?_, (nothing failed).2, alike⟩
  · rw [run_argument, argument]
    decide +kernel
  · rw [run_input _ _ single ended, show Text.trimLineEnd "3 & 4\r\r".toList = "3 & 4".toList from rfl, line]
    decide +kernel

end Command

end ArithScan
