import ArithScan.Diagnostic
import ArithScan.Proofs.Locating
import Mathlib.Data.List.DropRight

set_option autoImplicit false

namespace ArithScan

namespace Text

theorem trimmed_cut (text : Text) : ∃ ends, text = text.trimLineEnd ++ ends ∧ ∀ c ∈ ends, isLineEnd c = true :=
  ⟨text.rtakeWhile isLineEnd, List.rdropWhile_append_rtakeWhile.symm, fun _ member => List.mem_rtakeWhile_imp member⟩

theorem trim_solid_end (front rest : Text) (nonempty : rest ≠ []) (solid : trimLineEnd rest = rest) :
    trimLineEnd (front ++ rest) = front ++ rest := by
  apply List.rdropWhile_eq_self_iff.mpr
  intro filled
  rw [List.getLast_append_of_ne_nil filled nonempty]
  exact List.rdropWhile_eq_self_iff.mp solid nonempty

theorem trim_ends (text ends : Text) (each : ∀ c ∈ ends, isLineEnd c = true) :
    trimLineEnd (text ++ ends) = trimLineEnd text := by
  have nothing : ends.reverse.dropWhile isLineEnd = [] := by
    rw [List.dropWhile_eq_nil_iff]
    simpa using each
  rw [trimLineEnd, List.reverse_append, List.dropWhile_append, nothing]
  rfl

theorem trim_suffix_solid (kept rest : Text) (solid : trimLineEnd (kept ++ rest) = kept ++ rest) :
    trimLineEnd rest = rest := by
  apply List.rdropWhile_eq_self_iff.mpr
  intro filled
  rw [← List.getLast_append_of_ne_nil (List.append_ne_nil_of_right_ne_nil kept filled) filled]
  exact List.rdropWhile_eq_self_iff.mp solid _

theorem trim_feedless (text : Text) (single : '\n' ∉ text.dropLast) : '\n' ∉ trimLineEnd text := by
  induction text using List.reverseRecOn with
  | nil => simp [trimLineEnd]
  | append_singleton init c _ =>
      rw [List.dropLast_concat] at single
      by_cases ends : isLineEnd c = true
      · rw [trim_ends init [c] (by simpa using ends)]
        exact fun member => single ((List.rdropWhile_prefix isLineEnd init).subset member)
      · rw [trim_solid_end init [c] (by simp) (by simp [trimLineEnd, ends])]
        have other : '\n' ≠ c := by
          rintro rfl
          exact ends rfl
        simp [single, other]

theorem expand_tabs_feedless (text : Text) (single : '\n' ∉ text) : '\n' ∉ text.expandTabs := by
  intro member
  obtain ⟨c, inside, shown⟩ := List.mem_flatMap.mp member
  rw [expandTab] at shown
  split at shown
  · simp [tabWidth] at shown
  · exact single (List.mem_singleton.mp shown ▸ inside)

theorem line_end_white (c : Char) (ends : isLineEnd c = true) : isWhiteSpace c = true := by
  rcases (by simpa [isLineEnd] using ends : c = '\r' ∨ c = '\n') with rfl | rfl <;> rfl

theorem line_end_columns (ends : Text) (each : ∀ c ∈ ends, isLineEnd c = true) : columns ends = ends.length := by
  induction ends with
  | nil => rfl
  | cons c rest ih =>
      obtain ⟨first, others⟩ := List.forall_mem_cons.mp each
      have plain : c ≠ '\t' := by
        rintro rfl
        cases first
      rw [columns_cons, if_neg plain, ih others, List.length_cons, Nat.add_comm]

end Text

namespace Location

def indent (location : Location) : Nat :=
  ((location.line.take location.column).takeWhile isWhiteSpace).length

def body (location : Location) : Text := location.line.trimLineEnd

theorem line_cut (location : Location) :
    ∃ ends, location.line = location.body ++ ends ∧ ∀ c ∈ ends, Text.isLineEnd c = true :=
  location.line.trimmed_cut

theorem body_solid (location : Location) : location.body.trimLineEnd = location.body :=
  List.rdropWhile_idempotent Text.isLineEnd location.line

theorem echo_inside (location : Location) (c : Char) (inside : location.column < location.body.length)
    (stands : location.line[location.column]? = some c) :
    location.excerpt.echo = Text.expandTabs location.excerpt.before ++ Text.expandTab c ++
      Text.expandTabs (location.body.drop (location.column + 1)) := by
  obtain ⟨ends, cut, each⟩ := location.line_cut
  have solid := location.body_solid
  rw [cut, List.getElem?_append_left inside] at stands
  have split : location.body.drop location.column = c :: location.body.drop (location.column + 1) := by
    rw [List.drop_eq_getElem_cons inside]
    rw [List.getElem?_eq_getElem inside] at stands
    rw [Option.some.inj stands]
  rw [← List.take_append_drop location.column location.body, split] at solid
  have after : location.excerpt.after = c :: location.body.drop (location.column + 1) ++ ends := by
    rw [excerpt, cut, List.drop_append_of_le_length (Nat.le_of_lt inside), split]
  rw [Excerpt.echo, after, ← List.append_assoc, Text.trim_ends _ ends each,
    Text.trim_solid_end _ _ (by simp) (Text.trim_suffix_solid _ _ solid), Text.expand_tabs_append,
    Text.expand_tabs_cons, List.append_assoc]

theorem past_cut (location : Location) (past : location.body.length ≤ location.column)
    (bounded : location.column ≤ location.line.length) :
    ∃ front back, location.line.take location.column = location.body ++ front ∧ location.excerpt.after = back ∧
      front.length = location.column - location.body.length ∧
        (∀ c ∈ front, Text.isLineEnd c = true) ∧ ∀ c ∈ back, Text.isLineEnd c = true := by
  obtain ⟨ends, cut, each⟩ := location.line_cut
  have room : location.column - location.body.length ≤ ends.length := by
    rw [cut, List.length_append] at bounded
    omega
  refine ⟨ends.take (location.column - location.body.length), ends.drop (location.column - location.body.length),
    ?_, ?_, List.length_take_of_le room, fun c member => each c (List.mem_of_mem_take member),
    fun c member => each c (List.mem_of_mem_drop member)⟩
  · rw [cut, List.take_append, List.take_of_length_le past]
  · rw [excerpt, cut, List.drop_append, List.drop_of_length_le past, List.nil_append]

theorem echo_blank (location : Location) (past : location.body.length ≤ location.column)
    (bounded : location.column ≤ location.line.length) (bare : ∀ c ∈ location.body, isWhiteSpace c = true) :
    location.excerpt.before = [] ∧ location.excerpt.echo = [] ∧ location.indent = location.column := by
  obtain ⟨front, back, cut, after, _, ends, ends'⟩ := location.past_cut past bounded
  have white : ∀ c ∈ location.line.take location.column, isWhiteSpace c = true := by
    rw [cut]
    exact List.forall_mem_append.mpr ⟨bare, fun c member => Text.line_end_white c (ends c member)⟩
  have before : location.excerpt.before = [] := List.dropWhile_eq_nil_iff.mpr white
  refine ⟨before, ?_, ?_⟩
  · rw [Excerpt.echo, before, after, Text.trim_ends [] back ends']
    rfl
  · rw [indent, List.takeWhile_eq_self_iff.mpr white, List.length_take_of_le bounded]

theorem echo_ended (location : Location) (past : location.body.length ≤ location.column)
    (bounded : location.column ≤ location.line.length) (shows : ∃ c ∈ location.body, isWhiteSpace c = false) :
    location.excerpt.before.columns = location.excerpt.echo.length + (location.column - location.body.length) ∧
      location.indent ≤ location.body.length := by
  obtain ⟨front, back, cut, after, length, ends, ends'⟩ := location.past_cut past bounded
  have solid := location.body_solid
  rw [← List.takeWhile_append_dropWhile (p := isWhiteSpace) (l := location.body)] at solid
  have shown : location.body.dropWhile isWhiteSpace ≠ [] := by
    obtain ⟨c, member, black⟩ := shows
    intro nothing
    simp [List.dropWhile_eq_nil_iff.mp nothing c member] at black
  have before : location.excerpt.before = location.body.dropWhile isWhiteSpace ++ front := by
    rw [excerpt, cut, List.dropWhile_append, if_neg (by simpa using shown)]
  refine ⟨?_, ?_⟩
  · rw [Excerpt.echo, before, after, List.append_assoc,
      Text.trim_ends _ _ (List.forall_mem_append.mpr ⟨ends, ends'⟩), Text.trim_suffix_solid _ _ solid,
      Text.columns_append, Text.line_end_columns front ends, length]
    rfl
  · have short : (location.body.takeWhile isWhiteSpace).length < location.body.length := by
      have whole := congrArg List.length (List.takeWhile_append_dropWhile (p := isWhiteSpace) (l := location.body))
      have some := List.length_pos_iff.mpr shown
      rw [List.length_append] at whole
      omega
    rw [indent, cut, List.takeWhile_append, if_neg (Nat.ne_of_lt short)]
    exact Nat.le_of_lt short

theorem echo_past (location : Location) (past : location.body.length ≤ location.column)
    (bounded : location.column ≤ location.line.length) :
    location.excerpt.before.columns =
      location.excerpt.echo.length + (location.column - max location.body.length location.indent) := by
  by_cases bare : ∀ c ∈ location.body, isWhiteSpace c = true
  · obtain ⟨before, echo, indented⟩ := location.echo_blank past bounded bare
    rw [before, echo, indented, Nat.max_eq_right past, Nat.sub_self]
    rfl
  · obtain ⟨width, indented⟩ := location.echo_ended past bounded (by simpa using bare)
    rw [Nat.max_eq_left indented, width]

theorem echo_feedless (location : Location) (single : '\n' ∉ location.line.dropLast)
    (bounded : location.column < location.line.length) : '\n' ∉ location.excerpt.echo := by
  apply Text.expand_tabs_feedless
  apply Text.trim_feedless
  have right : location.excerpt.after ≠ [] := by simpa [excerpt] using bounded
  rw [List.dropLast_append_of_ne_nil right]
  rw [← List.take_append_drop location.column location.line,
    List.dropLast_append_of_ne_nil (by simpa using bounded)] at single
  intro member
  apply single
  rcases List.mem_append.mp member with ahead | behind
  · exact List.mem_append_left _ ((List.dropWhile_sublist isWhiteSpace).subset ahead)
  · exact List.mem_append_right _ behind

end Location

theorem tip_feedless (error : LexError) (tip : Text) (shown : error.tip? = some tip) : '\n' ∉ tip := by
  rw [LexError.tip?] at shown
  by_cases hidden : isControl error.character = true
  · rw [if_pos hidden] at shown
    cases shown
  · rw [if_neg hidden] at shown
    obtain rfl := Option.some.inj shown
    have other : '\n' ≠ error.character := by
      intro same
      rw [← same] at hidden
      exact hidden rfl
    have rest : '\n' ∉ " is not a number, identifier, operator (+ - * /) or parenthesis".toList := by decide
    simp only [List.mem_append, List.mem_cons, other, rest, List.not_mem_nil, or_false, not_or]
    decide

theorem headline_feedless (error : LexError) : '\n' ∉ error.headline := by
  have opening : '\n' ∉ "Error: ".toList ++ LexError.name := by decide
  have paren : '\n' ∉ " (".toList := by decide
  unfold LexError.headline
  split
  · exact List.not_mem_append opening List.not_mem_nil
  · rename_i tip shown
    exact List.not_mem_append opening
      (List.not_mem_append (List.not_mem_append paren (tip_feedless error tip shown)) (by decide))

namespace Excerpt

def echoed (excerpt : Excerpt) : Text := excerpt.numberText ++ " | ".toList ++ excerpt.echo

def pointer (excerpt : Excerpt) : Text :=
  excerpt.gutter ++ ' ' :: List.replicate excerpt.before.columns '-' ++ ['^']

theorem gutter_cells (excerpt : Excerpt) :
    excerpt.gutter = List.replicate (excerpt.numberText.length + 1) ' ' ++ ['|'] := rfl

theorem gutter_length (excerpt : Excerpt) : excerpt.gutter.length = excerpt.numberText.length + 2 := by
  simp [gutter_cells]

theorem rows_feedless (excerpt : Excerpt) (shown : '\n' ∉ excerpt.echo) :
    ∀ row ∈ [excerpt.gutter, excerpt.echoed, excerpt.pointer], '\n' ∉ row := by
  have bar : '\n' ∉ excerpt.gutter := by simp [gutter_cells]
  have digits : '\n' ∉ excerpt.numberText := Text.decimal_without excerpt.number '\n' rfl
  have dashes : '\n' ∉ List.replicate excerpt.before.columns '-' := by simp
  simp [echoed, pointer, bar, shown, digits, dashes]

theorem rows_aligned (excerpt : Excerpt) :
    ∀ row ∈ [excerpt.gutter, excerpt.echoed, excerpt.pointer], row[excerpt.numberText.length + 1]? = some '|' := by
  intro row member
  rcases (by simpa using member : row = _ ∨ row = _ ∨ row = _) with rfl | rfl | rfl
  · simp [gutter_cells]
  · simp [echoed]
  · simp [pointer, gutter_cells]

end Excerpt

-- The three lines under the heading of a diagnostic for a character c of a line. Under
-- the body of the line the caret stands right below c. Past the body it goes on
-- behind the line that is shown, one place for each line end in front of c that is
-- not taken off as indentation.
structure Diagram (location : Location) (c : Char) (gutter echoed pointer : Text) (caret : Nat) : Prop where
  feedless : ∀ row ∈ [gutter, echoed, pointer], '\n' ∉ row
  aligned : ∀ row ∈ [gutter, echoed, pointer], row[(Text.decimal location.number).length + 1]? = some '|'
  pointed : ∃ dashes, pointer = gutter ++ ' ' :: List.replicate dashes '-' ++ ['^'] ∧ caret = gutter.length + 1 + dashes
  below : location.column < location.body.length →
    ∃ left, left = Text.decimal location.number ++ " | ".toList ++ Text.expandTabs location.excerpt.before ∧
      left.length = caret ∧
        echoed = left ++ Text.expandTab c ++ Text.expandTabs (location.body.drop (location.column + 1))
  behind : location.body.length ≤ location.column →
    caret = echoed.length + (location.column - max location.body.length location.indent)

theorem excerpt_diagram (location : Location) (c : Char) (single : '\n' ∉ location.line.dropLast)
    (shown : location.line[location.column]? = some c) :
    Diagram location c location.excerpt.gutter location.excerpt.echoed location.excerpt.pointer
      (location.excerpt.gutter.length + 1 + location.excerpt.before.columns) := by
  obtain ⟨bounded, _⟩ := List.getElem?_eq_some_iff.mp shown
  have number : location.excerpt.numberText = Text.decimal location.number := rfl
  have gutter := location.excerpt.gutter_length
  rw [number] at gutter
  refine ⟨location.excerpt.rows_feedless (location.echo_feedless single bounded), location.excerpt.rows_aligned,
    ⟨_, rfl, rfl⟩, ?_, ?_⟩
  · intro inside
    refine ⟨_, rfl, ?_, ?_⟩
    · simp [gutter, Text.columns]
      omega
    · rw [Excerpt.echoed, location.echo_inside c inside shown, number]
      simp only [List.append_assoc]
  · intro past
    have width := location.echo_past past (Nat.le_of_lt bounded)
    simp [Excerpt.echoed, gutter, number]
    omega

theorem headline_character (error error' : LexError) (character : error.character = error'.character) :
    error.headline = error'.headline := by
  obtain ⟨c, position⟩ := error
  obtain ⟨d, position'⟩ := error'
  obtain rfl : c = d := character
  rfl

theorem render_shown (error error' : LexError) (source source' origin : Text)
    (character : error.character = error'.character)
    (shown : (source.locationAt? error.position).map (fun location => location.excerpt.lines) =
      (source'.locationAt? error'.position).map fun location => location.excerpt.lines) :
    error.render source origin = error'.render source' origin := by
  rw [LexError.render, LexError.render, headline_character error error' character]
  cases located : source.locationAt? error.position with
  | none =>
      rw [located, Option.map_none, eq_comm, Option.map_eq_none_iff] at shown
      rw [shown]
  | some location =>
      rw [located, Option.map_some, eq_comm, Option.map_eq_some_iff] at shown
      obtain ⟨location', located', same⟩ := shown
      rw [located']
      dsimp only
      rw [same]

theorem render_located (error : LexError) (source origin : Text) (location : Location)
    (located : source.locationAt? error.position = some location) :
    error.render source origin =
      if location.excerpt.before.columns + 1 ≤ Excerpt.fieldLimit then
        .ok (Text.unlines [error.headline, "-> ".toList ++ origin] ++
          Text.unlines [location.excerpt.gutter, location.excerpt.echoed, location.excerpt.pointer])
      else .error .fieldTooWide := by
  have field : ['^'].leftpad (location.excerpt.before.columns + 1) '-' =
      List.replicate location.excerpt.before.columns '-' ++ ['^'] := rfl
  simp only [LexError.render, located, Excerpt.lines, Excerpt.caretField, field]
  split
  · simp [Except.map, Text.unlines, Excerpt.echoed, Excerpt.pointer]
  · rfl

theorem render_lines (error : LexError) (source origin rendered : Text) (location : Location)
    (located : source.locationAt? error.position = some location) (drawn : error.render source origin = .ok rendered) :
    rendered = Text.unlines [error.headline, "-> ".toList ++ origin] ++
      Text.unlines [location.excerpt.gutter, location.excerpt.echoed, location.excerpt.pointer] := by
  rw [render_located error source origin location located] at drawn
  split at drawn
  · exact (Except.ok.inj drawn).symm
  · cases drawn

theorem render_points (error : LexError) (source origin rendered : Text) (location : Location)
    (located : source.locationAt? error.position = some location) (drawn : error.render source origin = .ok rendered) :
    '\n' ∉ error.headline ∧
      ∃ c gutter echoed pointer caret, source.charAt? error.position = some c ∧
        rendered = Text.unlines [error.headline, "-> ".toList ++ origin] ++ Text.unlines [gutter, echoed, pointer] ∧
          Diagram location c gutter echoed pointer caret := by
  obtain ⟨single, c, stands, shown⟩ := location_shows source error.position location located
  exact ⟨headline_feedless error, c, _, _, _, _, stands,
    render_lines error source origin rendered location located drawn, excerpt_diagram location c single shown⟩

theorem render_points_line_feed :
    Text.locationAt? "7\n\ta\tb\r\n".toList 7 = some ⟨2, "\ta\tb\r\n".toList, 5⟩ ∧
      LexError.render ⟨'\n', 7⟩ "7\n\ta\tb\r\n".toList "stdin".toList =
          .ok "Error: UnrecognisedCharacter\n-> stdin\n  |\n2 | a    b\n  | -------^\n".toList ∧
        ∃ c gutter echoed pointer caret, Text.charAt? "7\n\ta\tb\r\n".toList 7 = some c ∧
          "Error: UnrecognisedCharacter\n-> stdin\n  |\n2 | a    b\n  | -------^\n".toList =
              Text.unlines [LexError.headline ⟨'\n', 7⟩, "-> ".toList ++ "stdin".toList] ++
                Text.unlines [gutter, echoed, pointer] ∧
            Diagram ⟨2, "\ta\tb\r\n".toList, 5⟩ c gutter echoed pointer caret := by
  have located : Text.locationAt? "7\n\ta\tb\r\n".toList 7 = some ⟨2, "\ta\tb\r\n".toList, 5⟩ := rfl
  have drawn : LexError.render ⟨'\n', 7⟩ "7\n\ta\tb\r\n".toList "stdin".toList =
      .ok "Error: UnrecognisedCharacter\n-> stdin\n  |\n2 | a    b\n  | -------^\n".toList := rfl
  exact ⟨located, drawn, (render_points ⟨'\n', 7⟩ _ "stdin".toList _ _ located drawn).2⟩

end ArithScan
