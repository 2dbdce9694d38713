import ArithScan.Proofs.Reporting

set_option autoImplicit false

namespace ArithScan

namespace Text

-- Where an offset goes when the tabs in front of it are expanded: a tab is one byte,
-- and three more bytes take its place.
def expandedOffset (text : Text) (offset : Nat) : Nat :=
  offset + 3 * (text.toBytes.take offset).count 9

theorem expand_tab_other (c : Char) (other : c ≠ '\t') : expandTab c = [c] := if_neg other

theorem tabless_bytes (c : Char) (other : c ≠ '\t') : 9 ∉ String.utf8EncodeChar c := by
  rw [ascii_byte_iff c 9 (by decide)]
  exact fun same => other (Char.toNat_inj.mp same)

theorem expanded_width (c : Char) : (expandTab c).byteLength = c.utf8Size + 3 * (String.utf8EncodeChar c).count 9 := by
  by_cases tab : c = '\t'
  · subst tab
    rfl
  · rw [expand_tab_other c tab, List.count_eq_zero.mpr (tabless_bytes c tab), byte_length_cons, byte_length_nil]

theorem expanded_length (text : Text) : text.expandTabs.byteLength = text.byteLength + 3 * text.toBytes.count 9 := by
  induction text with
  | nil => rfl
  | cons c rest ih =>
      rw [expand_tabs_cons, byte_length_append, byte_length_cons, expanded_width, ih, to_bytes_cons, List.count_append]
      omega

theorem expanded_ahead (left right : Text) (offset : Nat) (inside : offset ≤ left.byteLength) :
    (left ++ right).expandedOffset offset = left.expandedOffset offset := by
  rw [expandedOffset, expandedOffset, to_bytes_append, List.take_append_of_le_length]
  rwa [to_bytes_length]

theorem expanded_behind (left right : Text) (offset : Nat) :
    (left ++ right).expandedOffset (left.byteLength + offset) =
      left.expandTabs.byteLength + right.expandedOffset offset := by
  rw [expandedOffset, expandedOffset, expanded_length, to_bytes_append, ← to_bytes_length left,
    List.take_length_add_append, List.count_append]
  omega

theorem expanded_inside (text : Text) (offset : Nat) (inside : offset < text.byteLength) :
    text.expandedOffset offset < text.expandTabs.byteLength := by
  have fewer := (List.take_sublist offset text.toBytes).count_le 9
  rw [expandedOffset, expanded_length]
  omega

theorem expanded_lines (text : Text) : text.expandTabs.lines = text.lines.map expandTabs := by
  induction text with
  | nil => rfl
  | cons c rest ih =>
      rw [expand_tabs_cons, lines_cons]
      by_cases tab : c = '\t'
      · subst tab
        have spaces : lines (expandTab '\t' ++ expandTabs rest) =
          startLine ' ' (startLine ' ' (startLine ' ' (startLine ' ' (lines (expandTabs rest))))) := rfl
        rw [spaces, ih]
        cases lines rest <;> rfl
      · rw [expand_tab_other c tab, List.singleton_append, lines_cons, ih, startLine.eq_def, startLine.eq_def]
        by_cases feed : c = '\n'
        · rw [if_pos feed, if_pos feed]
          rfl
        · rw [if_neg feed, if_neg feed]
          cases lines rest with
          | nil => simp [expandTabs, expand_tab_other c tab]
          | cons line later => simp [expand_tab_other c tab]

-- Only a character of several bytes has an inside, and that is no tab.
theorem expanded_within (c : Char) (rest : Text) (offset : Nat) (positive : 0 < offset) (short : offset < c.utf8Size) :
    charIndex? (expandTabs (c :: rest)) (expandedOffset (c :: rest) offset) = none := by
  have other : c ≠ '\t' := by
    rintro rfl
    have narrow : Char.utf8Size '\t' = 1 := rfl
    omega
  have still : expandedOffset (c :: rest) offset = offset := by
    have bytes : (toBytes (c :: rest)).take offset = (String.utf8EncodeChar c).take offset := by
      rw [to_bytes_cons, List.take_append_of_le_length]
      rw [String.length_utf8EncodeChar]
      exact Nat.le_of_lt short
    have none : ((String.utf8EncodeChar c).take offset).count 9 = 0 :=
      List.count_eq_zero.mpr fun member => tabless_bytes c other (List.mem_of_mem_take member)
    rw [expandedOffset, bytes, none, Nat.mul_zero, Nat.add_zero]
  rw [still, expand_tabs_cons, expand_tab_other c other, List.singleton_append]
  exact char_index_within c _ offset positive short

theorem expanded_index (text : Text) (offset : Nat) :
    text.expandTabs.charIndex? (text.expandedOffset offset) =
      (text.charIndex? offset).map fun index => columns (text.take index) := by
  induction text generalizing offset with
  | nil => cases offset <;> rfl
  | cons c rest ih =>
      have width : c.utf8Size = byteLength [c] := by simp
      have split : expandTabs (c :: rest) = expandTabs [c] ++ expandTabs rest := expand_tabs_append [c] rest
      by_cases past : c.utf8Size ≤ offset
      · obtain ⟨more, rfl⟩ := Nat.exists_eq_add_of_le past
        have moved := expanded_behind [c] rest more
        have found := char_index_append [c] rest more
        rw [List.singleton_append, ← width] at moved found
        rw [found, moved, split, char_index_append, ih, Option.map_map, Option.map_map]
        congr 1
        funext index
        simp only [Function.comp_apply, List.length_singleton, Nat.add_comm 1, List.take_succ_cons]
        exact (columns_append [c] (rest.take index)).symm
      · by_cases here : offset = 0
        · subst here
          have still : expandedOffset (c :: rest) 0 = 0 := by rw [expandedOffset, List.take_zero]; rfl
          rw [still, char_index_zero, char_index_zero]
          rfl
        · have positive := Nat.pos_of_ne_zero here
          have short := Nat.lt_of_not_le past
          rw [expanded_within c rest offset positive short, char_index_within c rest offset positive short]
          rfl

theorem expand_tabs_twice (text : Text) : text.expandTabs.expandTabs = text.expandTabs := by
  induction text with
  | nil => rfl
  | cons c rest ih =>
      rw [expand_tabs_cons, expand_tabs_append, ih]
      by_cases tab : c = '\t'
      · subst tab
        rfl
      · simp [expandTabs, expand_tab_other c tab]

theorem expand_tabs_indented (text : Text) :
    text.expandTabs.dropWhile isWhiteSpace = expandTabs (text.dropWhile isWhiteSpace) := by
  induction text with
  | nil => rfl
  | cons c rest ih =>
      rw [expand_tabs_cons]
      by_cases tab : c = '\t'
      · subst tab
        exact ih
      · rw [expand_tab_other c tab, List.singleton_append, List.dropWhile_cons, List.dropWhile_cons]
        by_cases white : isWhiteSpace c = true
        · rw [if_pos white, if_pos white, ih]
        · rw [if_neg white, if_neg white, expand_tabs_cons, expand_tab_other c tab, List.singleton_append]

theorem expand_tabs_trimmed (text : Text) : text.expandTabs.trimLineEnd = text.trimLineEnd.expandTabs := by
  induction text using List.reverseRecOn with
  | nil => rfl
  | append_singleton init c ih =>
      have last : expandTabs [c] = expandTab c := by simp
      rw [expand_tabs_append, last]
      by_cases ends : isLineEnd c = true
      · have tab : c ≠ '\t' := by
          rintro rfl
          cases ends
        rw [expand_tab_other c tab, trim_ends _ [c] (by simpa using ends), trim_ends _ [c] (by simpa using ends), ih]
      · have solid : trimLineEnd [c] = [c] := by simp [trimLineEnd, ends]
        have solid' : trimLineEnd (expandTab c) = expandTab c := by
          by_cases tab : c = '\t'
          · subst tab
            rfl
          · rw [expand_tab_other c tab, solid]
        have filled : expandTab c ≠ [] := by
          rw [expandTab]
          split <;> simp [tabWidth]
        rw [trim_solid_end _ _ filled solid', trim_solid_end _ _ (by simp) solid, expand_tabs_append, last]

end Text

def Location.expand (location : Location) : Location :=
  ⟨location.number, location.line.expandTabs, Text.columns (location.line.take location.column)⟩

theorem locate_expanded (number offset : Nat) (lines : List Text) :
    locate? number (lines.map Text.expandTabs) (Text.expandedOffset lines.flatten offset) =
      (locate? number lines offset).map Location.expand := by
  induction lines generalizing number offset with
  | nil => rfl
  | cons line rest ih =>
      rw [List.map_cons, List.flatten_cons, locate?, locate?]
      by_cases inside : offset < line.byteLength
      · rw [Text.expanded_ahead line _ offset (Nat.le_of_lt inside), if_pos inside,
          if_pos (Text.expanded_inside line offset inside), Text.expanded_index, Option.map_map, Option.map_map]
        rfl
      · obtain ⟨more, rfl⟩ := Nat.exists_eq_add_of_le (Nat.le_of_not_lt inside)
        rw [Text.expanded_behind, if_neg inside, if_neg (by omega), Nat.add_sub_cancel_left, Nat.add_sub_cancel_left, ih]

theorem location_expanded (source : Text) (position : Nat) :
    source.expandTabs.locationAt? (source.expandedOffset position) =
      (source.locationAt? position).map Location.expand := by
  have located := locate_expanded 1 position source.lines
  rwa [Text.lines_flatten, ← Text.expanded_lines] at located

def Excerpt.expand (excerpt : Excerpt) : Excerpt :=
  ⟨excerpt.number, excerpt.before.expandTabs, excerpt.after.expandTabs⟩

theorem excerpt_expanded (location : Location) : location.expand.excerpt = location.excerpt.expand := by
  have cut : location.line.expandTabs =
      Text.expandTabs (location.line.take location.column) ++ Text.expandTabs (location.line.drop location.column) := by
    rw [← Text.expand_tabs_append, List.take_append_drop]
  simp only [Location.excerpt, Excerpt.expand, Location.expand, cut, Text.columns, List.take_left, List.drop_left,
    Text.expand_tabs_indented]

theorem lines_expanded (excerpt : Excerpt) : excerpt.expand.lines = excerpt.lines := by
  have echo : excerpt.expand.echo = excerpt.echo := by
    rw [Excerpt.echo, Excerpt.expand, ← Text.expand_tabs_append, Text.expand_tabs_trimmed, Text.expand_tabs_twice]
    rfl
  have field : excerpt.expand.caretField = excerpt.caretField := by
    rw [Excerpt.caretField, Excerpt.expand, Text.columns, Text.expand_tabs_twice]
    rfl
  rw [Excerpt.lines, echo, field]
  rfl

theorem render_expanded (error : LexError) (source origin : Text) :
    LexError.render ⟨error.character, source.expandedOffset error.position⟩ source.expandTabs origin =
      error.render source origin := by
  apply render_shown ⟨error.character, source.expandedOffset error.position⟩ error _ _ origin rfl
  rw [location_expanded, Option.map_map]
  congr 1
  funext location
  rw [Function.comp_apply, excerpt_expanded, lines_expanded]

theorem expand_blank (c : Char) (blank : isBlank c = true) : ∀ d ∈ Text.expandTab c, isBlank d = true := by
  by_cases tab : c = '\t'
  · subst tab
    intro d member
    rw [List.eq_of_mem_replicate member, space_blank]
  · rw [Text.expand_tab_other c tab]
    exact List.forall_mem_singleton.mpr blank

theorem expand_acceptable (text : Text) (acceptable : ∀ c ∈ text, Acceptable c) :
    ∀ c ∈ text.expandTabs, Acceptable c := by
  intro d member
  obtain ⟨c, inside, shown⟩ := List.mem_flatMap.mp member
  by_cases tab : c = '\t'
  · subst tab
    exact blank_acceptable d (expand_blank '\t' tab_blank d shown)
  · rw [Text.expand_tab_other c tab] at shown
    exact List.mem_singleton.mp shown ▸ acceptable c inside

theorem expand_tabs_value (kind : TokenKind) (value : Text) (spelled : kind.Spells value) : value.expandTabs = value := by
  have tabless : ∀ c ∈ value, Text.expandTab c = [c] := by
    intro c member
    apply Text.expand_tab_other
    rintro rfl
    exact spells_no_blank kind value spelled '\t' tab_blank member
  rw [Text.expandTabs, List.flatMap_congr tabless]
  exact List.flatMap_singleton' value

theorem stops_expanded (kind : TokenKind) (rest : Text) (stop : Stops kind.continues rest) :
    Stops kind.continues rest.expandTabs := by
  cases rest with
  | nil => exact stop
  | cons c tail =>
      rw [Text.expand_tabs_cons]
      by_cases tab : c = '\t'
      · subst tab
        exact blank_stops kind ' ' _ space_blank
      · rw [Text.expand_tab_other c tab]
        exact stop

theorem scans_expanded (position position' : Nat) (text : Text) (tokens : List Token)
    (scan : Scans position text tokens none) :
    ∃ tokens', Scans position' text.expandTabs tokens' none ∧ tokens'.map Token.display = tokens.map Token.display := by
  generalize success : (none : Option LexError) = error? at scan
  induction scan generalizing position' with
  | done => exact ⟨[], .done position', rfl⟩
  | refused => cases success
  | blank position c rest tokens error? skipped _ ih =>
      obtain ⟨tokens', later, same⟩ := ih (position' + (Text.expandTab c).byteLength) success
      rw [Text.expand_tabs_cons]
      exact ⟨tokens', (scans_blanks position' _ _ tokens' _ (expand_blank c skipped)).mpr later, same⟩
  | token position kind value rest tokens error? spelled stop _ ih =>
      obtain ⟨tokens', later, same⟩ := ih (position' + value.byteLength) success
      rw [Text.expand_tabs_append, expand_tabs_value kind value spelled]
      refine ⟨_, .token position' kind value _ tokens' _ spelled (stops_expanded kind rest stop) later, ?_⟩
      rw [List.map_cons, List.map_cons, same]
      rfl

theorem accepted_expanded (source : Text) (accepted : Accepted source) :
    Accepted source.expandTabs ∧ displayed source.expandTabs = displayed source := by
  obtain ⟨tokens, scan, shown⟩ := accepted_scans source accepted
  obtain ⟨tokens', scan', same⟩ := scans_expanded 0 0 source tokens scan
  rw [shown, ← same]
  exact scans_accepted source.expandTabs tokens' scan'

theorem refused_expanded (source : Text) (error : LexError) (refused : tokenize source = .error error) :
    tokenize source.expandTabs = .error ⟨error.character, source.expandedOffset error.position⟩ := by
  obtain ⟨before, after, rfl, place, acceptable, foreign⟩ := (refused_iff source error).mp refused
  have tab : error.character ≠ '\t' := by
    intro same
    exact foreign (same ▸ blank_acceptable '\t' tab_blank)
  refine (refused_iff _ _).mpr ⟨before.expandTabs, Text.expandTabs after, ?_, ?_,
    expand_acceptable before acceptable, foreign⟩
  · rw [Text.expand_tabs_append, Text.expand_tabs_cons, Text.expand_tab_other _ tab, List.singleton_append]
  · have moved := Text.expanded_behind before (error.character :: after) 0
    rw [Nat.add_zero, ← place] at moved
    exact moved

theorem report_expand_tabs (source origin : Text) :
    (∀ error : LexError,
        LexError.render ⟨error.character, error.position + 3 * (source.toBytes.take error.position).count 9⟩
            source.expandTabs origin =
          error.render source origin) ∧
      report source.expandTabs origin = report source origin := by
  refine ⟨fun error => render_expanded error source origin, ?_⟩
  cases made : tokenize source with
  | ok tokens =>
      obtain ⟨accepted, same⟩ := accepted_expanded source ⟨tokens, made⟩
      rw [report_accepted _ origin accepted, report_accepted source origin ⟨tokens, made⟩, same]
  | error error =>
      rw [report_refused _ origin _ (refused_expanded source error made), report_refused source origin error made,
        render_expanded]

end ArithScan
