import ArithScan.Proofs.Locating
import Mathlib.Data.List.DropRight

set_option autoImplicit false

namespace ArithScan

def Text.Fed (above : Text) : Prop := above = [] ∨ above.getLast? = some '\n'

structure LineIn (text above line below : Text) : Prop where
  whole : text = above ++ line ++ below
  opened : above.Fed
  single : '\n' ∉ line.dropLast
  closed : line.getLast? = some '\n' ∨ below = []

theorem fed_tail (c : Char) (rest : Text) (filled : rest ≠ []) (opened : Text.Fed (c :: rest)) : rest.Fed := by
  cases opened with
  | inl nothing => cases nothing
  | inr last =>
      rw [List.getLast?_cons_of_ne_nil filled] at last
      exact .inr last

theorem lines_filled (text : Text) (filled : text ≠ []) : text.lines ≠ [] := by
  intro nothing
  have whole := Text.lines_flatten text
  rw [nothing] at whole
  exact filled whole.symm

theorem start_line_append (c : Char) (lines later : List Text) (filled : lines ≠ []) :
    Text.startLine c (lines ++ later) = Text.startLine c lines ++ later := by
  rw [Text.startLine.eq_def, Text.startLine.eq_def]
  by_cases feed : c = '\n'
  · rw [if_pos feed, if_pos feed, List.cons_append]
  · rw [if_neg feed, if_neg feed]
    cases lines with
    | nil => exact absurd rfl filled
    | cons line others => rfl

theorem lines_fed_append (above rest : Text) (opened : above.Fed) :
    Text.lines (above ++ rest) = above.lines ++ rest.lines := by
  induction above with
  | nil => rfl
  | cons c tail ih =>
      by_cases last : tail = []
      · subst last
        have feed : c = '\n' := by simpa [Text.Fed] using opened
        subst feed
        rfl
      · rw [List.cons_append, Text.lines_cons, Text.lines_cons, ih (fed_tail c tail last opened),
          start_line_append c _ _ (lines_filled tail last)]

theorem start_line_length (c : Char) (lines : List Text) (filled : lines ≠ []) :
    (Text.startLine c lines).length = lines.length + if c = '\n' then 1 else 0 := by
  rw [Text.startLine.eq_def]
  by_cases feed : c = '\n'
  · rw [if_pos feed, if_pos feed, List.length_cons]
  · rw [if_neg feed, if_neg feed]
    cases lines with
    | nil => exact absurd rfl filled
    | cons line others => rfl

theorem lines_fed_length (above : Text) (opened : above.Fed) : above.lines.length = above.count '\n' := by
  induction above with
  | nil => rfl
  | cons c tail ih =>
      by_cases last : tail = []
      · subst last
        have feed : c = '\n' := by simpa [Text.Fed] using opened
        subst feed
        rfl
      · rw [Text.lines_cons, start_line_length c _ (lines_filled tail last), ih (fed_tail c tail last opened),
          List.count_cons]
        simp only [beq_iff_eq]

theorem lines_first (line below : Text) (filled : line ≠ []) (single : '\n' ∉ line.dropLast)
    (closed : line.getLast? = some '\n' ∨ below = []) : Text.lines (line ++ below) = line :: below.lines := by
  by_cases fed : line.getLast? = some '\n'
  · obtain ⟨body, rfl⟩ := List.getLast?_eq_some_iff.mp fed
    rw [List.dropLast_concat] at single
    rw [List.append_assoc, List.singleton_append, lines_feed body below single]
  · have last : below = [] := closed.resolve_left fed
    rw [last, List.append_nil, lines_bare line filled (unfed_bare line single fed)]
    rfl

theorem locate_past (number offset : Nat) (passed rest : List Text) :
    locate? number (passed ++ rest) (Text.byteLength passed.flatten + offset) =
      locate? (number + passed.length) rest offset := by
  induction passed generalizing number with
  | nil => simp
  | cons line later ih =>
      rw [List.cons_append, List.flatten_cons, Text.byte_length_append, Nat.add_assoc, locate?,
        if_neg (Nat.not_lt_of_le (Nat.le_add_right _ _)), Nat.add_sub_cancel_left, ih, List.length_cons,
        Nat.add_assoc number, Nat.add_comm 1]

theorem inside_filled (line : Text) (offset : Nat) (inside : offset < line.byteLength) : line ≠ [] := by
  intro nothing
  rw [nothing, Text.byte_length_nil] at inside
  exact Nat.not_lt_zero offset inside

theorem line_located (text above line below : Text) (offset : Nat) (stands : LineIn text above line below)
    (inside : offset < line.byteLength) :
    text.locationAt? (above.byteLength + offset) =
      (line.charIndex? offset).map fun column => ⟨above.count '\n' + 1, line, column⟩ := by
  have filled := inside_filled line offset inside
  have cut : text.lines = above.lines ++ line :: below.lines := by
    rw [stands.whole, List.append_assoc, lines_fed_append above _ stands.opened,
      lines_first line below filled stands.single stands.closed]
  have passed := locate_past 1 offset above.lines (line :: below.lines)
  rw [Text.lines_flatten, lines_fed_length above stands.opened] at passed
  rw [Text.locationAt?, cut, passed, locate?, if_pos inside, Nat.add_comm 1]

theorem last_feed_cut (before : Text) : ∃ above lead, before = above ++ lead ∧ above.Fed ∧ '\n' ∉ lead := by
  refine ⟨before.rdropWhile (· ≠ '\n'), before.rtakeWhile (· ≠ '\n'), List.rdropWhile_append_rtakeWhile.symm, ?_, ?_⟩
  · by_cases empty : before.rdropWhile (· ≠ '\n') = []
    · exact .inl empty
    · have last := List.rdropWhile_last_not (· ≠ '\n') before empty
      rw [Text.Fed, List.getLast?_eq_some_getLast empty]
      exact .inr (congrArg some (by simpa using last))
  · intro member
    simpa using List.mem_rtakeWhile_imp member

theorem next_feed_cut (after : Text) (left : after ≠ []) :
    ∃ rest below, after = rest ++ below ∧ rest ≠ [] ∧ '\n' ∉ rest.dropLast ∧
      (rest.getLast? = some '\n' ∨ below = []) := by
  by_cases fed : '\n' ∈ after
  · obtain ⟨body, below, cut, clean⟩ := List.eq_append_cons_of_mem fed
    refine ⟨body ++ ['\n'], below, by simpa using cut, by simp, ?_, .inl List.getLast?_concat⟩
    rwa [List.dropLast_concat]
  · exact ⟨after, [], (List.append_nil after).symm, left, fun member => fed (List.dropLast_subset after member), .inr rfl⟩

-- A text in four parts: what is above the line of a place, the line up to the place and
-- from there on, and what is below the line.
structure PlaceCut (above lead rest below : Text) : Prop where
  opened : above.Fed
  clean : '\n' ∉ lead
  filled : rest ≠ []
  single : '\n' ∉ rest.dropLast
  closed : rest.getLast? = some '\n' ∨ below = []

theorem place_cut (before after : Text) (left : after ≠ []) :
    ∃ above lead rest below, before = above ++ lead ∧ after = rest ++ below ∧ PlaceCut above lead rest below := by
  obtain ⟨above, lead, ahead, opened, clean⟩ := last_feed_cut before
  obtain ⟨rest, below, behind, filled, single, closed⟩ := next_feed_cut after left
  exact ⟨above, lead, rest, below, ahead, behind, opened, clean, filled, single, closed⟩

namespace PlaceCut

variable {above lead rest below : Text}

theorem line_in (cut : PlaceCut above lead rest below) :
    LineIn (above ++ lead ++ (rest ++ below)) above (lead ++ rest) below where
  whole := by simp only [List.append_assoc]
  opened := cut.opened
  single := by
    rw [List.dropLast_append_of_ne_nil cut.filled]
    exact List.not_mem_append cut.clean cut.single
  closed := by
    rw [List.getLast?_append_of_ne_nil lead cut.filled]
    exact cut.closed

theorem located (cut : PlaceCut above lead rest below) :
    Text.locationAt? (above ++ lead ++ (rest ++ below)) (above ++ lead).byteLength =
      some ⟨above.count '\n' + 1, lead ++ rest, lead.length⟩ := by
  have more := Text.byte_length_pos rest cut.filled
  have inside : lead.byteLength < (lead ++ rest).byteLength := by
    rw [Text.byte_length_append]
    omega
  rw [Text.byte_length_append, line_located _ above (lead ++ rest) below lead.byteLength cut.line_in inside,
    Text.char_index_split, Option.map_some]

theorem count_feeds (cut : PlaceCut above lead rest below) : (above ++ lead).count '\n' = above.count '\n' := by
  rw [List.count_append, List.count_eq_zero.mpr cut.clean, Nat.add_zero]

end PlaceCut

theorem located_place (text : Text) (position : Nat) (location : Location)
    (located : text.locationAt? position = some location) :
    ∃ before after, text = before ++ after ∧ after ≠ [] ∧ before.byteLength = position := by
  obtain ⟨earlier, later, cut, _, bounded, place⟩ := (location_iff text position location).mp located
  have whole := Text.lines_flatten text
  rw [cut, List.flatten_append, List.flatten_cons] at whole
  refine ⟨earlier.flatten ++ location.line.take location.column, location.line.drop location.column ++ later.flatten,
    ?_, ?_, ?_⟩
  · rw [List.append_assoc, ← List.append_assoc (location.line.take _), List.take_append_drop, whole]
  · apply List.append_ne_nil_of_left_ne_nil
    rw [ne_eq, List.drop_eq_nil_iff]
    exact Nat.not_le_of_lt bounded
  · rw [place, Text.byte_length_append]

-- What stands in front of a place on its own line.
def LeadsTo (text : Text) (position : Nat) (lead : Text) : Prop :=
  ∃ above after, text = above ++ lead ++ after ∧ after ≠ [] ∧ (above ++ lead).byteLength = position ∧ above.Fed ∧
    '\n' ∉ lead

theorem leads_located (text : Text) (position : Nat) (lead : Text) (leads : LeadsTo text position lead) :
    ∃ location, text.locationAt? position = some location ∧ location.line.take location.column = lead := by
  obtain ⟨above, after, rfl, left, rfl, opened, clean⟩ := leads
  obtain ⟨rest, below, rfl, filled, single, closed⟩ := next_feed_cut after left
  have cut : PlaceCut above lead rest below := ⟨opened, clean, filled, single, closed⟩
  exact ⟨_, cut.located, List.take_left⟩

theorem place_leads (before after : Text) (left : after ≠ []) :
    ∃ lead, LeadsTo (before ++ after) before.byteLength lead := by
  obtain ⟨above, lead, rfl, opened, clean⟩ := last_feed_cut before
  exact ⟨lead, above, after, rfl, left, rfl, opened, clean⟩

theorem leads_iff (text : Text) (position : Nat) (lead : Text) :
    LeadsTo text position lead ↔
      ∃ location, text.locationAt? position = some location ∧ location.line.take location.column = lead := by
  refine ⟨leads_located text position lead, ?_⟩
  intro found
  obtain ⟨location, located, rfl⟩ := found
  obtain ⟨before, after, rfl, left, rfl⟩ := located_place text position location located
  obtain ⟨lead, leads⟩ := place_leads before after left
  obtain ⟨other, located', same⟩ := leads_located _ _ lead leads
  obtain rfl : other = location := Option.some.inj (located'.symm.trans located)
  exact same.symm ▸ leads

theorem place_iff (text : Text) (position : Nat) :
    (∃ before after, text = before ++ after ∧ after ≠ [] ∧ before.byteLength = position) ↔
      position < text.byteLength ∧ ∃ before, text.slice? 0 position = some before := by
  apply Iff.intro
  · intro place
    obtain ⟨before, after, rfl, left, rfl⟩ := place
    have more := Text.byte_length_pos after left
    refine ⟨by rw [Text.byte_length_append]; omega, before, (Text.slice_iff _ _ _ _).mpr ⟨[], after, ?_, rfl, ?_⟩⟩
    · rw [List.nil_append]
    · exact Nat.zero_add _
  · intro place
    obtain ⟨short, before, shown⟩ := place
    obtain ⟨nothing, after, cut, empty, ends⟩ := (Text.slice_iff text before 0 position).mp shown
    have none := Text.byte_length_zero nothing empty
    rw [none, List.nil_append] at cut
    refine ⟨before, after, cut, ?_, by omega⟩
    intro last
    rw [cut, last, List.append_nil] at short
    omega

theorem located_iff (text : Text) (position : Nat) :
    (∃ location, text.locationAt? position = some location) ↔
      position < text.byteLength ∧ ∃ before, text.slice? 0 position = some before := by
  rw [← place_iff]
  apply Iff.intro
  · intro found
    obtain ⟨location, located⟩ := found
    exact located_place text position location located
  · intro place
    obtain ⟨before, after, rfl, left, rfl⟩ := place
    obtain ⟨lead, leads⟩ := place_leads before after left
    obtain ⟨location, located, _⟩ := leads_located _ _ lead leads
    exact ⟨location, located⟩

def LineStart (before : Text) (start : Nat) : Prop :=
  ('\n' ∉ before ∧ start = 0) ∨
    ∃ above lead, before = above ++ '\n' :: lead ∧ '\n' ∉ lead ∧ start = above.byteLength + 1

def LineStop (position : Nat) (after : Text) (stop : Nat) : Prop :=
  ('\n' ∉ after ∧ stop = position + after.byteLength) ∨
    ∃ rest below, after = rest ++ '\n' :: below ∧ '\n' ∉ rest ∧ stop = position + rest.byteLength + 1

theorem line_start_iff (before : Text) (start : Nat) :
    LineStart before start ↔
      ∃ above lead, before = above ++ lead ∧ above.Fed ∧ '\n' ∉ lead ∧ above.byteLength = start := by
  have width : ∀ above : Text, (above ++ ['\n']).byteLength = above.byteLength + 1 :=
    fun above => Text.byte_length_append above ['\n']
  apply Iff.intro
  · intro starts
    cases starts with
    | inl first => exact ⟨[], before, rfl, .inl rfl, first.1, first.2.symm⟩
    | inr later =>
        obtain ⟨above, lead, rfl, clean, rfl⟩ := later
        exact ⟨above ++ ['\n'], lead, by simp, .inr List.getLast?_concat, clean, width above⟩
  · intro cut
    obtain ⟨above, lead, rfl, opened, clean, rfl⟩ := cut
    cases opened with
    | inl first =>
        subst first
        exact .inl ⟨clean, rfl⟩
    | inr later =>
        obtain ⟨front, rfl⟩ := List.getLast?_eq_some_iff.mp later
        exact .inr ⟨front, lead, by simp, clean, width front⟩

theorem line_stop_iff (position : Nat) (after : Text) (stop : Nat) (left : after ≠ []) :
    LineStop position after stop ↔
      ∃ rest below, after = rest ++ below ∧ rest ≠ [] ∧ '\n' ∉ rest.dropLast ∧
        (rest.getLast? = some '\n' ∨ below = []) ∧ position + rest.byteLength = stop := by
  have width : ∀ rest : Text, (rest ++ ['\n']).byteLength = rest.byteLength + 1 :=
    fun rest => Text.byte_length_append rest ['\n']
  apply Iff.intro
  · intro stops
    cases stops with
    | inl last =>
        exact ⟨after, [], (List.append_nil after).symm, left, fun member => last.1 (List.dropLast_subset after member),
          .inr rfl, last.2.symm⟩
    | inr earlier =>
        obtain ⟨rest, below, rfl, clean, rfl⟩ := earlier
        refine ⟨rest ++ ['\n'], below, by simp, by simp, ?_, .inl List.getLast?_concat, ?_⟩
        · rwa [List.dropLast_concat]
        · rw [width, Nat.add_assoc]
  · intro cut
    obtain ⟨rest, below, rfl, filled, single, closed, rfl⟩ := cut
    by_cases fed : rest.getLast? = some '\n'
    · obtain ⟨body, rfl⟩ := List.getLast?_eq_some_iff.mp fed
      rw [List.dropLast_concat] at single
      exact .inr ⟨body, below, by simp, single, by rw [width, Nat.add_assoc]⟩
    · have last : below = [] := closed.resolve_left fed
      subst last
      exact .inl ⟨by simpa using unfed_bare rest single fed, by rw [List.append_nil]⟩

-- What a location tells of a place, by the line feeds in front of it and behind it.
structure Bounds (text before after : Text) (start stop : Nat) (location : Location) : Prop where
  starts : LineStart before start
  stops : LineStop before.byteLength after stop
  numbered : location.number = 1 + before.count '\n'
  shown : text.slice? start stop = some location.line
  counted : ∃ lead, text.slice? start before.byteLength = some lead ∧ location.column = lead.length
  single : '\n' ∉ location.line.dropLast
  closed : location.line.getLast? = some '\n' ∨ stop = text.byteLength

theorem cut_slices (above lead rest below : Text) :
    Text.slice? (above ++ lead ++ (rest ++ below)) above.byteLength ((above ++ lead).byteLength + rest.byteLength) =
        some (lead ++ rest) ∧
      Text.slice? (above ++ lead ++ (rest ++ below)) above.byteLength (above ++ lead).byteLength = some lead := by
  refine ⟨(Text.slice_iff _ _ _ _).mpr ⟨above, below, ?_, rfl, ?_⟩,
    (Text.slice_iff _ _ _ _).mpr ⟨above, rest ++ below, rfl, rfl, (Text.byte_length_append above lead).symm⟩⟩
  · simp only [List.append_assoc]
  · rw [Text.byte_length_append, Text.byte_length_append, Nat.add_assoc]

theorem cut_bounds (above lead rest below : Text) (cut : PlaceCut above lead rest below) :
    Bounds (above ++ lead ++ (rest ++ below)) (above ++ lead) (rest ++ below) above.byteLength
      ((above ++ lead).byteLength + rest.byteLength) ⟨above.count '\n' + 1, lead ++ rest, lead.length⟩ where
  starts := (line_start_iff _ _).mpr ⟨above, lead, rfl, cut.opened, cut.clean, rfl⟩
  stops := (line_stop_iff _ _ _ (List.append_ne_nil_of_left_ne_nil cut.filled below)).mpr
    ⟨rest, below, rfl, cut.filled, cut.single, cut.closed, rfl⟩
  numbered := by rw [cut.count_feeds, Nat.add_comm]
  shown := (cut_slices above lead rest below).1
  counted := ⟨lead, (cut_slices above lead rest below).2, rfl⟩
  single := cut.line_in.single
  closed := by
    apply cut.line_in.closed.imp_right
    intro last
    rw [last, List.append_nil, ← Text.byte_length_append]

theorem bounds_located (before after : Text) (start stop : Nat) (location : Location) (left : after ≠ [])
    (bounds : Bounds (before ++ after) before after start stop location) :
    Text.locationAt? (before ++ after) before.byteLength = some location := by
  obtain ⟨starts, stops, numbered, shown, ⟨lead, ahead, column⟩, _, _⟩ := bounds
  obtain ⟨above, front, rfl, opened, clean, rfl⟩ := (line_start_iff _ _).mp starts
  obtain ⟨rest, below, rfl, filled, single, closed, rfl⟩ := (line_stop_iff _ _ _ left).mp stops
  have cut : PlaceCut above front rest below := ⟨opened, clean, filled, single, closed⟩
  obtain ⟨shown', ahead'⟩ := cut_slices above front rest below
  have line : front ++ rest = location.line := Option.some.inj (shown'.symm.trans shown)
  have same : front = lead := Option.some.inj (ahead'.symm.trans ahead)
  rw [cut.count_feeds, Nat.add_comm] at numbered
  rw [cut.located, line, same, ← numbered, ← column]

theorem location_bounds (text : Text) (position : Nat) :
    ((∃ location, text.locationAt? position = some location) ↔
        position < text.byteLength ∧ ∃ before, text.slice? 0 position = some before) ∧
      ∀ location, text.locationAt? position = some location ↔
        ∃ before after start stop, text = before ++ after ∧ after ≠ [] ∧ before.byteLength = position ∧
          Bounds text before after start stop location := by
  refine ⟨located_iff text position, ?_⟩
  intro location
  apply Iff.intro
  · intro located
    obtain ⟨before, after, rfl, left, rfl⟩ := located_place text position location located
    obtain ⟨above, lead, rest, below, rfl, rfl, cut⟩ := place_cut before after left
    obtain rfl := Option.some.inj (cut.located.symm.trans located)
    exact ⟨_, _, _, _, rfl, left, rfl, cut_bounds above lead rest below cut⟩
  · intro bounded
    obtain ⟨before, after, start, stop, rfl, left, rfl, bounds⟩ := bounded
    exact bounds_located before after start stop location left bounds

example :
    Text.locationAt? "1\n2\r\u20283\n".toList 7 = some ⟨2, "2\r\u20283\n".toList, 3⟩ ∧
      Text.locationAt? "1\n2\r\u20283\n".toList 8 = some ⟨2, "2\r\u20283\n".toList, 4⟩ ∧
        Text.locationAt? "1\n2\r\u20283\n".toList 5 = none := by
  decide

end ArithScan
