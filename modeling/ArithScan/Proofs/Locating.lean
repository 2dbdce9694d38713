import ArithScan.Location
import ArithScan.Proofs.Slice

set_option autoImplicit false

namespace ArithScan

-- A text cut after each of its line feeds. Only what follows the last one may be
-- without a line feed of its own.
structure LinesOf (text : Text) (lines : List Text) : Prop where
  whole : lines.flatten = text
  nonempty : ∀ line ∈ lines, line ≠ []
  single : ∀ line ∈ lines, '\n' ∉ line.dropLast
  ended : ∀ line ∈ lines.dropLast, line.getLast? = some '\n'

theorem lines_of_feed (rest : Text) (lines : List Text) (cut : LinesOf rest lines) :
    LinesOf ('\n' :: rest) (['\n'] :: lines) where
  whole := by rw [List.flatten_cons, cut.whole, List.singleton_append]
  nonempty := by simpa using cut.nonempty
  single := by simpa using cut.single
  ended := by
    have ended := cut.ended
    cases lines with
    | nil => simp
    | cons line later => simpa using ended

theorem lines_of_extend (c : Char) (rest line : Text) (later : List Text) (other : c ≠ '\n')
    (cut : LinesOf rest (line :: later)) : LinesOf (c :: rest) ((c :: line) :: later) := by
  obtain ⟨whole, nonempty, single, ended⟩ := cut
  obtain ⟨filled, nonempty⟩ := List.forall_mem_cons.mp nonempty
  obtain ⟨clean, single⟩ := List.forall_mem_cons.mp single
  refine ⟨by rw [← whole]; rfl, List.forall_mem_cons.mpr ⟨by simp, nonempty⟩,
    List.forall_mem_cons.mpr ⟨?_, single⟩, ?_⟩
  · rw [List.dropLast_cons_of_ne_nil filled]
    simp [Ne.symm other, clean]
  · cases later with
    | nil => simp
    | cons second others =>
        rw [List.dropLast_cons_cons] at ended ⊢
        obtain ⟨last, ended⟩ := List.forall_mem_cons.mp ended
        exact List.forall_mem_cons.mpr ⟨by simp [List.getLast?_cons, last], ended⟩

theorem lines_cut (text : Text) : LinesOf text text.lines := by
  induction text with
  | nil => exact ⟨rfl, by simp [Text.lines], by simp [Text.lines], by simp [Text.lines]⟩
  | cons c rest ih =>
      rw [Text.lines_cons]
      by_cases feed : c = '\n'
      · subst feed
        exact lines_of_feed rest _ ih
      · cases found : Text.lines rest with
        | nil =>
            have empty : rest = [] := by rw [← Text.lines_flatten rest, found, List.flatten_nil]
            rw [empty, Text.startLine.eq_def, if_neg feed]
            exact ⟨rfl, by simp, by simp, by simp⟩
        | cons line later =>
            rw [found] at ih
            rw [Text.startLine.eq_def, if_neg feed]
            exact lines_of_extend c rest line later feed ih

theorem lines_feed (body rest : Text) (clean : '\n' ∉ body) :
    Text.lines (body ++ '\n' :: rest) = (body ++ ['\n']) :: Text.lines rest := by
  induction body with
  | nil => rfl
  | cons c body ih =>
      obtain ⟨other, clean⟩ := List.ne_and_not_mem_of_not_mem_cons clean
      rw [List.cons_append, Text.lines_cons, ih clean, Text.startLine.eq_def, if_neg (Ne.symm other)]
      rfl

theorem lines_bare (body : Text) (nonempty : body ≠ []) (clean : '\n' ∉ body) : Text.lines body = [body] := by
  induction body with
  | nil => exact absurd rfl nonempty
  | cons c body ih =>
      obtain ⟨other, clean⟩ := List.ne_and_not_mem_of_not_mem_cons clean
      rw [Text.lines_cons, Text.startLine.eq_def, if_neg (Ne.symm other)]
      by_cases last : body = []
      · subst last
        rfl
      · rw [ih last clean]

theorem lines_of_later (text line : Text) (later : List Text) (cut : LinesOf text (line :: later)) :
    LinesOf later.flatten later := by
  refine ⟨rfl, fun other among => cut.nonempty other (List.mem_cons_of_mem line among),
    fun other among => cut.single other (List.mem_cons_of_mem line among), ?_⟩
  intro other among
  apply cut.ended other
  rw [List.dropLast_cons_of_ne_nil (List.ne_nil_of_mem (List.dropLast_subset _ among))]
  exact List.mem_cons_of_mem line among

theorem unfed_bare (line : Text) (clean : '\n' ∉ line.dropLast) (unfed : line.getLast? ≠ some '\n') :
    '\n' ∉ line := by
  intro member
  have filled := List.ne_nil_of_mem member
  rw [← List.dropLast_concat_getLast filled, List.mem_append, List.mem_singleton] at member
  cases member with
  | inl inside => exact clean inside
  | inr last => exact unfed (by rw [List.getLast?_eq_some_getLast filled, last])

theorem lines_unique (text : Text) (lines : List Text) (cut : LinesOf text lines) : lines = text.lines := by
  induction lines generalizing text with
  | nil =>
      rw [← cut.whole]
      rfl
  | cons line later ih =>
      have filled : line ≠ [] := cut.nonempty line List.mem_cons_self
      have clean : '\n' ∉ line.dropLast := cut.single line List.mem_cons_self
      rw [← cut.whole, List.flatten_cons]
      by_cases fed : line.getLast? = some '\n'
      · obtain ⟨body, rfl⟩ := List.getLast?_eq_some_iff.mp fed
        rw [List.dropLast_concat] at clean
        rw [List.append_assoc, List.singleton_append, lines_feed body _ clean, ← ih _ (lines_of_later text _ later cut)]
      · -- Only the last line may be without a line feed.
        have alone : later = [] := by
          cases later with
          | nil => rfl
          | cons second others => exact absurd (cut.ended line List.mem_cons_self) fed
        rw [alone, List.flatten_nil, List.append_nil, lines_bare line filled (unfed_bare line clean fed)]

theorem lines_of_iff (text : Text) (lines : List Text) : LinesOf text lines ↔ lines = text.lines := by
  constructor
  · exact lines_unique text lines
  · intro same
    exact same ▸ lines_cut text

theorem take_byte_length_lt (text : Text) (index : Nat) (inside : index < text.length) :
    Text.byteLength (text.take index) < text.byteLength := by
  have whole := Text.byte_length_append (text.take index) (text.drop index)
  rw [List.take_append_drop] at whole
  have left := Text.byte_length_pos (text.drop index) (by simpa using inside)
  omega

theorem char_index_zero (text : Text) : text.charIndex? 0 = some 0 := by
  cases text <;> rfl

theorem char_index_append (left right : Text) (offset : Nat) :
    Text.charIndex? (left ++ right) (left.byteLength + offset) = (right.charIndex? offset).map (left.length + ·) := by
  apply Option.ext
  intro index
  simp only [Option.map_eq_some_iff, Text.char_index_iff, List.length_append, List.take_append, Text.byte_length_append]
  constructor
  · rintro ⟨bounded, place⟩
    by_cases past : left.length ≤ index
    · rw [List.take_of_length_le past] at place
      exact ⟨index - left.length, ⟨by omega, by omega⟩, by omega⟩
    · have short := take_byte_length_lt left index (Nat.lt_of_not_le past)
      rw [Nat.sub_eq_zero_of_le (Nat.le_of_not_le past), List.take_zero, Text.byte_length_nil] at place
      omega
  · rintro ⟨index, ⟨bounded, place⟩, rfl⟩
    rw [List.take_of_length_le (Nat.le_add_right _ _), Nat.add_sub_cancel_left, place]
    exact ⟨Nat.add_le_add_left bounded _, rfl⟩

theorem char_index_within (c : Char) (rest : Text) (offset : Nat) (positive : 0 < offset)
    (short : offset < c.utf8Size) : Text.charIndex? (c :: rest) offset = none := by
  obtain ⟨left, rfl⟩ := Nat.exists_eq_add_of_lt positive
  rw [Text.charIndex?, Nat.zero_add, Text.charIndexFrom?, if_neg (by omega)]

def Locates (number offset : Nat) (lines : List Text) (location : Location) : Prop :=
  ∃ earlier later, lines = earlier ++ location.line :: later ∧ location.number = number + earlier.length ∧
    location.column < location.line.length ∧
      offset = Text.byteLength earlier.flatten + Text.byteLength (location.line.take location.column)

theorem locates_here (number offset : Nat) (line : Text) (rest : List Text) (location : Location)
    (inside : offset < line.byteLength) :
    Locates number offset (line :: rest) location ↔
      location.line = line ∧ location.number = number ∧ location.column < line.length ∧
        Text.byteLength (line.take location.column) = offset := by
  constructor
  · rintro ⟨earlier, later, cut, numbered, bounded, place⟩
    cases earlier with
    | nil =>
        obtain ⟨rfl, rfl⟩ := List.cons.inj cut
        rw [List.flatten_nil, Text.byte_length_nil, Nat.zero_add] at place
        exact ⟨rfl, numbered, bounded, place.symm⟩
    | cons first others =>
        obtain ⟨rfl, rfl⟩ := List.cons.inj cut
        rw [List.flatten_cons, Text.byte_length_append] at place
        omega
  · rintro ⟨rfl, numbered, bounded, place⟩
    refine ⟨[], rest, rfl, numbered, bounded, ?_⟩
    rw [List.flatten_nil, Text.byte_length_nil, Nat.zero_add, place]

theorem locates_later (number offset : Nat) (line : Text) (rest : List Text) (location : Location)
    (past : line.byteLength ≤ offset) :
    Locates number offset (line :: rest) location ↔
      Locates (number + 1) (offset - line.byteLength) rest location := by
  constructor
  · rintro ⟨earlier, later, cut, numbered, bounded, place⟩
    cases earlier with
    | nil =>
        obtain ⟨rfl, rfl⟩ := List.cons.inj cut
        have short := take_byte_length_lt location.line location.column bounded
        rw [List.flatten_nil, Text.byte_length_nil] at place
        omega
    | cons first others =>
        obtain ⟨rfl, rfl⟩ := List.cons.inj cut
        rw [List.length_cons] at numbered
        rw [List.flatten_cons, Text.byte_length_append] at place
        exact ⟨others, later, rfl, by omega, bounded, by omega⟩
  · rintro ⟨earlier, later, rfl, numbered, bounded, place⟩
    refine ⟨line :: earlier, later, rfl, ?_, bounded, ?_⟩
    · rw [numbered, List.length_cons]
      omega
    · rw [List.flatten_cons, Text.byte_length_append]
      omega

theorem char_index_inside (line : Text) (offset column : Nat) (inside : offset < line.byteLength) :
    line.charIndex? offset = some column ↔
      column < line.length ∧ Text.byteLength (line.take column) = offset := by
  rw [Text.char_index_iff]
  constructor
  · rintro ⟨bounded, place⟩
    refine ⟨Nat.lt_of_le_of_ne bounded ?_, place⟩
    rintro rfl
    rw [List.take_length] at place
    omega
  · rintro ⟨bounded, place⟩
    exact ⟨Nat.le_of_lt bounded, place⟩

theorem locate_iff (number offset : Nat) (lines : List Text) (location : Location) :
    locate? number lines offset = some location ↔ Locates number offset lines location := by
  induction lines generalizing number offset with
  | nil => simp [locate?, Locates]
  | cons line rest ih =>
      rw [locate?]
      by_cases inside : offset < line.byteLength
      · rw [if_pos inside, Option.map_eq_some_iff, locates_here number offset line rest location inside]
        simp only [char_index_inside line offset _ inside]
        constructor
        · rintro ⟨column, place, rfl⟩
          exact ⟨rfl, rfl, place⟩
        · rintro ⟨rfl, rfl, place⟩
          exact ⟨location.column, place, rfl⟩
      · rw [if_neg inside, ih, locates_later number offset line rest location (Nat.le_of_not_lt inside)]

theorem locate_place (number : Nat) (lines : List Text) (before after : Text) (c : Char)
    (cut : lines.flatten = before ++ c :: after) : ∃ location, locate? number lines before.byteLength = some location := by
  induction lines generalizing number before with
  | nil => simp at cut
  | cons line rest ih =>
      rw [locate?]
      rw [List.flatten_cons] at cut
      by_cases inside : before.byteLength < line.byteLength
      · obtain ⟨more, rfl⟩ : before <+: line := by
          rcases List.append_eq_append_iff.mp cut with ⟨more, longer, _⟩ | ⟨more, shorter, _⟩
          · rw [longer, Text.byte_length_append] at inside
            omega
          · exact ⟨more, shorter.symm⟩
        rw [if_pos inside, Text.char_index_split, Option.map_some]
        exact ⟨_, rfl⟩
      · obtain ⟨more, rfl, found⟩ : ∃ more, before = line ++ more ∧ rest.flatten = more ++ c :: after := by
          rcases List.append_eq_append_iff.mp cut with ⟨more, longer, found⟩ | ⟨more, shorter, found⟩
          · exact ⟨more, longer, found⟩
          · have nothing : more = [] := by
              apply Text.byte_length_zero
              rw [shorter, Text.byte_length_append] at inside
              omega
            subst nothing
            exact ⟨[], by simpa using shorter.symm, by simpa using found.symm⟩
        rw [if_neg inside, Text.byte_length_append, Nat.add_sub_cancel_left]
        exact ih (number + 1) more found

theorem place_located (before after : Text) (c : Char) :
    ∃ location, Text.locationAt? (before ++ c :: after) before.byteLength = some location :=
  locate_place 1 _ before after c (Text.lines_flatten _)

theorem location_iff (text : Text) (position : Nat) (location : Location) :
    text.locationAt? position = some location ↔
      ∃ earlier later, text.lines = earlier ++ location.line :: later ∧ location.number = earlier.length + 1 ∧
        location.column < location.line.length ∧
          position = Text.byteLength earlier.flatten + Text.byteLength (location.line.take location.column) := by
  simp only [Text.locationAt?, locate_iff, Locates, Nat.add_comm 1]

theorem single_line_located (text before after : Text) (c : Char) (single : '\n' ∉ text)
    (cut : text = before ++ c :: after) :
    text.locationAt? before.byteLength = some ⟨1, text, before.length⟩ := by
  have alone : text.lines = [text] := lines_bare text (by simp [cut]) single
  refine (location_iff text _ _).mpr ⟨[], [], alone, rfl, by simp [cut], ?_⟩
  rw [cut, List.take_left]
  exact (Nat.zero_add _).symm

theorem location_shows (text : Text) (position : Nat) (location : Location)
    (located : text.locationAt? position = some location) :
    '\n' ∉ location.line.dropLast ∧
      ∃ c, text.charAt? position = some c ∧ location.line[location.column]? = some c := by
  obtain ⟨earlier, later, cut, _, bounded, rfl⟩ := (location_iff text position location).mp located
  have whole := Text.lines_flatten text
  rw [cut, List.flatten_append, List.flatten_cons, ← List.take_append_drop location.column location.line,
    List.append_assoc, ← List.append_assoc] at whole
  refine ⟨(lines_cut text).single location.line (by simp [cut]), location.line[location.column], ?_, ?_⟩
  · rw [← whole, ← Text.byte_length_append, Text.char_at_split, List.drop_eq_getElem_cons bounded]
    rfl
  · exact List.getElem?_eq_getElem bounded

end ArithScan
