import ArithScan.Proofs.LineBounds
import ArithScan.Proofs.Reporting

set_option autoImplicit false

namespace ArithScan

-- How wide the field is that ends with a caret under what follows this part of a line:
-- behind the white space that it starts with, a tab counts four and any other character
-- one, and the caret itself one more.
def caretWidth (lead : Text) : Nat :=
  1 + (lead.dropWhile isWhiteSpace).foldr (fun c width => (if c = '\t' then 4 else 1) + width) 0

theorem columns_fold (text : Text) :
    text.foldr (fun c width => (if c = '\t' then 4 else 1) + width) 0 = text.columns := by
  induction text with
  | nil => rfl
  | cons c rest ih => rw [List.foldr_cons, ih, Text.columns_cons, Text.tabWidth]

theorem caret_width_columns (lead : Text) : caretWidth lead = Text.columns (lead.dropWhile isWhiteSpace) + 1 := by
  rw [caretWidth, columns_fold, Nat.add_comm]

theorem caret_width_mono (lead longer : Text) (part : lead <+: longer) : caretWidth lead ≤ caretWidth longer := by
  obtain ⟨more, rfl⟩ := part
  rw [caret_width_columns, caret_width_columns, List.dropWhile_append]
  by_cases bare : lead.dropWhile isWhiteSpace = []
  · rw [bare, Text.columns_nil]
    omega
  · rw [if_neg (by simpa using bare), Text.columns_append]
    omega

namespace Location

theorem indent_bound (location : Location) : location.indent ≤ location.column :=
  Nat.le_trans (List.takeWhile_prefix isWhiteSpace).length_le (List.length_take_le _ _)

theorem excerpt_indented (location : Location) :
    location.excerpt.before = (location.line.drop location.indent).take (location.column - location.indent) ∧
      location.excerpt.before ++ location.excerpt.after = location.line.drop location.indent := by
  have before : location.excerpt.before =
      (location.line.drop location.indent).take (location.column - location.indent) := by
    calc
      location.excerpt.before = List.drop location.indent
          ((location.line.take location.column).takeWhile isWhiteSpace ++
            (location.line.take location.column).dropWhile isWhiteSpace) := List.drop_left.symm
      _ = _ := by rw [List.takeWhile_append_dropWhile, List.drop_take]
  have after : location.excerpt.after =
      (location.line.drop location.indent).drop (location.column - location.indent) := by
    rw [List.drop_drop, Nat.add_sub_cancel' location.indent_bound]
    rfl
  refine ⟨before, ?_⟩
  rw [before, after, List.take_append_drop]

end Location

theorem leads_unique (text : Text) (position : Nat) (lead other : Text) (leads : LeadsTo text position lead)
    (leads' : LeadsTo text position other) : other = lead := by
  obtain ⟨location, located, rfl⟩ := (leads_iff text position lead).mp leads
  obtain ⟨location', located', rfl⟩ := (leads_iff text position other).mp leads'
  rw [located] at located'
  rw [Option.some.inj located']

theorem lead_at_place (text : Text) (position : Nat) :
    (∃! lead, LeadsTo text position lead) ↔
      position < text.byteLength ∧ ∃ before, text.slice? 0 position = some before := by
  rw [← located_iff]
  apply Iff.intro
  · intro one
    obtain ⟨lead, leads, _⟩ := one
    obtain ⟨location, located, _⟩ := (leads_iff text position lead).mp leads
    exact ⟨location, located⟩
  · intro found
    obtain ⟨location, located⟩ := found
    have leads := (leads_iff text position _).mpr ⟨location, located, rfl⟩
    exact ⟨_, leads, fun other leads' => leads_unique text position _ other leads leads'⟩

theorem line_leads_prefix (text : Text) (position later : Nat) (location location' : Location)
    (located : text.locationAt? position = some location) (located' : text.locationAt? later = some location')
    (number : location.number = location'.number) (order : position ≤ later) :
    location.line.take location.column <+: location'.line.take location'.column := by
  obtain ⟨earlier, below, cut, numbered, _, rfl⟩ := (location_iff text position location).mp located
  obtain ⟨earlier', below', cut', numbered', bounded, rfl⟩ := (location_iff text later location').mp located'
  obtain ⟨rfl, rest⟩ := List.append_inj (cut.symm.trans cut') (by omega)
  have line : location.line = location'.line := (List.cons.inj rest).1
  rw [line] at order ⊢
  by_cases ahead : location.column ≤ location'.column
  · rw [← Nat.min_eq_left ahead, ← List.take_take]
    exact List.take_prefix _ _
  · have shorter := take_byte_length_lt (location'.line.take location.column) location'.column
    rw [List.take_take, List.length_take, Nat.min_eq_left (Nat.le_of_not_le ahead)] at shorter
    omega

theorem render_unlocated (error : LexError) (source origin : Text) (nowhere : source.locationAt? error.position = none) :
    error.render source origin = .ok (Text.unlines [error.headline, "-> ".toList ++ origin]) := by
  rw [LexError.render, nowhere]

theorem render_fits (error : LexError) (source origin : Text) :
    (error.render source origin = .error .fieldTooWide ∧
        ∃ lead, LeadsTo source error.position lead ∧ 65535 < caretWidth lead) ∨
      ((∃ rendered, error.render source origin = .ok rendered) ∧
        ¬ ∃ lead, LeadsTo source error.position lead ∧ 65535 < caretWidth lead) := by
  cases located : source.locationAt? error.position with
  | none =>
      refine .inr ⟨⟨_, render_unlocated error source origin located⟩, ?_⟩
      intro wide
      obtain ⟨lead, leads, _⟩ := wide
      obtain ⟨location, located', _⟩ := (leads_iff source error.position lead).mp leads
      rw [located] at located'
      cases located'
  | some location =>
      have leads := (leads_iff source error.position _).mpr ⟨location, located, rfl⟩
      have width : caretWidth (location.line.take location.column) = location.excerpt.before.columns + 1 :=
        caret_width_columns _
      rw [render_located error source origin location located]
      by_cases fits : location.excerpt.before.columns + 1 ≤ Excerpt.fieldLimit
      · refine .inr ⟨⟨_, if_pos fits⟩, ?_⟩
        intro wide
        obtain ⟨lead, leads', beyond⟩ := wide
        rw [leads_unique source error.position _ lead leads leads', width] at beyond
        exact Nat.not_lt_of_le fits beyond
      · refine .inl ⟨if_neg fits, _, leads, ?_⟩
        rw [width]
        exact Nat.lt_of_not_le fits

theorem render_faults (error : LexError) (source origin : Text) :
    error.render source origin = .error .fieldTooWide ↔
      ∃ lead, LeadsTo source error.position lead ∧ 65535 < caretWidth lead := by
  cases render_fits error source origin with
  | inl wide => exact iff_of_true wide.1 wide.2
  | inr fits =>
      obtain ⟨⟨rendered, drawn⟩, narrow⟩ := fits
      exact iff_of_false (by simp [drawn]) narrow

theorem render_answers (error : LexError) (source origin : Text) :
    (∃ rendered, error.render source origin = .ok rendered) ↔
      ¬ ∃ lead, LeadsTo source error.position lead ∧ 65535 < caretWidth lead := by
  cases render_fits error source origin with
  | inl wide => exact iff_of_false (by simp [wide.1]) (not_not_intro wide.2)
  | inr fits => exact iff_of_true fits.1 fits.2

theorem line_faults_later (error later : LexError) (source origin : Text) (location location' : Location)
    (located : source.locationAt? error.position = some location)
    (located' : source.locationAt? later.position = some location') (number : location.number = location'.number)
    (order : error.position ≤ later.position) :
    caretWidth (location.line.take location.column) ≤ caretWidth (location'.line.take location'.column) ∧
      (error.render source origin = .error .fieldTooWide → later.render source origin = .error .fieldTooWide) := by
  have part := line_leads_prefix source _ _ location location' located located' number order
  have wider := caret_width_mono _ _ part
  refine ⟨wider, ?_⟩
  intro faults
  obtain ⟨lead, leads, beyond⟩ := (render_faults error source origin).mp faults
  have here := (leads_iff source error.position _).mpr ⟨location, located, rfl⟩
  have there := (leads_iff source later.position _).mpr ⟨location', located', rfl⟩
  rw [leads_unique source error.position _ lead here leads] at beyond
  exact (render_faults later source origin).mpr ⟨_, there, Nat.lt_of_lt_of_le beyond wider⟩

def lettersThen (count : Nat) (rest : Text) : Text := List.replicate count 'a' ++ rest

@[simp] theorem letters_length (count : Nat) : Text.byteLength (List.replicate count 'a') = count := by
  induction count with
  | zero => rfl
  | succ n ih =>
      rw [List.replicate_succ, Text.byte_length_cons, ih, Nat.add_comm]
      rfl

theorem letters_refused (count : Nat) (rest : Text) :
    tokenize (lettersThen count ('&' :: rest)) = .error ⟨'&', count⟩ := by
  have foreign : ¬ Acceptable '&' := by decide
  refine (refused_iff _ _).mpr ⟨List.replicate count 'a', rest, rfl, (letters_length count).symm, ?_, foreign⟩
  intro c member
  rw [List.eq_of_mem_replicate member]
  decide

@[simp] theorem letters_columns (count : Nat) : Text.columns (List.replicate count 'a') = count := by
  induction count with
  | zero => rfl
  | succ n ih => rw [List.replicate_succ, Text.columns_cons, ih, if_neg (by decide), Nat.add_comm]

@[simp] theorem letters_width (count : Nat) : caretWidth (List.replicate count 'a') = count + 1 := by
  have shown : (List.replicate count 'a').dropWhile isWhiteSpace = List.replicate count 'a' := by
    cases count with
    | zero => rfl
    | succ n => rfl
  rw [caret_width_columns, shown, letters_columns]

theorem letters_lead (count : Nat) (rest : Text) (left : rest ≠ []) :
    LeadsTo (lettersThen count rest) count (List.replicate count 'a') :=
  ⟨[], rest, rfl, left, letters_length count, .inl rfl, by simp⟩

theorem render_faults_iff (error : LexError) (source origin : Text) :
    (error.render source origin = .error .fieldTooWide ↔
        ∃ lead, LeadsTo source error.position lead ∧ 65535 < caretWidth lead) ∧
      ((∃ rendered, error.render source origin = .ok rendered) ↔
        ¬ ∃ lead, LeadsTo source error.position lead ∧ 65535 < caretWidth lead) ∧
        ((∃! lead, LeadsTo source error.position lead) ↔
          error.position < source.byteLength ∧ ∃ before, source.slice? 0 error.position = some before) ∧
          (∀ location : Location, location.indent ≤ location.column ∧
            location.excerpt.before = (location.line.drop location.indent).take (location.column - location.indent) ∧
              location.excerpt.before ++ location.excerpt.after = location.line.drop location.indent) ∧
            (∀ later location location', source.locationAt? error.position = some location →
              source.locationAt? (LexError.position later) = some location' → location.number = location'.number →
                error.position ≤ later.position →
                  caretWidth (location.line.take location.column) ≤
                      caretWidth (location'.line.take location'.column) ∧
                    (error.render source origin = .error .fieldTooWide →
                      later.render source origin = .error .fieldTooWide)) ∧
              ∃ wide refusal, tokenize wide = .error refusal ∧
                ∀ name, refusal.render wide name = .error .fieldTooWide := by
  refine ⟨render_faults error source origin, render_answers error source origin, lead_at_place source error.position,
    fun location => ⟨location.indent_bound, location.excerpt_indented⟩,
    fun later location location' => line_faults_later error later source origin location location',
    lettersThen 65535 ['&'], ⟨'&', 65535⟩, letters_refused 65535 [], ?_⟩
  intro name
  refine (render_faults _ _ name).mpr ⟨_, letters_lead 65535 ['&'] (List.cons_ne_nil _ _), ?_⟩
  rw [letters_width]
  exact Nat.lt_succ_self 65535

theorem letters_located (count : Nat) (before after : Text) (c : Char) (clean : '\n' ∉ before ++ c :: after) :
    Text.locationAt? (lettersThen count (before ++ c :: after)) (count + before.byteLength) =
      some ⟨1, lettersThen count (before ++ c :: after), count + before.length⟩ := by
  have single : '\n' ∉ lettersThen count (before ++ c :: after) := List.not_mem_append (by simp) clean
  have located := single_line_located _ (List.replicate count 'a' ++ before) after c single
    (List.append_assoc _ before (c :: after)).symm
  rwa [Text.byte_length_append, letters_length, List.length_append, List.length_replicate] at located

theorem render_faults_letters :
    tokenize (lettersThen 65535 ['&', '&']) = .error ⟨'&', 65535⟩ ∧
      LexError.render ⟨'&', 65535⟩ (lettersThen 65535 ['&', '&']) "stdin".toList = .error .fieldTooWide ∧
        LexError.render ⟨'&', 65536⟩ (lettersThen 65535 ['&', '&']) "stdin".toList = .error .fieldTooWide ∧
          ∃ rendered, LexError.render ⟨'&', 65534⟩ (lettersThen 65534 ['&']) "stdin".toList = .ok rendered := by
  have wide : 65535 < caretWidth (List.replicate 65535 'a') := by
    rw [letters_width]
    exact Nat.lt_succ_self 65535
  have lead := letters_lead 65535 ['&', '&'] (List.cons_ne_nil _ _)
  obtain ⟨first, _, _, _, later, _⟩ := render_faults_iff ⟨'&', 65535⟩ (lettersThen 65535 ['&', '&']) "stdin".toList
  obtain ⟨_, shorter, _⟩ := render_faults_iff ⟨'&', 65534⟩ (lettersThen 65534 ['&']) "stdin".toList
  have faults := first.mpr ⟨_, lead, wide⟩
  have here := letters_located 65535 [] ['&'] '&' (by decide)
  have there := letters_located 65535 ['&'] [] '&' (by decide)
  refine ⟨letters_refused 65535 ['&'], faults, (later ⟨'&', 65536⟩ _ _ here there rfl (by decide)).2 faults, shorter.mpr ?_⟩
  intro beyond
  obtain ⟨part, leads, wider⟩ := beyond
  have same := leads_unique _ _ _ part (letters_lead 65534 ['&'] (List.cons_ne_nil _ _)) leads
  rw [same, letters_width] at wider
  exact Nat.lt_irrefl 65535 wider

end ArithScan
