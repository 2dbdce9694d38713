import ArithScan.Proofs.Acceptance
import ArithScan.Proofs.Slice
import Mathlib.Data.List.Forall2

set_option autoImplicit false

namespace ArithScan

inductive CharClass where
  | blank
  | digit
  | letter
  | operator
  | parenthesis
  | other
deriving DecidableEq

def classOf (c : Char) : CharClass :=
  if isBlank c then .blank
  else if TokenKind.number.opens c then .digit
  else if TokenKind.identifier.opens c then .letter
  else if TokenKind.operator.opens c then .operator
  else if TokenKind.parenthesis.opens c then .parenthesis
  else .other

def TokenKind.openingClass? : TokenKind → Option CharClass
  | .number => some .digit
  | .identifier => some .letter
  | .operator => some .operator
  | .parenthesis => some .parenthesis
  | .endOfInput => none

theorem blank_class (c : Char) (blank : isBlank c = true) : classOf c = .blank := if_pos blank

theorem opening_class (kind : TokenKind) (c : Char) (opening : kind.opens c = true) :
    kind.openingClass? = some (classOf c) := by
  have blankless := kind.opens_not_blank c opening
  have alone : ∀ other : TokenKind, other ≠ kind → other.opens c = false := by
    intro other different
    apply Bool.eq_false_iff.mpr
    intro also
    exact different (TokenKind.opens_unique other kind c also opening)
  cases kind with
  | number => simp [TokenKind.openingClass?, classOf, blankless, opening]
  | identifier => simp [TokenKind.openingClass?, classOf, blankless, opening, alone .number]
  | operator => simp [TokenKind.openingClass?, classOf, blankless, opening, alone .number, alone .identifier]
  | parenthesis =>
      simp [TokenKind.openingClass?, classOf, blankless, opening, alone .number, alone .identifier, alone .operator]
  | endOfInput => cases opening

theorem foreign_class (c : Char) (foreign : ¬ Acceptable c) : classOf c = .other := by
  rw [acceptable_iff, not_or, not_exists] at foreign
  simp [classOf, foreign.1, foreign.2]

theorem opening_class_unique (a b : TokenKind) (same : a.openingClass? = b.openingClass?) : a = b := by
  revert same
  cases a <;> cases b <;> decide

theorem class_blank (c : Char) : isBlank c = true ↔ classOf c = .blank := by
  refine ⟨blank_class c, ?_⟩
  intro same
  by_cases acceptable : Acceptable c
  · cases (acceptable_iff c).mp acceptable with
    | inl blank => exact blank
    | inr opened =>
        obtain ⟨kind, opening⟩ := opened
        have made := opening_class kind c opening
        rw [same] at made
        cases kind <;> cases made
  · rw [foreign_class c acceptable] at same
    cases same

theorem class_opens (kind : TokenKind) (c : Char) : kind.opens c = true ↔ kind.openingClass? = some (classOf c) := by
  refine ⟨opening_class kind c, ?_⟩
  intro same
  by_cases acceptable : Acceptable c
  · cases (acceptable_iff c).mp acceptable with
    | inl blank =>
        rw [blank_class c blank] at same
        cases kind <;> cases same
    | inr opened =>
        obtain ⟨other, opening⟩ := opened
        have made := opening_class other c opening
        exact opening_class_unique kind other (same.trans made.symm) ▸ opening
  · rw [foreign_class c acceptable] at same
    cases kind <;> cases same

section Keeping

variable (f : Char → Char) (keeps : ∀ c, classOf (f c) = classOf c)

include keeps

theorem keeps_blank (c : Char) : isBlank (f c) = isBlank c := by
  rw [Bool.eq_iff_iff, class_blank, class_blank, keeps]

theorem keeps_opens (kind : TokenKind) (c : Char) : kind.opens (f c) = kind.opens c := by
  rw [Bool.eq_iff_iff, class_opens, class_opens, keeps]

theorem keeps_continues (kind : TokenKind) (c : Char) : kind.continues (f c) = kind.continues c := by
  cases kind with
  | number => exact keeps_opens f keeps .number c
  | identifier =>
      rw [Bool.eq_iff_iff, TokenKind.identifier_continues_iff, TokenKind.identifier_continues_iff,
        keeps_opens f keeps, keeps_opens f keeps]
  | operator => rfl
  | parenthesis => rfl
  | endOfInput => rfl

theorem keeps_acceptable (c : Char) : Acceptable (f c) ↔ Acceptable c := by
  simp only [acceptable_iff, keeps_blank f keeps, keeps_opens f keeps]

theorem keeps_spells (kind : TokenKind) (value : Text) (spelled : kind.Spells value) :
    kind.Spells (value.map f) := by
  obtain ⟨first, more, same, opening, each⟩ := spelled
  subst value
  refine ⟨f first, more.map f, List.map_cons, ?_, List.forall_mem_map.mpr ?_⟩
  · rwa [keeps_opens f keeps]
  · intro c member
    rw [keeps_continues f keeps]
    exact each c member

theorem keeps_stops (kind : TokenKind) (rest : Text) (stop : Stops kind.continues rest) :
    Stops kind.continues (rest.map f) := by
  cases rest with
  | nil => exact stops_nil _
  | cons c tail =>
      intro d head
      obtain rfl : f c = d := Option.some.inj head
      rw [keeps_continues f keeps]
      exact stop c rfl

end Keeping

structure Token.Covers (text : Text) (first last : Nat) (token : Token) : Prop where
  ordered : first ≤ last
  inside : last ≤ text.length
  starts : Text.byteLength (text.take first) = token.span.start
  stops : Text.byteLength (text.take last) = token.span.stop
  shown : token.value = (text.take last).drop first

structure Token.Recoded (f : Char → Char) (source : Text) (token other : Token) : Prop where
  kind : other.kind = token.kind
  value : other.value = token.value.map f
  covered : ∃ first last, token.Covers source first last ∧ other.Covers (source.map f) first last

theorem placed_covers (before value rest : Text) (kind : TokenKind) :
    (Token.placed kind value before.byteLength).Covers (before ++ (value ++ rest)) before.length
      (before.length + value.length) where
  ordered := Nat.le_add_right _ _
  inside := by
    rw [List.length_append, List.length_append]
    omega
  starts := by
    rw [List.take_left]
    rfl
  stops := by
    rw [← List.append_assoc, ← List.length_append, List.take_left, Text.byte_length_append]
    rfl
  shown := by
    rw [← List.append_assoc, ← List.length_append, List.take_left, List.drop_left]
    rfl

theorem placed_recoded (f : Char → Char) (before value rest : Text) (kind : TokenKind) :
    Token.Recoded f (before ++ (value ++ rest)) (.placed kind value before.byteLength)
      (.placed kind (value.map f) (Text.byteLength (before.map f))) where
  kind := rfl
  value := rfl
  covered := by
    have covers := placed_covers before value rest kind
    have covers' := placed_covers (before.map f) (value.map f) (rest.map f) kind
    simp only [← List.map_append, List.length_map] at covers'
    exact ⟨_, _, covers, covers'⟩

theorem end_recoded (f : Char → Char) (source : Text) :
    Token.Recoded f source (.endOfInput source.byteLength) (.endOfInput (Text.byteLength (source.map f))) := by
  have empty := placed_recoded f source [] [] .endOfInput
  simpa [Token.placed, Token.endOfInput] using empty

-- The two cursors stand at one index of the two texts, each at an offset of its own. What
-- both have passed is what is carried along.
theorem scans_recoded (f : Char → Char) (keeps : ∀ c, classOf (f c) = classOf c) (source before text : Text)
    (position : Nat) (tokens : List Token) (cut : source = before ++ text) (place : before.byteLength = position)
    (scan : Scans position text tokens none) :
    ∃ others, Scans (Text.byteLength (before.map f)) (text.map f) others none ∧
      List.Forall₂ (Token.Recoded f source) tokens others := by
  generalize success : (none : Option LexError) = error? at scan
  induction scan generalizing before with
  | done => exact ⟨[], .done _, .nil⟩
  | refused => cases success
  | blank position c rest tokens error? skipped _ ih =>
      have further : Text.byteLength (before ++ [c]) = position + c.utf8Size := by
        rw [Text.byte_length_append, place, Text.byte_length_single]
      obtain ⟨others, later, related⟩ := ih (before ++ [c]) (by simpa using cut) further success
      rw [List.map_append, Text.byte_length_append, List.map_singleton, Text.byte_length_single] at later
      refine ⟨others, ?_, related⟩
      exact .blank _ (f c) _ others error? (by rwa [keeps_blank f keeps]) later
  | token position kind value rest tokens error? spelled stop _ ih =>
      have further : Text.byteLength (before ++ value) = position + value.byteLength := by
        rw [Text.byte_length_append, place]
      obtain ⟨others, later, related⟩ := ih (before ++ value) (by simpa using cut) further success
      rw [List.map_append, Text.byte_length_append] at later
      have here := placed_recoded f before value rest kind
      rw [← cut, place] at here
      refine ⟨_, ?_, .cons here related⟩
      rw [List.map_append]
      exact .token _ kind (value.map f) (rest.map f) others error? (keeps_spells f keeps kind value spelled)
        (keeps_stops f keeps kind rest stop) later

theorem accepted_recoded (f : Char → Char) (keeps : ∀ c, classOf (f c) = classOf c) (source : Text) :
    Accepted source ↔ Accepted (source.map f) := by
  rw [accepted_iff, accepted_iff, List.forall_mem_map]
  simp only [keeps_acceptable f keeps]

theorem refused_recoded (f : Char → Char) (keeps : ∀ c, classOf (f c) = classOf c) (source : Text) (error : LexError)
    (failed : tokenize source = .error error) :
    ∃ index, source[index]? = some error.character ∧ error.position = Text.byteLength (source.take index) ∧
      tokenize (source.map f) = .error ⟨f error.character, Text.byteLength ((source.map f).take index)⟩ := by
  obtain ⟨before, after, cut, place, acceptable, foreign⟩ := (refused_iff source error).mp failed
  have mapped : source.map f = before.map f ++ f error.character :: after.map f := by
    rw [cut, List.map_append, List.map_cons]
  refine ⟨before.length, by simp [cut], by rw [cut, List.take_left, place], ?_⟩
  refine (refused_iff _ _).mpr ⟨before.map f, after.map f, mapped, ?_, ?_, ?_⟩
  · rw [mapped, ← List.length_map f, List.take_left]
  · intro d member
    obtain ⟨c, inside, same⟩ := List.mem_map.mp member
    rw [← same, keeps_acceptable f keeps]
    exact acceptable c inside
  · rwa [keeps_acceptable f keeps]

theorem tokenize_recoded (f : Char → Char) (keeps : ∀ c, classOf (f c) = classOf c) (source : Text) :
    (Accepted source ↔ Accepted (source.map f)) ∧
      (∀ tokens, tokenize source = .ok tokens →
        ∃ others, tokenize (source.map f) = .ok others ∧ List.Forall₂ (Token.Recoded f source) tokens others) ∧
        ∀ error, tokenize source = .error error →
          ∃ index, source[index]? = some error.character ∧ error.position = Text.byteLength (source.take index) ∧
            tokenize (source.map f) = .error ⟨f error.character, Text.byteLength ((source.map f).take index)⟩ := by
  refine ⟨accepted_recoded f keeps source, ?_, refused_recoded f keeps source⟩
  intro tokens done
  obtain ⟨body, scan, made⟩ := (tokenize_ok_iff source tokens).mp done
  obtain ⟨others, scan', related⟩ := scans_recoded f keeps source [] source 0 body rfl rfl scan
  refine ⟨_, (tokenize_ok_iff _ _).mpr ⟨others, scan', rfl⟩, ?_⟩
  rw [made]
  exact List.rel_append related (.cons (end_recoded f source) .nil)

def widened (c : Char) : Char :=
  if c = ' ' then '\u3000' else if c = '&' then '\u20ac' else c

theorem widened_keeps (c : Char) : classOf (widened c) = classOf c := by
  rw [widened]
  by_cases space : c = ' '
  · rw [if_pos space, space]
    decide
  · rw [if_neg space]
    by_cases foreign : c = '&'
    · rw [if_pos foreign, foreign]
      decide
    · rw [if_neg foreign]

theorem tokenize_recoded_widened :
    (∀ c, classOf (widened c) = classOf c) ∧
      (tokenize "a 1".toList = .ok [⟨.identifier, "a".toList, ⟨0, 1⟩⟩, ⟨.number, "1".toList, ⟨2, 3⟩⟩, .endOfInput 3] ∧
        ∃ others, tokenize ("a 1".toList.map widened) = .ok others ∧
          List.Forall₂ (Token.Recoded widened "a 1".toList)
            [⟨.identifier, "a".toList, ⟨0, 1⟩⟩, ⟨.number, "1".toList, ⟨2, 3⟩⟩, .endOfInput 3] others) ∧
        tokenize " &".toList = .error ⟨'&', 1⟩ ∧
          ∃ index, " &".toList[index]? = some '&' ∧ 1 = Text.byteLength (" &".toList.take index) ∧
            tokenize (" &".toList.map widened) =
              .error ⟨'\u20ac', Text.byteLength ((" &".toList.map widened).take index)⟩ := by
  have word : TokenKind.identifier.Spells "a".toList := ⟨'a', [], rfl, rfl, List.forall_mem_nil _⟩
  have digit : TokenKind.number.Spells "1".toList := ⟨'1', [], rfl, rfl, List.forall_mem_nil _⟩
  have scan : Scans 0 "a 1".toList [.placed .identifier "a".toList 0, .placed .number "1".toList 2] none :=
    .token 0 .identifier "a".toList " 1".toList _ none word (blank_stops _ ' ' _ space_blank)
      (.blank 1 ' ' "1".toList _ none space_blank (.token 2 .number "1".toList [] [] none digit (stops_nil _) (.done 3)))
  have done := tokenize_scans _ _ none scan
  have failed : tokenize " &".toList = .error ⟨'&', 1⟩ :=
    (refused_iff _ _).mpr ⟨[' '], [], rfl, rfl, acceptable_each _ (by decide), by decide⟩
  obtain ⟨_, accepted, _⟩ := tokenize_recoded widened widened_keeps "a 1".toList
  obtain ⟨_, _, refused⟩ := tokenize_recoded widened widened_keeps " &".toList
  exact ⟨widened_keeps, ⟨done, accepted _ done⟩, failed, refused _ failed⟩

end ArithScan
