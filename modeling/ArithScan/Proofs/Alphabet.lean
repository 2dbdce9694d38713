import ArithScan.Text.CharClass
import ArithScan.Token

set_option autoImplicit false

namespace ArithScan

-- The general categories Zs, Zl and Zp of Unicode.
def separatorRanges : CodeRanges :=
  [(0x20, 0x20), (0xa0, 0xa0), (0x1680, 0x1680), (0x2000, 0x200a), (0x2028, 0x2029), (0x202f, 0x202f),
   (0x205f, 0x205f), (0x3000, 0x3000)]

-- The controls of ASCII that move the cursor, and its four information separators.
def separatingControls : CodeRanges := [(0x9, 0xd), (0x1c, 0x1f)]

def noBreakSpaces : List Nat := [0xa0, 0x2007, 0x202f]

def Separates (c : Char) : Prop :=
  (inRanges separatingControls c.toNat = true ∨ inRanges separatorRanges c.toNat = true) ∧ c.toNat ∉ noBreakSpaces

instance (c : Char) : Decidable (Separates c) :=
  inferInstanceAs (Decidable ((_ ∨ _) ∧ _))

theorem blank_iff (c : Char) : isBlank c = true ↔ Separates c := by
  simp [isBlank, blankRanges, Separates, separatingControls, separatorRanges, noBreakSpaces, inRanges]
  omega

def Acceptable (c : Char) : Prop :=
  Separates c ∨ c.isDigit = true ∨ c.isAlpha = true ∨ c = '_' ∨ c ∈ ['+', '-', '*', '/'] ∨ c ∈ ['(', ')']

instance (c : Char) : Decidable (Acceptable c) :=
  inferInstanceAs (Decidable (_ ∨ _))

theorem acceptable_each (text : List Char) (checked : text.all (fun c => decide (Acceptable c)) = true) :
    ∀ c ∈ text, Acceptable c :=
  fun c member => of_decide_eq_true (List.all_eq_true.mp checked c member)

namespace TokenKind

def opens : TokenKind → Char → Bool
  | .number, c => c.isDigit
  | .identifier, c => c.isAlpha || c == '_'
  | .operator, c => ['+', '-', '*', '/'].contains c
  | .parenthesis, c => ['(', ')'].contains c
  | .endOfInput, _ => false

def continues : TokenKind → Char → Bool
  | .number, c => c.isDigit
  | .identifier, c => c.isAlpha || c.isDigit || c == '_'
  | _, _ => false

def openingCodes : TokenKind → CodeRanges
  | .number => [(48, 57)]
  | .identifier => [(65, 90), (95, 95), (97, 122)]
  | .operator => [(42, 43), (45, 45), (47, 47)]
  | .parenthesis => [(40, 41)]
  | .endOfInput => []

theorem alpha_codes (c : Char) :
    c.isAlpha = true ↔ (65 ≤ c.toNat ∧ c.toNat ≤ 90) ∨ (97 ≤ c.toNat ∧ c.toNat ≤ 122) := by
  have upper : c.isUpper = true ↔ 65 ≤ c.toNat ∧ c.toNat ≤ 90 := by
    change decide (c.val ≥ 'A'.val ∧ c.val ≤ 'Z'.val) = true ↔ 65 ≤ c.toNat ∧ c.toNat ≤ 90
    simp [UInt32.le_iff_toNat_le]
  have lower : c.isLower = true ↔ 97 ≤ c.toNat ∧ c.toNat ≤ 122 := by
    change (decide (c.val ≥ 'a'.val) && decide (c.val ≤ 'z'.val)) = true ↔ 97 ≤ c.toNat ∧ c.toNat ≤ 122
    simp [UInt32.le_iff_toNat_le]
  change (c.isUpper || c.isLower) = true ↔ _
  rw [Bool.or_eq_true, upper, lower]

theorem opens_codes (kind : TokenKind) (c : Char) :
    kind.opens c = true ↔ inRanges kind.openingCodes c.toNat = true := by
  cases kind with
  | number => simp [opens, openingCodes, inRanges, Char.isDigit_iff_toNat]
  | identifier =>
      simp [opens, openingCodes, inRanges, alpha_codes, ← Char.toNat_inj]
      omega
  | operator =>
      simp [opens, openingCodes, inRanges, ← Char.toNat_inj]
      omega
  | parenthesis =>
      simp [opens, openingCodes, inRanges, ← Char.toNat_inj]
      omega
  | endOfInput => rfl

theorem opens_unique (a b : TokenKind) (c : Char) (left : a.opens c = true) (right : b.opens c = true) : a = b := by
  rw [opens_codes] at left right
  cases a <;> cases b <;> simp [openingCodes, inRanges] at left right ⊢ <;> omega

theorem opens_not_blank (kind : TokenKind) (c : Char) (opening : kind.opens c = true) : isBlank c = false := by
  rw [opens_codes] at opening
  apply Bool.eq_false_iff.mpr
  intro blank
  cases kind <;> simp [openingCodes, inRanges, isBlank, blankRanges] at opening blank <;> omega

theorem identifier_continues_iff (c : Char) :
    identifier.continues c = true ↔ number.opens c = true ∨ identifier.opens c = true := by
  simp only [continues, opens, Bool.or_eq_true]
  constructor
  · rintro ((letter | digit) | underscore)
    · exact .inr (.inl letter)
    · exact .inl digit
    · exact .inr (.inr underscore)
  · rintro (digit | letter | underscore)
    · exact .inl (.inr digit)
    · exact .inl (.inl letter)
    · exact .inr underscore

theorem continues_opens (kind : TokenKind) (c : Char) (more : kind.continues c = true) :
    number.opens c = true ∨ identifier.opens c = true := by
  cases kind with
  | number => exact .inl more
  | identifier => exact (identifier_continues_iff c).mp more
  | operator => cases more
  | parenthesis => cases more
  | endOfInput => cases more

theorem continues_not_blank (kind : TokenKind) (c : Char) (more : kind.continues c = true) : isBlank c = false := by
  rcases continues_opens kind c more with digit | letter
  · exact opens_not_blank .number c digit
  · exact opens_not_blank .identifier c letter

theorem opens_narrow (kind : TokenKind) (c : Char) (opening : kind.opens c = true) : c.utf8Size = 1 := by
  rw [opens_codes] at opening
  have ascii : c.toNat ≤ 127 := by
    cases kind <;> simp [openingCodes, inRanges] at opening <;> omega
  exact if_pos ascii

theorem continues_kind (kind : TokenKind) (c : Char) (more : kind.continues c = true) :
    kind = .number ∨ kind = .identifier := by
  cases kind with
  | number => exact .inl rfl
  | identifier => exact .inr rfl
  | operator => cases more
  | parenthesis => cases more
  | endOfInput => cases more

theorem continues_digit (kind : TokenKind) (c digit : Char) (more : kind.continues c = true)
    (numeric : digit.isDigit = true) : kind.continues digit = true := by
  cases continues_kind kind c more with
  | inl number => rwa [number]
  | inr identifier =>
      rw [identifier]
      exact (identifier_continues_iff digit).mpr (.inl numeric)

theorem continues_letter (kind : TokenKind) (c : Char) (more : kind.continues c = true) (other : ¬ c.isDigit = true) :
    kind = .identifier ∧ identifier.opens c = true := by
  cases continues_kind kind c more with
  | inl number =>
      rw [number] at more
      exact absurd more other
  | inr identifier =>
      rw [identifier] at more
      exact ⟨identifier, ((identifier_continues_iff c).mp more).resolve_left other⟩

theorem opened_iff (c : Char) :
    (∃ kind : TokenKind, kind.opens c = true) ↔
      number.opens c = true ∨ identifier.opens c = true ∨ operator.opens c = true ∨ parenthesis.opens c = true := by
  constructor
  · rintro ⟨kind, opening⟩
    cases kind with
    | number => exact .inl opening
    | identifier => exact .inr (.inl opening)
    | operator => exact .inr (.inr (.inl opening))
    | parenthesis => exact .inr (.inr (.inr opening))
    | endOfInput => cases opening
  · rintro (opening | opening | opening | opening) <;> exact ⟨_, opening⟩

end TokenKind

theorem acceptable_iff (c : Char) : Acceptable c ↔ isBlank c = true ∨ ∃ kind : TokenKind, kind.opens c = true := by
  rw [Acceptable, ← blank_iff, TokenKind.opened_iff]
  simp [TokenKind.opens, or_assoc]

theorem space_blank : isBlank ' ' = true := by decide

theorem tab_blank : isBlank '\t' = true := by decide

theorem feed_blank : isBlank '\n' = true := by decide

theorem blank_acceptable (c : Char) (blank : isBlank c = true) : Acceptable c :=
  (acceptable_iff c).mpr (.inl blank)

theorem opens_acceptable (kind : TokenKind) (c : Char) (opening : kind.opens c = true) : Acceptable c :=
  (acceptable_iff c).mpr (.inr ⟨kind, opening⟩)

theorem continues_acceptable (kind : TokenKind) (c : Char) (more : kind.continues c = true) : Acceptable c := by
  rcases kind.continues_opens c more with digit | letter
  · exact opens_acceptable .number c digit
  · exact opens_acceptable .identifier c letter

end ArithScan
