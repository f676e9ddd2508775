import Xib.Number.Digits
import Xib.Proofs.Rounding

/-!
# Numbers in texts

A text spells a finite value exactly if it is a signed decimal below the bound from which on
rounding overflows (`readFinite?_eq_some_iff`); the three words spell none. In the other direction,
what is written of a value is a decimal literal exactly if the value is finite, in every layout
(`isLiteral_write_iff`).
-/

namespace Xib.Number

set_option autoImplicit false

open Binary (overflowBound zpow_eq_div)

def Decimal.value (decimal : Decimal) : ℚ :=
  decimal.digits * 10 ^ decimal.exponent

section Decimals

variable {decimal : Decimal}

theorem ten_zpow_le {low high : ℤ} (ordered : low ≤ high) : (10 : ℚ) ^ low ≤ 10 ^ high :=
  zpow_le_zpow_right₀ (by norm_num) ordered

/-- The place of the leading digit decides a decimal up to a factor of ten. -/
theorem Decimal.value_lt (decimal : Decimal) :
    decimal.value < 10 ^ ((Nat.toDigits 10 decimal.digits).length + decimal.exponent) := by
  have digits : decimal.digits < 10 ^ (Nat.toDigits 10 decimal.digits).length :=
    (Nat.length_toDigits_le_iff (by decide) Nat.length_toDigits_pos).mp (Nat.le_refl _)
  rw [Decimal.value, zpow_add₀ (by norm_num), zpow_natCast]
  exact mul_lt_mul_of_pos_right (by exact_mod_cast digits) (zpow_pos (by norm_num) _)

theorem Decimal.le_value (nonzero : decimal.digits ≠ 0) :
    10 ^ ((Nat.toDigits 10 decimal.digits).length + decimal.exponent - 1) ≤ decimal.value := by
  have digits : 10 ^ ((Nat.toDigits 10 decimal.digits).length - 1) ≤ decimal.digits := by
    by_contra less
    rcases Nat.eq_zero_or_pos ((Nat.toDigits 10 decimal.digits).length - 1) with single | several
    · rw [single] at less
      omega
    · have shorter := (Nat.length_toDigits_le_iff (by decide) several).mpr (Nat.lt_of_not_le less)
      omega
  have places : ((Nat.toDigits 10 decimal.digits).length : ℤ) + decimal.exponent - 1 =
      ((Nat.toDigits 10 decimal.digits).length - 1 : Nat) + decimal.exponent := by
    have some : 0 < (Nat.toDigits 10 decimal.digits).length := Nat.length_toDigits_pos
    omega
  rw [Decimal.value, places, zpow_add₀ (by norm_num), zpow_natCast]
  exact mul_le_mul_of_nonneg_right (by exact_mod_cast digits) (zpow_pos (by norm_num) _).le

theorem overflowBound_le_ten : overflowBound ≤ 10 ^ (310 : ℤ) := by
  have binary : (2 : ℚ) ^ (1025 : ℤ) = (2 ^ (205 : ℤ)) ^ (5 : ℤ) := by
    rw [← zpow_mul]
    norm_num
  have decimal : (10 : ℚ) ^ (310 : ℤ) = (10 ^ (62 : ℤ)) ^ (5 : ℤ) := by
    rw [← zpow_mul]
    norm_num
  calc overflowBound
      ≤ 2 ^ (1024 : ℤ) := Binary.overflowBound_le
    _ ≤ 2 ^ (1025 : ℤ) := Binary.two_zpow_le (by omega)
    _ ≤ 10 ^ (310 : ℤ) := by
        rw [binary, decimal]
        exact zpow_le_zpow_left₀ (by norm_num) (by norm_num) (by norm_num)

/-- Reading a decimal overflows exactly from the midpoint on, also where the number of digits
settles it. -/
theorem isFinite_ofDecimal_iff (negative : Bool) :
    (Binary.ofDecimal negative decimal).isFinite = true ↔ decimal.value < overflowBound := by
  unfold Binary.ofDecimal
  simp only
  split_ifs with none huge tiny
  · have bounded : decimal.value < overflowBound := by
      rw [Decimal.value, none, Nat.cast_zero, zero_mul]
      exact Binary.overflowBound_pos
    simp only [bounded, iff_true]
    rfl
  · have beyond : ¬decimal.value < overflowBound :=
      not_lt.mpr (le_trans overflowBound_le_ten
        (le_trans (ten_zpow_le (by omega)) (Decimal.le_value none)))
    simp only [beyond, iff_false]
    exact Bool.false_ne_true
  · have bounded : decimal.value < overflowBound := by
      refine lt_of_lt_of_le decimal.value_lt (le_trans ?_ Binary.le_overflowBound)
      calc (10 : ℚ) ^ ((Nat.toDigits 10 decimal.digits).length + decimal.exponent)
          ≤ 10 ^ (0 : ℤ) := ten_zpow_le (by omega)
        _ = 2 ^ (0 : ℤ) := by norm_num
        _ ≤ 2 ^ (1023 : ℤ) := Binary.two_zpow_le (by omega)
    simp only [bounded, iff_true]
    rfl
  · have ratio : decimal.value =
        ((decimal.digits * Nat.pow 10 decimal.exponent.toNat : Nat) : ℚ) /
          (Nat.pow 10 (-decimal.exponent).toNat : Nat) := by
      rw [Decimal.value, zpow_eq_div]
      push_cast [Nat.pow_eq]
      ring
    have positive : 0 < Nat.pow 10 (-decimal.exponent).toNat := Nat.pow_pos (by decide)
    rw [Binary.isFinite_ofRatio_iff positive, ratio]

end Decimals

section Reading

variable {text : String} {value : Binary}

theorem toLower_of_isDigit {character : Char} (digit : character.isDigit = true) :
    character.toLower = character := by
  rw [Char.isDigit, Bool.and_eq_true, decide_eq_true_eq, decide_eq_true_eq] at digit
  have below : '9'.val < 'A'.val := by decide
  exact dif_neg fun upper => absurd (UInt32.le_trans upper.1 digit.2) (UInt32.not_le.mpr below)

/-- A text that starts with a letter is no decimal, in whatever case. -/
theorem Decimal.read?_eq_none {rest letters : List Char} {letter : Char}
    (lowered : rest.map Char.toLower = letter :: letters) (undigited : letter.isDigit = false)
    (unpointed : letter ≠ '.') : Decimal.read? rest = none := by
  obtain ⟨first, others, rfl, rfl, -⟩ := List.map_eq_cons_iff.mp lowered
  have digit : first.isDigit = false := by
    by_contra digit
    rw [Bool.not_eq_false] at digit
    rw [toLower_of_isDigit digit, digit] at undigited
    cases undigited
  have fraction : splitFraction (first :: others) = ([], first :: others) := by
    unfold splitFraction
    split
    · rename_i rest same
      cases same
      exact absurd (by decide) unpointed
    · rfl
  simp [Decimal.read?, digit, fraction]

/-- The words are no decimals, so a text spells a decimal or a word but not both. -/
theorem read?_eq_ofDecimal {decimal : Decimal}
    (spelled : Decimal.read? (splitSign text.toList).2 = some decimal) :
    read? text = some (.ofDecimal (splitSign text.toList).1 decimal) := by
  have differs : ∀ letter letters, letter.isDigit = false → letter ≠ '.' →
      String.ofList ((splitSign text.toList).2.map Char.toLower) ≠
        String.ofList (letter :: letters) := by
    intro letter letters undigited unpointed same
    rw [Decimal.read?_eq_none (String.ofList_injective same) undigited unpointed] at spelled
    cases spelled
  unfold read?
  simp only [spelled, Option.map_some]
  rw [if_neg, if_neg]
  · exact differs 'n' ['a', 'n'] rfl (by decide)
  · rw [Bool.or_eq_true, decide_eq_true_eq, decide_eq_true_eq]
    rintro (word | word)
    · exact differs 'i' ['n', 'f'] rfl (by decide) word
    · exact differs 'i' "nfinity".toList rfl (by decide) word

/-- The text is a signed decimal below the bound, and the value is the nearest one to it. -/
def Spells (text : String) (value : Binary) : Prop :=
  ∃ decimal, Decimal.read? (splitSign text.toList).2 = some decimal ∧
    decimal.value < overflowBound ∧ value = .ofDecimal (splitSign text.toList).1 decimal

theorem readFinite?_eq_some_iff : readFinite? text = some value ↔ Spells text value := by
  rw [readFinite?, Option.filter_eq_some_iff]
  constructor
  · rintro ⟨spelled, finite⟩
    unfold read? at spelled
    simp only at spelled
    split_ifs at spelled with infinite undefined
    · cases spelled
      cases finite
    · cases spelled
      cases finite
    · obtain ⟨decimal, digits, rfl⟩ := Option.map_eq_some_iff.mp spelled
      exact ⟨decimal, digits, (isFinite_ofDecimal_iff _).mp finite, rfl⟩
  · rintro ⟨decimal, digits, small, rfl⟩
    exact ⟨read?_eq_ofDecimal digits, (isFinite_ofDecimal_iff _).mpr small⟩

theorem Spells.unique {other : Binary} (spelled : Spells text value) (again : Spells text other) :
    value = other := by
  rw [← readFinite?_eq_some_iff] at spelled again
  exact Option.some.inj (spelled.symm.trans again)

theorem Spells.isFinite (spelled : Spells text value) : value.isFinite = true := by
  obtain ⟨decimal, -, small, rfl⟩ := spelled
  exact (isFinite_ofDecimal_iff _).mpr small

end Reading

def IsNatural (text : List Char) : Prop :=
  text ≠ [] ∧ ∀ digit ∈ text, digit.isDigit = true

inductive Signed (shape : List Char → Prop) : List Char → Prop
  | positive {text : List Char} (shaped : shape text) : Signed shape text
  | negative {text : List Char} (shaped : shape text) : Signed shape ('-' :: text)

/-- Digits on both sides of a point, or none at all after them, and then a power of ten or none. -/
inductive IsMagnitude : List Char → Prop
  | parts {whole fraction power : List Char} (natural : IsNatural whole)
      (fractional : fraction = [] ∨ ∃ digits, fraction = '.' :: digits ∧ IsNatural digits)
      (exponential : power = [] ∨ ∃ digits, power = 'e' :: digits ∧ Signed IsNatural digits) :
      IsMagnitude (whole ++ fraction ++ power)

def IsLiteral (text : String) : Prop :=
  Signed IsMagnitude text.toList

section Shapes

variable {text digits zeros : List Char} {number : Nat}

theorem isNatural_zero : IsNatural ['0'] :=
  ⟨by decide, List.forall_mem_singleton.mpr rfl⟩

theorem IsNatural.append (natural : IsNatural digits)
    (others : ∀ digit ∈ zeros, digit.isDigit = true) : IsNatural (digits ++ zeros) :=
  ⟨by simp [natural.1], List.forall_mem_append.mpr ⟨natural.2, others⟩⟩

theorem isDigit_replicate (count : Nat) :
    ∀ digit ∈ List.replicate count '0', digit.isDigit = true := by
  intro digit zero
  rw [List.eq_of_mem_replicate zero]
  rfl

theorem IsNatural.take (natural : IsNatural digits) {count : Nat} (some : 0 < count) :
    IsNatural (digits.take count) :=
  ⟨by simp [natural.1, some.ne'], fun digit taken => natural.2 digit (List.mem_of_mem_take taken)⟩

theorem IsNatural.drop (natural : IsNatural digits) {count : Nat} (fewer : count < digits.length) :
    IsNatural (digits.drop count) :=
  ⟨by simp [fewer], fun digit dropped => natural.2 digit (List.mem_of_mem_drop dropped)⟩

theorem isNatural_toDigits (number : Nat) : IsNatural (Nat.toDigits 10 number) :=
  ⟨Nat.toDigits_ne_nil, fun _ => Nat.isDigit_of_mem_toDigits (by decide) (by decide)⟩

theorem signed_integer (number : Int) : Signed IsNatural (toString number).toList := by
  have written : ∀ natural : Nat, (toString natural).toList = Nat.toDigits 10 natural := by
    intro natural
    rw [Nat.toString_eq_repr, Nat.toList_repr]
  cases number with
  | ofNat number =>
      have same : (toString (Int.ofNat number)).toList = Nat.toDigits 10 number := written number
      rw [same]
      exact .positive (isNatural_toDigits number)
  | negSucc number =>
      have same : toString (Int.negSucc number) = "-" ++ toString (number + 1) := rfl
      rw [same, String.toList_append, written]
      exact .negative (isNatural_toDigits (number + 1))

theorem isMagnitude_layPositional (point : Bool) (exponent : Int) (natural : IsNatural digits) :
    IsMagnitude (layPositional point digits exponent) := by
  unfold layPositional
  simp only
  split_ifs with whole pointed fractional
  · rw [← List.append_nil (_ ++ _)]
    exact .parts (natural.append (isDigit_replicate _)) (.inr ⟨['0'], rfl, isNatural_zero⟩)
      (.inl rfl)
  · rw [← List.append_nil (_ ++ [])]
    exact .parts (natural.append (isDigit_replicate _)) (.inl rfl) (.inl rfl)
  · rw [← List.append_nil (_ ++ _)]
    exact .parts (natural.take (by omega)) (.inr ⟨_, rfl, natural.drop (by omega)⟩) (.inl rfl)
  · have padded : IsNatural (List.replicate (-(digits.length + exponent)).toNat '0' ++ digits) :=
      ⟨by simp [natural.1], List.forall_mem_append.mpr ⟨isDigit_replicate _, natural.2⟩⟩
    rw [← List.append_nil ('0' :: _)]
    exact .parts isNatural_zero (.inr ⟨_, rfl, padded⟩) (.inl rfl)

theorem isMagnitude_layExponent (exponent : Int) (natural : IsNatural digits) :
    IsMagnitude (layExponent digits exponent) := by
  refine .parts (natural.take one_pos) ?_ (.inr ⟨_, rfl, signed_integer _⟩)
  split_ifs with single
  · exact .inl rfl
  · refine .inr ⟨_, rfl, natural.drop ?_⟩
    exact Nat.lt_of_not_le fun short => single (List.drop_eq_nil_of_le short)

theorem isMagnitude_lay (layout : Layout) (decimal : Decimal) :
    IsMagnitude (layout.lay decimal) := by
  have natural := isNatural_toDigits decimal.digits
  unfold Layout.lay
  simp only
  split
  · exact isMagnitude_layPositional _ _ natural
  · split_ifs with placed
    · exact isMagnitude_layPositional _ _ natural
    · exact isMagnitude_layExponent _ natural

theorem Signed.sign {shape : List Char → Prop} (negative : Bool) (shaped : shape text) :
    Signed shape ((if negative then ['-'] else []) ++ text) := by
  cases negative with
  | false => exact .positive shaped
  | true => exact .negative shaped

theorem IsMagnitude.exists_digit (shaped : IsMagnitude text) :
    ∃ first rest, text = first :: rest ∧ first.isDigit = true := by
  obtain ⟨natural, -, -⟩ := shaped
  rename_i whole fraction power
  obtain ⟨first, rest, rfl⟩ := List.exists_cons_of_ne_nil natural.1
  exact ⟨first, rest ++ fraction ++ power, rfl, natural.2 first List.mem_cons_self⟩

/-- A literal starts with a digit, after its sign. -/
theorem not_isLiteral_word (negative : Bool) {letter : Char} (rest : List Char)
    (undigited : letter.isDigit = false) (unsigned : letter ≠ '-') :
    ¬IsLiteral (String.ofList ((if negative then ['-'] else []) ++ letter :: rest)) := by
  intro literal
  rw [IsLiteral, String.toList_ofList] at literal
  generalize written : (if negative then ['-'] else []) ++ letter :: rest = text at literal
  cases literal with
  | positive shaped =>
      obtain ⟨first, others, rfl, digit⟩ := shaped.exists_digit
      cases negative <;> cases written
      · exact absurd digit (by rw [undigited]; decide)
      · exact absurd digit (by decide)
  | negative shaped =>
      obtain ⟨first, others, rfl, digit⟩ := shaped.exists_digit
      cases negative <;> cases written
      · exact unsigned rfl
      · exact absurd digit (by rw [undigited]; decide)

theorem IsLiteral.exists_head {text : String} (literal : IsLiteral text) :
    ∃ first rest, text.toList = first :: rest ∧ (first.isDigit = true ∨ first = '-') := by
  generalize written : text.toList = characters
  rw [IsLiteral, written] at literal
  cases literal with
  | positive shaped =>
      obtain ⟨first, rest, rfl, digit⟩ := shaped.exists_digit
      exact ⟨first, rest, rfl, .inl digit⟩
  | negative shaped => exact ⟨'-', _, rfl, .inr rfl⟩

/-- What is written is a literal exactly if the value is finite, in every layout. -/
theorem isLiteral_write_iff (layout : Layout) (value : Binary) :
    IsLiteral (layout.write value) ↔ value.isFinite = true := by
  cases value with
  | finite negative mantissa exponent =>
      refine iff_of_true ?_ rfl
      unfold Layout.write IsLiteral
      simp only
      by_cases zero : mantissa = 0
      · rw [if_pos zero, String.toList_ofList]
        exact .sign negative (isMagnitude_layPositional _ _ isNatural_zero)
      · rw [if_neg zero, String.toList_ofList]
        exact .sign negative (isMagnitude_lay layout _)
  | infinite negative =>
      exact iff_of_false (not_isLiteral_word negative ['n', 'f'] rfl (by decide)) Bool.false_ne_true
  | undefined =>
      exact iff_of_false (not_isLiteral_word false ['a', 'N'] rfl (by decide)) Bool.false_ne_true

end Shapes

end Xib.Number
