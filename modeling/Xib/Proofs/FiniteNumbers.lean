import Xib.Proofs.Encoding
import Xib.Proofs.Numerals

/-!
# Finite numbers

Texts that spell no finite number are refused, but color components are scaled and ratios divided
after that. Main statement: the sides of an inset are always literals; a component is one exactly if
a thousand times its value is below the bound from which on rounding overflows, and a multiplier is
finite exactly if it is no ratio or its quotient is below that bound
(`finite_unless_scaled_or_divided_beyond`). Beyond the bound an infinity is written.
-/

namespace Xib

set_option autoImplicit false

/-- The components a color is written with, in the order they are looked at. Without an alpha a
color is opaque. -/
def Color.components (color : Color) : List (String × Option String) :=
  ("alpha", some (color.alpha.getD "1")) ::
    match color.white with
    | some white => [("white", some white)]
    | none => [("red", color.red), ("green", color.green), ("blue", color.blue)]

/-- The sides of an inset, in the order they are looked at. -/
def Inset.sides (inset : Inset) : List (String × Option String) :=
  [("minY", inset.minY), ("minX", inset.minX), ("maxY", inset.maxY), ("maxX", inset.maxX)]

namespace Swift

open Number (Binary IsLiteral Spells isLiteral_write_iff readFinite?_eq_some_iff)
open Number.Binary (overflowBound)

section Thousandths

variable {value : Binary}

def thousandths (value : Binary) : Binary :=
  let rounded := ((value.scale 1000).round).unscale 1000
  if rounded.isZero then .zero false else rounded

theorem component_eq (name raw : String) :
    component name raw = (number name raw).map thousandths := by
  unfold component
  cases number name raw with
  | error reason => rfl
  | ok value => rfl

theorem isFinite_of_isZero (zero : value.isZero = true) : value.isFinite = true := by
  cases value with
  | finite negative mantissa exponent => rfl
  | infinite negative => cases zero
  | undefined => cases zero

theorem isFinite_thousandths : (thousandths value).isFinite = (value.scale 1000).isFinite := by
  have kept : (((value.scale 1000).round).unscale 1000).isFinite = (value.scale 1000).isFinite := by
    rw [Binary.isFinite_unscale (by decide) Binary.round_fits,
      Binary.isFinite_round (Binary.scale_fits 1000)]
  unfold thousandths
  simp only
  split_ifs with zero
  · rw [← kept, isFinite_of_isZero zero]
    rfl
  · exact kept

/-- Only the scaling can leave the range: rounding and dividing bring a value no further out. -/
theorem isFinite_thousandths_iff (finite : value.isFinite = true) :
    (thousandths value).isFinite = true ↔ 1000 * value.magnitude < overflowBound := by
  rw [isFinite_thousandths, Binary.isFinite_scale_iff 1000 finite]
  norm_cast

theorem thousandths_eq_infinite (finite : value.isFinite = true)
    (beyond : (thousandths value).isFinite = false) :
    thousandths value = .infinite value.isNegative := by
  rw [isFinite_thousandths] at beyond
  rw [thousandths, Binary.scale_eq_infinite finite beyond]
  rfl

end Thousandths

section Parts

variable {name raw tag : String} {value : Binary}

theorem number_eq_ok_iff : number name raw = .ok value ↔ Spells (Text.trim raw) value := by
  rw [← readFinite?_eq_some_iff]
  unfold number
  split
  · rename_i found spelled
    rw [spelled, Except.ok.injEq, Option.some.injEq]
  · rename_i unspelled
    rw [unspelled]
    simp

theorem number_eq_error (unspelled : ∀ value, ¬Spells (Text.trim raw) value) :
    number name raw = .error (.invalidValue name raw) := by
  unfold number
  split
  · rename_i found spelled
    exact absurd (readFinite?_eq_some_iff.mp spelled) (unspelled found)
  · rfl

def partText (tag : String) (write : Binary → String) (part : String × Option String) :
    Except GenerationError String := do
  let raw ← required tag part.1 part.2
  (number part.1 raw).map write

/-- What becomes of named parts: each is written in its way, or one that is missing or spells no
finite number is reported. -/
inductive Outcome (tag : String) (parts : List (String × Option String))
    (Way : Binary → String → Prop) : Except GenerationError (List String) → Prop
  | written {texts : List String}
      (each : List.Forall₂ (fun part text => ∃ raw given,
        part.2 = some raw ∧ Spells (Text.trim raw) given ∧ Way given text) parts texts) :
      Outcome tag parts Way (.ok texts)
  | missing {name : String} (absent : (name, none) ∈ parts) :
      Outcome tag parts Way (.error (.missingAttribute tag name))
  | invalid {name raw : String} (present : (name, some raw) ∈ parts)
      (unspelled : ∀ value, ¬Spells (Text.trim raw) value) :
      Outcome tag parts Way (.error (.invalidValue name raw))

variable {write : Binary → String} {Way : Binary → String → Prop}

/-- One part comes first: its text, or else its error, precedes what becomes of the others. -/
theorem Outcome.cons (part : String × Option String) {parts : List (String × Option String)}
    {others : Except GenerationError (List String)}
    (ways : ∀ text given, Spells text given → Way given (write given))
    (outcome : Outcome tag parts Way others) :
    Outcome tag (part :: parts) Way (do return (← partText tag write part) :: (← others)) := by
  obtain ⟨name, field⟩ := part
  cases field with
  | none => exact .missing List.mem_cons_self
  | some raw =>
      by_cases spelled : ∃ given, Spells (Text.trim raw) given
      · obtain ⟨given, spelled⟩ := spelled
        have text : partText tag write (name, some raw) = .ok (write given) := by
          simp only [partText, required, number_eq_ok_iff.mpr spelled, Except.map, bind,
            Except.bind]
        rw [text]
        cases outcome with
        | written each => exact .written (.cons ⟨raw, given, rfl, spelled, ways _ _ spelled⟩ each)
        | missing absent => exact .missing (List.mem_cons_of_mem _ absent)
        | invalid present unspelled => exact .invalid (List.mem_cons_of_mem _ present) unspelled
      · have unspelled : ∀ given, ¬Spells (Text.trim raw) given := not_exists.mp spelled
        have failed : partText tag write (name, some raw) = .error (.invalidValue name raw) := by
          simp only [partText, required, number_eq_error unspelled, Except.map, bind, Except.bind]
        rw [failed]
        exact .invalid List.mem_cons_self unspelled

theorem outcome_mapM (tag : String) (parts : List (String × Option String))
    (ways : ∀ text given, Spells text given → Way given (write given)) :
    Outcome tag parts Way (parts.mapM (partText tag write)) := by
  induction parts with
  | nil => exact .written .nil
  | cons part parts ih =>
      rw [List.mapM_cons]
      exact ih.cons part ways

end Parts

section Encoders

def call (function : String) (labels arguments : List String) : String :=
  function ++ "(" ++ ", ".intercalate (List.zipWith (fun label argument =>
    label ++ ": " ++ argument) labels arguments) ++ ")"

theorem call_white (white alpha : String) :
    s!"UIColor(white: {white}, alpha: {alpha})" =
      call "UIColor" ["white", "alpha"] [white, alpha] := by
  apply String.toList_injective
  simp [call, toString]

theorem call_channels (red green blue alpha : String) :
    s!"UIColor(red: {red}, green: {green}, blue: {blue}, alpha: {alpha})" =
      call "UIColor" ["red", "green", "blue", "alpha"] [red, green, blue, alpha] := by
  apply String.toList_injective
  simp [call, toString]

theorem call_sides (top left bottom right : String) :
    s!"UIEdgeInsets(top: {top}, left: {left}, " ++ s!"bottom: {bottom}, right: {right})" =
      call "UIEdgeInsets" ["top", "left", "bottom", "right"] [top, left, bottom, right] := by
  apply String.toList_injective
  simp [call, toString]

theorem component_map (name raw : String) :
    (component name raw).map plain = (number name raw).map (plain ∘ thousandths) := by
  rw [component_eq]
  generalize number name raw = read
  cases read with
  | error reason => simp only [Except.map]
  | ok value => simp only [Except.map, Function.comp_apply]

theorem partText_some (name raw : String) :
    partText "color" (plain ∘ thousandths) (name, some raw) = plain <$> component name raw := by
  simp only [partText, required, bind, Except.bind, ← component_map]
  rfl

theorem channel_eq (name : String) (value : Option String) :
    channel name value = partText "color" (plain ∘ thousandths) (name, value) := by
  simp only [channel, partText, component_map]

theorem alpha_eq (value : Option String) :
    alpha value = partText "color" (plain ∘ thousandths) ("alpha", some (value.getD "1")) := by
  rw [partText_some]
  cases value with
  | none =>
      have whole : plain <$> component "alpha" "1" = .ok "1" := by decide +kernel
      rw [Option.getD_none, whole, alpha]
  | some raw => rfl

/-- Alpha is looked at first and written last. -/
def colorCall (value : Color) (texts : List String) : String :=
  call "UIColor" (value.components.map Prod.fst).rotateLeft texts.rotateLeft

def insetCall (texts : List String) : String :=
  call "UIEdgeInsets" ["top", "left", "bottom", "right"] texts

theorem color_eq {value : Color} (unnamed : value.name = none) (custom : value.systemColor = none) :
    color value =
      colorCall value <$> value.components.mapM (partText "color" (plain ∘ thousandths)) := by
  have pair : ∀ first second : String, [first, second].rotateLeft = [second, first] :=
    fun _ _ => rfl
  have four : ∀ first second third fourth : String,
      [first, second, third, fourth].rotateLeft = [second, third, fourth, first] :=
    fun _ _ _ _ => rfl
  unfold color colorCall Color.components
  simp only [unnamed, custom, alpha_eq, channel_eq]
  cases value.white with
  | some raw =>
      simp only [List.mapM_cons, List.mapM_nil, partText_some "white", map_bind, bind_map_left,
        map_pure, bind_assoc, pure_bind, List.map_cons, List.map_nil, pair, call_white]
  | none =>
      simp only [List.mapM_cons, List.mapM_nil, map_bind, map_pure, bind_assoc, pure_bind,
        List.map_cons, List.map_nil, four, call_channels]

theorem partText_side (name : String) (value : Option String) (write : Binary → String) :
    partText "inset" write (name, value) = write <$> side name value := by
  simp only [partText, side, map_bind]
  rfl

theorem inset_eq (value : Inset) :
    inset value =
      insetCall <$> value.sides.mapM (partText "inset" Number.Layout.pointed.write) := by
  unfold inset insetCall Inset.sides
  simp only [List.mapM_cons, List.mapM_nil, partText_side, map_bind, bind_map_left, map_pure,
    bind_assoc, pure_bind, call_sides]

end Encoders

section Ratios

variable {raw before after : String} {numerator denominator : Binary}

theorem takeWhile_before_colon {text rest : List Char} (whole : ':' ∉ text) :
    (text ++ rest).takeWhile (· ≠ ':') = text ++ rest.takeWhile (· ≠ ':') := by
  apply List.takeWhile_append_of_pos
  intro character member
  rw [decide_eq_true_eq]
  rintro rfl
  exact whole member

theorem splitRatio?_eq_none (whole : ':' ∉ raw.toList) : splitRatio? raw = none := by
  have taken : raw.toList.takeWhile (· ≠ ':') = raw.toList := by
    rw [← List.append_nil raw.toList, takeWhile_before_colon whole, List.takeWhile_nil]
  simp only [splitRatio?, taken, List.drop_length]

theorem splitRatio?_append (first : ':' ∉ before.toList) :
    splitRatio? (before ++ ":" ++ after) = some (before, after) := by
  have characters : (before ++ ":" ++ after).toList = before.toList ++ ':' :: after.toList := by
    simp
  have taken : (before.toList ++ ':' :: after.toList).takeWhile (· ≠ ':') = before.toList := by
    rw [takeWhile_before_colon first, List.takeWhile_cons_of_neg (by decide), List.append_nil]
  simp only [splitRatio?, characters, taken, List.drop_left, String.ofList_toList]

theorem exists_parts_of_mem (divided : ':' ∈ raw.toList) :
    ∃ before after, raw = before ++ ":" ++ after ∧ ':' ∉ before.toList := by
  obtain ⟨before, after, characters, first⟩ := List.eq_append_cons_of_mem divided
  refine ⟨String.ofList before, String.ofList after, String.toList_injective ?_, ?_⟩
  · simpa using characters
  · rw [String.toList_ofList]
    exact first

def IsRatio (raw : String) (numerator denominator : Binary) : Prop :=
  ∃ before after, raw = before ++ ":" ++ after ∧ ':' ∉ before.toList ∧
    Spells (Text.trim before) numerator ∧ Spells (Text.trim after) denominator

/-- What becomes of a multiplier: the number that it spells, the quotient of a ratio, which may be
infinite, or the report of a text that is neither or of a ratio to zero. -/
inductive MultiplierOutcome (raw : String) : Except GenerationError Binary → Prop
  | number {value : Binary} (whole : ':' ∉ raw.toList) (spelled : Spells (Text.trim raw) value)
      (finite : value.isFinite = true) : MultiplierOutcome raw (.ok value)
  | quotient {numerator denominator : Binary} (ratio : IsRatio raw numerator denominator)
      (nonzero : denominator.isZero = false)
      (finite : (numerator.divide denominator).isFinite = true ↔
        numerator.magnitude / denominator.magnitude < overflowBound)
      (infinite : overflowBound ≤ numerator.magnitude / denominator.magnitude →
        numerator.divide denominator =
          .infinite (numerator.isNegative != denominator.isNegative)) :
      MultiplierOutcome raw (.ok (numerator.divide denominator))
  | invalid (text : String)
      (unspelled : ':' ∉ raw.toList → ∀ value, ¬Spells (Text.trim raw) value)
      (unrelated : ∀ numerator denominator, IsRatio raw numerator denominator →
        denominator.isZero = true) :
      MultiplierOutcome raw (.error (.invalidValue "multiplier" text))

theorem IsRatio.quotient (ratio : IsRatio raw numerator denominator)
    (nonzero : denominator.isZero = false) :
    MultiplierOutcome raw (.ok (numerator.divide denominator)) := by
  have dividend : numerator.isFinite = true := by
    obtain ⟨_, _, _, _, spelled, _⟩ := ratio
    exact spelled.isFinite
  have divisor : denominator.isFinite = true := by
    obtain ⟨_, _, _, _, _, spelled⟩ := ratio
    exact spelled.isFinite
  have bounded := Binary.isFinite_divide_iff dividend divisor nonzero
  refine .quotient ratio nonzero bounded fun beyond => ?_
  refine Binary.divide_eq_infinite dividend divisor ?_
  rw [← Bool.not_eq_true, bounded]
  exact not_lt.mpr beyond

theorem IsRatio.spelled (ratio : IsRatio (before ++ ":" ++ after) numerator denominator)
    (first : ':' ∉ before.toList) :
    Spells (Text.trim before) numerator ∧ Spells (Text.trim after) denominator := by
  obtain ⟨before', after', same, first', spelled⟩ := ratio
  have parts : splitRatio? (before ++ ":" ++ after) = some (before, after) :=
    splitRatio?_append first
  rw [same, splitRatio?_append first'] at parts
  cases parts
  exact spelled

theorem multiplier_whole_outcome (whole : ':' ∉ raw.toList) :
    MultiplierOutcome raw (multiplier raw) := by
  have single : ∀ numerator denominator, ¬IsRatio raw numerator denominator := by
    rintro numerator denominator ⟨before, after, rfl, -⟩
    simp at whole
  unfold multiplier
  rw [splitRatio?_eq_none whole]
  by_cases spelled : ∃ value, Spells (Text.trim raw) value
  · obtain ⟨value, spelled⟩ := spelled
    simp only [number_eq_ok_iff.mpr spelled]
    exact .number whole spelled spelled.isFinite
  · simp only [number_eq_error (not_exists.mp spelled)]
    exact .invalid raw (fun _ => not_exists.mp spelled)
      fun numerator denominator ratio => absurd ratio (single numerator denominator)

theorem multiplier_ratio_outcome (first : ':' ∉ before.toList) :
    MultiplierOutcome (before ++ ":" ++ after) (multiplier (before ++ ":" ++ after)) := by
  have divided : ':' ∈ (before ++ ":" ++ after).toList := by simp
  unfold multiplier
  rw [splitRatio?_append first]
  by_cases above : ∃ numerator, Spells (Text.trim before) numerator
  · obtain ⟨numerator, above⟩ := above
    by_cases below : ∃ denominator, Spells (Text.trim after) denominator
    · obtain ⟨denominator, below⟩ := below
      simp only [number_eq_ok_iff.mpr above, number_eq_ok_iff.mpr below, bind, Except.bind]
      split_ifs with zero
      · refine .invalid _ (absurd divided) fun numerator' denominator' ratio => ?_
        rw [(ratio.spelled first).2.unique below]
        exact zero
      · exact IsRatio.quotient ⟨before, after, rfl, first, above, below⟩ (by simpa using zero)
    · simp only [number_eq_ok_iff.mpr above, number_eq_error (not_exists.mp below), bind,
        Except.bind]
      exact .invalid after (absurd divided) fun numerator denominator ratio =>
        absurd ⟨denominator, (ratio.spelled first).2⟩ below
  · simp only [number_eq_error (not_exists.mp above), bind, Except.bind]
    exact .invalid before (absurd divided) fun numerator denominator ratio =>
      absurd ⟨numerator, (ratio.spelled first).1⟩ above

theorem multiplier_outcome (raw : String) : MultiplierOutcome raw (multiplier raw) := by
  by_cases divided : ':' ∈ raw.toList
  · obtain ⟨before, after, rfl, first⟩ := exists_parts_of_mem divided
    exact multiplier_ratio_outcome first
  · exact multiplier_whole_outcome divided

end Ratios

/-- How a component is written: as a literal, unless a thousand times its value is out of range. -/
def ComponentText (given : Binary) (text : String) : Prop :=
  (IsLiteral text ↔ 1000 * given.magnitude < overflowBound) ∧
    (overflowBound ≤ 1000 * given.magnitude → text = if given.isNegative then "-inf" else "inf")

theorem componentText_thousandths {text : String} {given : Binary} (spelled : Spells text given) :
    ComponentText given (plain (thousandths given)) := by
  have bounded := isFinite_thousandths_iff spelled.isFinite
  refine ⟨(isLiteral_write_iff _ _).trans bounded, fun beyond => ?_⟩
  have infinite : (thousandths given).isFinite = false := by
    rw [← Bool.not_eq_true, bounded]
    exact not_lt.mpr beyond
  rw [thousandths_eq_infinite spelled.isFinite infinite]
  cases given.isNegative with
  | false => rfl
  | true => rfl

/-- Sides are always written as literals. Components and multipliers are finite unless scaling or
dividing what was read leaves the range, which is then not reported. -/
theorem finite_unless_scaled_or_divided_beyond (shade : Color) (margins : Inset) (raw : String) :
    (shade.name = none → shade.systemColor = none →
      ∃ outcome, Outcome "color" shade.components ComponentText outcome ∧
        color shade = colorCall shade <$> outcome) ∧
    (∃ outcome, Outcome "inset" margins.sides (fun _ text => IsLiteral text) outcome ∧
      inset margins = insetCall <$> outcome) ∧
    MultiplierOutcome raw (multiplier raw) := by
  refine ⟨?_, ?_, multiplier_outcome raw⟩
  · intro unnamed custom
    exact ⟨_, outcome_mapM "color" shade.components fun _ _ => componentText_thousandths,
      color_eq unnamed custom⟩
  · refine ⟨_, outcome_mapM "inset" margins.sides fun text given spelled => ?_, inset_eq margins⟩
    exact (isLiteral_write_iff _ given).mpr spelled.isFinite

def glaringWhite : Color :=
  ⟨none, none, none, some "1e306", none, none, none, none, none⟩

/-- The least and the greatest magnitude, a negative zero, and blanks around a number. -/
def extremeMargins : Inset :=
  ⟨some "5e-324", some "1.7976931348623157e308", some "-0", some " 8 "⟩

theorem extremes_written :
    glaringWhite.name = none ∧ glaringWhite.systemColor = none ∧
      (∃ outcome, Outcome "color" glaringWhite.components ComponentText outcome ∧
        color glaringWhite = colorCall glaringWhite <$> outcome) ∧
      (∃ outcome, Outcome "inset" extremeMargins.sides (fun _ text => IsLiteral text) outcome ∧
        inset extremeMargins = insetCall <$> outcome) ∧
      inset extremeMargins = .ok ("UIEdgeInsets(top: 1.7976931348623157e308, left: 5e-324, " ++
        "bottom: 8.0, right: -0.0)") := by
  obtain ⟨shade, margins, _⟩ :=
    finite_unless_scaled_or_divided_beyond glaringWhite extremeMargins "16:9"
  exact ⟨rfl, rfl, shade rfl rfl, margins, by decide +kernel⟩

theorem infinity_written :
    color glaringWhite = .ok "UIColor(white: inf, alpha: 1)" ∧
      multiplier "1e308:1e-308" = .ok (.infinite false) ∧
      (¬∀ value : Color, value.name = none → value.systemColor = none →
        ∃ outcome, Outcome "color" value.components (fun _ text => IsLiteral text) outcome ∧
          color value = colorCall value <$> outcome) ∧
      ¬∀ raw value, multiplier raw = .ok value → value.isFinite = true := by
  have glaring : color glaringWhite = .ok "UIColor(white: inf, alpha: 1)" := by decide +kernel
  have divided : multiplier "1e308:1e-308" = .ok (.infinite false) := by decide +kernel
  refine ⟨glaring, divided, ?_, fun always => ?_⟩
  · intro always
    obtain ⟨outcome, parts, same⟩ := always glaringWhite rfl rfl
    rw [glaring] at same
    cases parts with
    | missing absent => cases same
    | invalid present unspelled => cases same
    | written each =>
        obtain ⟨alpha, others, _, remaining, rfl⟩ := List.forall₂_cons_left_iff.mp each
        obtain ⟨white, last, ⟨_, _, _, _, literal⟩, ended, rfl⟩ :=
          List.forall₂_cons_left_iff.mp remaining
        obtain rfl := List.forall₂_nil_left_iff.mp ended
        have written : _ = call "UIColor" ["white", "alpha"] [white, alpha] := Except.ok.inj same
        obtain ⟨first, rest, characters, start⟩ := literal.exists_head
        -- The infinity starts with a letter where a literal has a digit or a sign.
        have letter : 'i' = first := by
          have texts := congrArg String.toList written
          simp [call, characters] at texts
          exact texts.1
        rw [← letter] at start
        exact absurd start (by decide)
  · exact absurd (always _ _ divided) (by decide)

end Swift

end Xib
