import Xib.Proofs.SingleLine
import Xib.Proofs.Statements

/-!
# Texts in expressions

Strings are quoted, insets and the components of colors are computed, and anchors come from a fixed
list. Whatever else the markup says stands in an expression as it was written: members, numbers,
system colors, text styles. An expression is on a single line exactly if these texts are.
-/

namespace Xib

set_option autoImplicit false

/-- A name is quoted, and components are computed. -/
def Color.verbatim (color : Color) : List String :=
  if color.name.isSome then [] else color.systemColor.toList

def Rect.verbatim (rect : Rect) : List String :=
  rect.x.toList ++ rect.y.toList ++ rect.width.toList ++ rect.height.toList

def Size.verbatim (size : Size) : List String :=
  size.width.toList ++ size.height.toList

def Point.verbatim (point : Point) : List String :=
  point.x.toList ++ point.y.toList

def Font.verbatim (font : Font) : List String :=
  match font.style with
  | some style => [style]
  | none => font.pointSize.toList

def RuntimeValue.verbatim : RuntimeValue → List String
  | .number literal => [literal]
  | .color value => value.verbatim
  | .size value => value.verbatim
  | .point value => value.verbatim
  | .rect value => value.verbatim
  | .flag _ | .string _ | .localizedString _ | .image _ | .nil | .missing _ => []

/-- Titles and images are quoted. -/
def ButtonState.verbatim (state : ButtonState) : List String :=
  (state.titleColor.toList ++ state.titleShadowColor.toList).flatMap Color.verbatim

namespace Swift

open Text (SingleLine AllSingle)

section Encoding

variable {code : String}

theorem map_ok {α β : Type} {first : Except GenerationError α} {image : α → β} {result : β}
    (done : first.map image = .ok result) : ∃ value, first = .ok value ∧ result = image value := by
  cases first with
  | error reason => cases done
  | ok value =>
      cases done
      exact ⟨value, rfl, rfl⟩

theorem component_singleLine (name raw : String)
    (done : (component name raw).map plain = .ok code) : SingleLine code := by
  obtain ⟨value, _, rfl⟩ := map_ok done
  exact Number.singleLine_write _ value

theorem alpha_singleLine {value : Option String} (done : alpha value = .ok code) :
    SingleLine code := by
  cases value with
  | none =>
      cases done
      decide
  | some raw => exact component_singleLine "alpha" raw done

theorem channel_singleLine {name : String} {value : Option String}
    (done : channel name value = .ok code) : SingleLine code := by
  obtain ⟨raw, _, done⟩ := bind_ok done
  exact component_singleLine name raw done

theorem color_singleLine {value : Color} (done : color value = .ok code) :
    SingleLine code ↔ AllSingle value.verbatim := by
  unfold color at done
  unfold Color.verbatim
  split at done
  · rename_i name named
    cases done
    simp +decide [named]
  · rename_i system named known
    cases done
    simp +decide [named, known, Text.singleLine_dropEnd?]
  · rename_i named unknown
    obtain ⟨opacity, opaqueDone, done⟩ := bind_ok done
    have opacitySingle := alpha_singleLine opaqueDone
    split at done
    · obtain ⟨white, _, done⟩ := bind_ok done
      cases done
      simp +decide [named, unknown, plain, opacitySingle]
    · obtain ⟨red, redDone, done⟩ := bind_ok done
      obtain ⟨green, greenDone, done⟩ := bind_ok done
      obtain ⟨blue, blueDone, done⟩ := bind_ok done
      cases done
      simp +decide [named, unknown, opacitySingle, channel_singleLine redDone,
        channel_singleLine greenDone, channel_singleLine blueDone]

theorem rect_singleLine {value : Rect} (done : rect value = .ok code) :
    SingleLine code ↔ AllSingle value.verbatim := by
  obtain ⟨x, xDone, done⟩ := bind_ok done
  obtain ⟨y, yDone, done⟩ := bind_ok done
  obtain ⟨width, widthDone, done⟩ := bind_ok done
  obtain ⟨height, heightDone, done⟩ := bind_ok done
  cases done
  simp +decide [Rect.verbatim, required_ok xDone, required_ok yDone, required_ok widthDone,
    required_ok heightDone, and_assoc]

theorem size_singleLine {value : Size} (done : size value = .ok code) :
    SingleLine code ↔ AllSingle value.verbatim := by
  obtain ⟨width, widthDone, done⟩ := bind_ok done
  obtain ⟨height, heightDone, done⟩ := bind_ok done
  cases done
  simp +decide [Size.verbatim, required_ok widthDone, required_ok heightDone]

theorem point_singleLine {value : Point} (done : point value = .ok code) :
    SingleLine code ↔ AllSingle value.verbatim := by
  obtain ⟨x, xDone, done⟩ := bind_ok done
  obtain ⟨y, yDone, done⟩ := bind_ok done
  cases done
  simp +decide [Point.verbatim, required_ok xDone, required_ok yDone]

theorem inset_singleLine {value : Inset} (done : inset value = .ok code) : SingleLine code := by
  obtain ⟨top, _, done⟩ := bind_ok done
  obtain ⟨left, _, done⟩ := bind_ok done
  obtain ⟨bottom, _, done⟩ := bind_ok done
  obtain ⟨right, _, done⟩ := bind_ok done
  cases done
  simp +decide

theorem font_singleLine {value : Font} (done : font value = .ok code) :
    SingleLine code ↔ AllSingle value.verbatim := by
  unfold font at done
  unfold Font.verbatim
  cases styled : value.style with
  | some style =>
      simp only [styled] at done
      cases done
      simp +decide [Text.Case.singleLine_lowerFirst, Text.singleLine_dropStart?]
  | none =>
      simp only [styled] at done
      obtain ⟨size, sizeDone, done⟩ := bind_ok done
      split at done
      · split at done
        · rename_i constructor known
          cases done
          have single : SingleLine constructor := by
            unfold systemFont? at known
            split at known <;> cases known <;> decide
          simp +decide [required_ok sizeDone, single]
        · cases done
      · obtain ⟨name, _, done⟩ := bind_ok done
        cases done
        simp +decide [required_ok sizeDone]

theorem resizingMember?_singleLine {flag member : String}
    (known : resizingMember? flag = some member) : SingleLine member := by
  unfold resizingMember? at known
  split at known <;> cases known <;> decide

theorem mapM_ok {α β : Type} {step : α → Except GenerationError β} {good : β → Prop}
    (each : ∀ item value, step item = .ok value → good value) {items : List α} {values : List β}
    (done : items.mapM step = .ok values) : ∀ value ∈ values, good value := by
  induction items generalizing values with
  | nil =>
      cases done
      exact fun value member => absurd member List.not_mem_nil
  | cons item rest ih =>
      rw [List.mapM_cons] at done
      obtain ⟨first, firstDone, done⟩ := bind_ok done
      obtain ⟨others, othersDone, done⟩ := bind_ok done
      cases done
      rw [List.forall_mem_cons]
      exact ⟨each item first firstDone, ih othersDone⟩

theorem autoresizing_singleLine {flags : List String} (done : autoresizing flags = .ok code) :
    SingleLine code := by
  obtain ⟨members, gathered, done⟩ := bind_ok done
  cases done
  have single : AllSingle members := by
    refine mapM_ok ?_ gathered
    intro flag member found
    split at found
    · rename_i known
      cases found
      simp +decide [resizingMember?_singleLine known]
    · cases found
  simp +decide [Text.singleLine_intercalate, single]

theorem runtimeCode_singleLine {value : RuntimeValue} (done : runtimeCode value = .ok code) :
    SingleLine code ↔ AllSingle value.verbatim := by
  cases value with
  | number literal =>
      cases done
      simp [RuntimeValue.verbatim]
  | flag value =>
      cases done
      simp [RuntimeValue.verbatim]
  | string text =>
      cases done
      simp [RuntimeValue.verbatim]
  | localizedString text =>
      cases done
      simp [RuntimeValue.verbatim]
  | image name =>
      cases done
      simp [RuntimeValue.verbatim]
  | color value => exact color_singleLine done
  | size value => exact size_singleLine done
  | point value => exact point_singleLine done
  | rect value => exact rect_singleLine done
  | nil =>
      cases done
      simp +decide [RuntimeValue.verbatim]
  | missing type => cases done

theorem traitCode_singleLine (key : String) (value : Scalar) :
    SingleLine (traitCode key value) ↔ SingleLine value.raw := by
  cases value with
  | flag value => cases value <;> simp +decide [traitCode]
  | number literal => rfl
  | text content => exact singleLine_enumeration key content

end Encoding

theorem allSingle_positionNames : AllSingle positionNames := by
  simp only [positionNames, Text.allSingle_cons, Text.allSingle_nil, and_true]
  repeat' apply And.intro
  all_goals exact Text.singleLine_characters (by decide)

theorem allSingle_marginEdges : AllSingle marginEdges := by
  simp only [marginEdges, Text.allSingle_cons, Text.allSingle_nil, and_true]
  repeat' apply And.intro
  all_goals exact Text.singleLine_characters (by decide)

theorem Anchor.singleLine_path {name : String} {found : Anchor}
    (known : Anchor.ofName? name = some found) : SingleLine found.path := by
  have suffix : SingleLine "Anchor" := Text.singleLine_characters (by decide)
  have guide : SingleLine "layoutMarginsGuide." := Text.singleLine_characters (by decide)
  unfold Anchor.ofName? at known
  split at known
  · rename_i dimension
    cases known
    simp only [Bool.or_eq_true, decide_eq_true_eq] at dimension
    rw [Text.singleLine_append]
    obtain rfl | rfl := dimension <;> exact ⟨by decide, suffix⟩
  split at known
  · rename_i position
    cases known
    rw [Text.singleLine_append]
    exact ⟨allSingle_positionNames name (List.contains_iff_mem.mp position), suffix⟩
  split at known
  · cases known
    exact Text.singleLine_characters (by decide)
  split at known
  · cases known
    exact Text.singleLine_characters (by decide)
  split at known
  · cases known
    exact Text.singleLine_characters (by decide)
  obtain ⟨edge, listed, rfl⟩ := Option.map_eq_some_iff.mp known
  rw [Text.singleLine_append, Text.singleLine_append]
  exact ⟨⟨guide, allSingle_marginEdges edge (List.mem_of_find?_eq_some listed)⟩, suffix⟩

theorem anchor_singleLine {field name : String} {found : Anchor}
    (done : anchor field name = .ok found) : SingleLine found.path := by
  unfold anchor at done
  split at done
  · rename_i known
    cases done
    exact Anchor.singleLine_path known
  · cases done

def initializerTexts (object : Object) : List String :=
  let raw (name : String) := ((object.attribute? name).map Scalar.raw).toList
  match object.kind with
  | .tableView | .activityIndicatorView => raw "style"
  | .button => raw "buttonType"
  | .tableViewCell => if (object.attribute? "reuseIdentifier").isSome then raw "style" else []
  | _ => []

theorem initializer_singleLine (object : Object) :
    SingleLine (initializer object) ↔ AllSingle (initializerTexts object) := by
  unfold initializer initializerTexts
  cases object.kind <;> simp only
  case tableView =>
    cases object.attribute? "style" with
    | none => simp +decide
    | some value => simp +decide [singleLine_enumeration]
  case button =>
    cases object.attribute? "buttonType" with
    | none => simp +decide
    | some value => simp +decide [singleLine_enumeration]
  case activityIndicatorView =>
    cases object.attribute? "style" with
    | none => simp +decide
    | some value => simp +decide [singleLine_enumeration]
  case tableViewCell =>
    cases object.attribute? "reuseIdentifier" with
    | none => simp +decide
    | some identifier =>
        cases object.attribute? "style" with
        | none => simp +decide
        | some value =>
            simp +decide [Text.Case.singleLine_lowerFirst, Text.singleLine_dropStarts]
  all_goals simp +decide

def ValueKind.verbatim (value : Scalar) : ValueKind → List String
  | .number | .member => [value.raw]
  | .boolean | .string | .image => []

theorem scalar_singleLine {property : Property} {value : Scalar} {code : String}
    (done : scalar property value = .ok code) :
    SingleLine code ↔ AllSingle (property.kind.verbatim value) := by
  unfold scalar at done
  cases kind : property.kind with
  | boolean =>
      simp only [kind] at done
      split at done <;> cases done
      simp [ValueKind.verbatim]
  | number =>
      simp only [kind] at done
      split at done <;> cases done
      rename_i found
      cases value <;> cases found
      simp [ValueKind.verbatim, Scalar.raw]
  | member =>
      simp only [kind] at done
      cases done
      simp [ValueKind.verbatim, singleLine_enumeration]
  | string =>
      simp only [kind] at done
      cases done
      simp [ValueKind.verbatim]
  | image =>
      simp only [kind] at done
      cases done
      simp [ValueKind.verbatim]

theorem singleLine_fontProperty (kind : Kind) (key : String) :
    SingleLine (fontProperty kind key) ↔ SingleLine key := by
  unfold fontProperty
  split
  · rename_i described
    rw [described]
    split <;> decide
  · rfl

theorem singleLine_inputTrait (key : String) : SingleLine (inputTrait key) ↔ SingleLine key := by
  unfold inputTrait
  split
  · rename_i secure
    rw [secure]
    decide
  · rfl

theorem singleLine_guideProperty (key : String) :
    SingleLine (guideProperty key) ↔ SingleLine key := by
  unfold guideProperty
  split <;> simp +decide

namespace Property

def allTables : List (List Property) :=
  [view, control, scroll, table, tableCell, label, button, imageView, textField, textView, switch,
    slider, progress, pageControl, activity, datePicker, stack, webView, gesture]

theorem tables_subset (kind : Kind) : tables kind ⊆ allTables := by
  cases kind <;>
    simp only [tables, allTables, List.cons_subset, List.nil_subset, List.mem_cons, true_or,
      or_true, and_true]

theorem allTables_singleLine :
    ∀ table ∈ allTables, ∀ property ∈ table, SingleLine property.name := by
  simp only [allTables, view, Property.control, scroll, Property.table, tableCell, label, button,
    imageView, textField, textView, switch, slider, progress, pageControl, activity, datePicker,
    stack, webView, gesture, List.forall_mem_cons, List.not_mem_nil, false_implies, implies_true,
    and_true]
  repeat' apply And.intro
  all_goals exact Text.singleLine_characters (by decide)

theorem mem_merge {earlier : List Property} {tables : List (List Property)} {property : Property}
    (member : property ∈ merge earlier tables) : ∃ table ∈ tables, property ∈ table := by
  induction tables generalizing earlier with
  | nil => exact absurd member List.not_mem_nil
  | cons table rest ih =>
      rw [merge, List.mem_append] at member
      obtain own | later := member
      · exact ⟨table, List.mem_cons_self, List.mem_of_mem_filter own⟩
      · obtain ⟨other, listed, inside⟩ := ih later
        exact ⟨other, List.mem_cons_of_mem _ listed, inside⟩

theorem singleLine_name {kind : Kind} {property : Property} (member : property ∈ ofKind kind) :
    SingleLine property.name := by
  obtain ⟨table, listed, inside⟩ := mem_merge member
  exact allTables_singleLine table (tables_subset kind listed) property inside

end Property

end Swift

end Xib
