import Xib.Object.Kind

/-!
# Properties that attributes set

Each kind of object has tables of recognized attributes, the most general first. Code is written
in the order of the tables, whatever the order in the markup; attributes in no table are ignored.
-/

namespace Xib.Swift

set_option autoImplicit false

inductive ValueKind where
  | boolean
  | number
  /-- A member of an enumeration. -/
  | member
  | string
  /-- Name of an image in the asset catalog. -/
  | image
  deriving Repr, DecidableEq

structure Property where
  /-- Name of the attribute. -/
  key : String
  /-- Name of the property in code. -/
  name : String
  kind : ValueKind
  /-- A value that needs no assignment. -/
  default : Option String
  deriving Repr, DecidableEq

namespace Property

def view : List Property :=
  [⟨"translatesAutoresizingMaskIntoConstraints", "translatesAutoresizingMaskIntoConstraints",
      .boolean, none⟩,
    ⟨"clearsContextBeforeDrawing", "clearsContextBeforeDrawing", .boolean, none⟩,
    ⟨"contentMode", "contentMode", .member, none⟩,
    ⟨"alpha", "alpha", .number, none⟩,
    ⟨"hidden", "isHidden", .boolean, none⟩,
    ⟨"opaque", "isOpaque", .boolean, none⟩,
    ⟨"userInteractionEnabled", "isUserInteractionEnabled", .boolean, none⟩,
    ⟨"multipleTouchEnabled", "isMultipleTouchEnabled", .boolean, none⟩,
    ⟨"clipsSubviews", "clipsToBounds", .boolean, none⟩,
    ⟨"tag", "tag", .number, none⟩,
    ⟨"semanticContentAttribute", "semanticContentAttribute", .member, none⟩]

def control : List Property :=
  [⟨"contentHorizontalAlignment", "contentHorizontalAlignment", .member, some "center"⟩,
    ⟨"contentVerticalAlignment", "contentVerticalAlignment", .member, some "center"⟩,
    ⟨"enabled", "isEnabled", .boolean, none⟩,
    ⟨"selected", "isSelected", .boolean, none⟩,
    ⟨"highlighted", "isHighlighted", .boolean, none⟩]

def scroll : List Property :=
  [⟨"alwaysBounceVertical", "alwaysBounceVertical", .boolean, none⟩,
    ⟨"alwaysBounceHorizontal", "alwaysBounceHorizontal", .boolean, none⟩,
    ⟨"bounces", "bounces", .boolean, none⟩,
    ⟨"pagingEnabled", "isPagingEnabled", .boolean, none⟩,
    ⟨"scrollEnabled", "isScrollEnabled", .boolean, none⟩,
    ⟨"showsHorizontalScrollIndicator", "showsHorizontalScrollIndicator", .boolean, none⟩,
    ⟨"showsVerticalScrollIndicator", "showsVerticalScrollIndicator", .boolean, none⟩,
    ⟨"keyboardDismissMode", "keyboardDismissMode", .member, none⟩,
    ⟨"directionalLockEnabled", "isDirectionalLockEnabled", .boolean, none⟩,
    ⟨"bouncesZoom", "bouncesZoom", .boolean, none⟩,
    ⟨"minimumZoomScale", "minimumZoomScale", .number, none⟩,
    ⟨"maximumZoomScale", "maximumZoomScale", .number, none⟩]

def table : List Property :=
  [⟨"separatorStyle", "separatorStyle", .member, none⟩,
    ⟨"rowHeight", "rowHeight", .number, none⟩,
    ⟨"estimatedRowHeight", "estimatedRowHeight", .number, none⟩,
    ⟨"sectionHeaderHeight", "sectionHeaderHeight", .number, none⟩,
    ⟨"sectionFooterHeight", "sectionFooterHeight", .number, none⟩,
    ⟨"allowsSelection", "allowsSelection", .boolean, none⟩,
    ⟨"allowsMultipleSelection", "allowsMultipleSelection", .boolean, none⟩]

def tableCell : List Property :=
  [⟨"selectionStyle", "selectionStyle", .member, none⟩,
    ⟨"accessoryType", "accessoryType", .member, none⟩]

def label : List Property :=
  [⟨"text", "text", .string, none⟩,
    ⟨"textAlignment", "textAlignment", .member, none⟩,
    ⟨"lineBreakMode", "lineBreakMode", .member, none⟩,
    ⟨"numberOfLines", "numberOfLines", .number, none⟩,
    ⟨"enabled", "isEnabled", .boolean, none⟩,
    ⟨"highlighted", "isHighlighted", .boolean, none⟩,
    ⟨"adjustsFontSizeToFit", "adjustsFontSizeToFitWidth", .boolean, none⟩,
    ⟨"minimumFontSize", "minimumFontSize", .number, none⟩,
    ⟨"minimumScaleFactor", "minimumScaleFactor", .number, none⟩,
    ⟨"baselineAdjustment", "baselineAdjustment", .member, none⟩]

def button : List Property :=
  [⟨"lineBreakMode", "lineBreakMode", .member, none⟩,
    ⟨"reversesTitleShadowWhenHighlighted", "reversesTitleShadowWhenHighlighted", .boolean, none⟩,
    ⟨"showsTouchWhenHighlighted", "showsTouchWhenHighlighted", .boolean, none⟩,
    ⟨"adjustsImageWhenHighlighted", "adjustsImageWhenHighlighted", .boolean, none⟩]

def imageView : List Property :=
  [⟨"image", "image", .image, none⟩,
    ⟨"highlightedImage", "highlightedImage", .image, none⟩]

def textField : List Property :=
  [⟨"text", "text", .string, none⟩,
    ⟨"placeholder", "placeholder", .string, none⟩,
    ⟨"textAlignment", "textAlignment", .member, none⟩,
    ⟨"borderStyle", "borderStyle", .member, none⟩,
    ⟨"clearButtonMode", "clearButtonMode", .member, none⟩,
    ⟨"clearsOnBeginEditing", "clearsOnBeginEditing", .boolean, none⟩,
    ⟨"minimumFontSize", "minimumFontSize", .number, none⟩,
    ⟨"adjustsFontSizeToFit", "adjustsFontSizeToFitWidth", .boolean, none⟩,
    ⟨"background", "background", .image, none⟩]

def textView : List Property :=
  [⟨"text", "text", .string, none⟩,
    ⟨"editable", "isEditable", .boolean, none⟩,
    ⟨"selectable", "isSelectable", .boolean, none⟩,
    ⟨"textAlignment", "textAlignment", .member, none⟩]

def switch : List Property :=
  [⟨"on", "isOn", .boolean, none⟩]

def slider : List Property :=
  [⟨"value", "value", .number, none⟩,
    ⟨"minValue", "minimumValue", .number, none⟩,
    ⟨"maxValue", "maximumValue", .number, none⟩,
    ⟨"continuous", "isContinuous", .boolean, none⟩]

def progress : List Property :=
  [⟨"progress", "progress", .number, none⟩,
    ⟨"progressViewStyle", "progressViewStyle", .member, none⟩]

def pageControl : List Property :=
  [⟨"numberOfPages", "numberOfPages", .number, none⟩,
    ⟨"currentPage", "currentPage", .number, none⟩,
    ⟨"hidesForSinglePage", "hidesForSinglePage", .boolean, none⟩]

def activity : List Property :=
  [⟨"hidesWhenStopped", "hidesWhenStopped", .boolean, none⟩]

def datePicker : List Property :=
  [⟨"datePickerMode", "datePickerMode", .member, none⟩,
    ⟨"minuteInterval", "minuteInterval", .number, none⟩]

def stack : List Property :=
  [⟨"axis", "axis", .member, none⟩,
    ⟨"distribution", "distribution", .member, none⟩,
    ⟨"alignment", "alignment", .member, none⟩,
    ⟨"spacing", "spacing", .number, none⟩,
    ⟨"baselineRelativeArrangement", "isBaselineRelativeArrangement", .boolean, none⟩,
    ⟨"layoutMarginsRelativeArrangement", "isLayoutMarginsRelativeArrangement", .boolean, none⟩]

def webView : List Property :=
  [⟨"scalesPageToFit", "scalesPageToFit", .boolean, none⟩]

def gesture : List Property :=
  [⟨"cancelsTouchesInView", "cancelsTouchesInView", .boolean, none⟩,
    ⟨"numberOfTapsRequired", "numberOfTapsRequired", .number, none⟩,
    ⟨"numberOfTouchesRequired", "numberOfTouchesRequired", .number, none⟩,
    ⟨"minimumPressDuration", "minimumPressDuration", .number, none⟩,
    ⟨"direction", "direction", .member, none⟩]

/-- The tables of a kind, most general first. -/
def tables : Kind → List (List Property)
  | .view | .collectionViewCell | .custom _ => [view]
  | .label => [view, label]
  | .button => [view, control, button]
  | .imageView => [view, imageView]
  | .tableView => [view, scroll, table]
  | .tableViewCell => [view, tableCell]
  | .collectionView | .scrollView => [view, scroll]
  | .stackView => [view, stack]
  | .textField => [view, control, textField]
  | .textView => [view, scroll, textView]
  | .switch => [view, control, switch]
  | .slider => [view, control, slider]
  | .progressView => [view, progress]
  | .pageControl => [view, control, pageControl]
  | .activityIndicatorView => [view, activity]
  | .datePicker => [view, control, datePicker]
  | .webView => [view, webView]
  | .gestureRecognizer _ => [gesture]
  | .collectionViewFlowLayout | .customObject | .segmentedControl | .visualEffectView
  | .placeholder | .firstResponder => []

/-- The properties of tables in order, each key at its first table only. -/
def merge (earlier : List Property) : List (List Property) → List Property
  | [] => []
  | table :: rest =>
      table.filter (fun property => !earlier.any fun other => other.key = property.key) ++
        merge (earlier ++ table) rest

def ofKind (kind : Kind) : List Property :=
  merge [] (tables kind)

end Property

def renamedMembers : List ((String × String) × String) :=
  [(("buttonType", "roundedRect"), "system"),
    (("keyboardAppearance", "alert"), "dark"),
    (("textContentType", "email"), "emailAddress"),
    (("textContentType", "tel"), "telephoneNumber"),
    (("textContentType", "url"), "URL")]

def member (name value : String) : String :=
  (renamedMembers.lookup (name, value)).getD value

def inputTrait (key : String) : String :=
  if key = "secureTextEntry" then "isSecureTextEntry" else key

end Xib.Swift
