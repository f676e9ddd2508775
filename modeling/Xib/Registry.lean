import Xib.Object
import Xib.Text.Quoted
import Xib.Xml.Element

/-!
# Tags that make objects

A registry tells which tags become objects and of which kind. The kind may depend on the whole
element: among the standard tags, the first responder is told from the owner by its attributes.
-/

namespace Xib

set_option autoImplicit false

def Rule := Xml.Element → Kind

namespace Rule

def fixed (kind : Kind) : Rule := fun _ => kind

/-- A placeholder is the first responder if it says so, or if it says nothing and has the first
responder's identifier. -/
def placeholder : Rule := fun element =>
  match element.attribute? "placeholderIdentifier" with
  | some role => if role = "IBFirstResponder" then .firstResponder else .placeholder
  | none =>
      if element.attribute? "id" = some firstResponderIdentifier then .firstResponder
      else .placeholder

end Rule

structure Registry where
  rules : Table Rule

namespace Registry

def empty : Registry := ⟨.empty⟩

def register (registry : Registry) (tag : String) (rule : Rule) : Registry :=
  ⟨registry.rules.insert tag rule⟩

def registerKind (registry : Registry) (tag : String) (kind : Kind) : Registry :=
  registry.register tag (.fixed kind)

def registerClass (registry : Registry) (tag className : String) : Registry :=
  registry.registerKind tag (.custom className)

def kind? (registry : Registry) (element : Xml.Element) : Option Kind :=
  (registry.rules.get? element.name).map fun rule => rule element

def contains (registry : Registry) (tag : String) : Bool :=
  registry.rules.contains tag

def tags (registry : Registry) : List String :=
  registry.rules.keys

def size (registry : Registry) : Nat :=
  registry.rules.size

def cocoaTouch : Registry :=
  ⟨.ofList
    [("view", .fixed .view),
      ("label", .fixed .label),
      ("button", .fixed .button),
      ("imageView", .fixed .imageView),
      ("tableView", .fixed .tableView),
      ("tableViewCell", .fixed .tableViewCell),
      ("collectionView", .fixed .collectionView),
      ("collectionViewCell", .fixed .collectionViewCell),
      ("collectionViewFlowLayout", .fixed .collectionViewFlowLayout),
      ("scrollView", .fixed .scrollView),
      ("stackView", .fixed .stackView),
      ("textField", .fixed .textField),
      ("textView", .fixed .textView),
      ("switch", .fixed .switch),
      ("slider", .fixed .slider),
      ("progressView", .fixed .progressView),
      ("pageControl", .fixed .pageControl),
      ("activityIndicatorView", .fixed .activityIndicatorView),
      ("datePicker", .fixed .datePicker),
      ("webView", .fixed .webView),
      ("segmentedControl", .fixed .segmentedControl),
      ("visualEffectView", .fixed .visualEffectView),
      ("customObject", .fixed .customObject),
      ("tapGestureRecognizer", .fixed (.gestureRecognizer .tap)),
      ("panGestureRecognizer", .fixed (.gestureRecognizer .pan)),
      ("swipeGestureRecognizer", .fixed (.gestureRecognizer .swipe)),
      ("pinchGestureRecognizer", .fixed (.gestureRecognizer .pinch)),
      ("longPressGestureRecognizer", .fixed (.gestureRecognizer .longPress)),
      ("placeholder", .placeholder)]⟩

def summary (registry : Registry) : String :=
  "TagRegistry \x7b tags: [" ++ ", ".intercalate (registry.tags.map Text.quoted) ++ "] \x7d"

end Registry

end Xib
