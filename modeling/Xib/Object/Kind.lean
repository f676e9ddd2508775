/-!
# Kinds of interface objects

A kind fixes the class an object is made of unless the markup names another, and whether objects of
the kind produce code at all.
-/

namespace Xib

set_option autoImplicit false

inductive Gesture where
  | tap
  | pan
  | swipe
  | pinch
  | longPress
  deriving Repr, DecidableEq

inductive Kind where
  | view
  | label
  | button
  | imageView
  | tableView
  | tableViewCell
  | collectionView
  | collectionViewCell
  | collectionViewFlowLayout
  | scrollView
  | stackView
  | textField
  | textView
  | switch
  | slider
  | progressView
  | pageControl
  | activityIndicatorView
  | datePicker
  | webView
  | segmentedControl
  | visualEffectView
  | gestureRecognizer (gesture : Gesture)
  /-- A plain object, whose class the markup usually names. -/
  | customObject
  /-- A view of a class registered for its tag. -/
  | custom (className : String)
  /-- The owner of the generated hierarchy. -/
  | placeholder
  | firstResponder
  deriving Repr, DecidableEq

namespace Kind

def className : Kind → String
  | .view => "UIView"
  | .label => "UILabel"
  | .button => "UIButton"
  | .imageView => "UIImageView"
  | .tableView => "UITableView"
  | .tableViewCell => "UITableViewCell"
  | .collectionView => "UICollectionView"
  | .collectionViewCell => "UICollectionViewCell"
  | .collectionViewFlowLayout => "UICollectionViewFlowLayout"
  | .scrollView => "UIScrollView"
  | .stackView => "UIStackView"
  | .textField => "UITextField"
  | .textView => "UITextView"
  | .switch => "UISwitch"
  | .slider => "UISlider"
  | .progressView => "UIProgressView"
  | .pageControl => "UIPageControl"
  | .activityIndicatorView => "UIActivityIndicatorView"
  | .datePicker => "UIDatePicker"
  | .webView => "UIWebView"
  | .segmentedControl => "UISegmentedControl"
  | .visualEffectView => "UIVisualEffectView"
  | .gestureRecognizer .tap => "UITapGestureRecognizer"
  | .gestureRecognizer .pan => "UIPanGestureRecognizer"
  | .gestureRecognizer .swipe => "UISwipeGestureRecognizer"
  | .gestureRecognizer .pinch => "UIPinchGestureRecognizer"
  | .gestureRecognizer .longPress => "UILongPressGestureRecognizer"
  | .customObject => "NSObject"
  | .custom className => className
  | .placeholder | .firstResponder => "UIResponder"

def isPlaceholder : Kind → Bool
  | .placeholder | .firstResponder => true
  | _ => false

/-- Whether objects of the kind produce code. Placeholders only lend their names; segmented
controls and effect views are read but not written. -/
def isGenerated : Kind → Bool
  | .placeholder | .firstResponder | .segmentedControl | .visualEffectView => false
  | _ => true

end Kind

end Xib
