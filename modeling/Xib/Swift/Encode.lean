import Xib.Diagnostic
import Xib.Number.Digits
import Xib.Object.Value
import Xib.Swift.Literal
import Xib.Swift.Property
import Xib.Text.Affix
import Xib.Text.Case

/-!
# Expressions for values

Rectangles, sizes and points pass their numbers through as they were written. Color components
are rounded to three decimals, edge insets are written as fractions, and ratios are divided out.
Parts are looked at in the order they are written, so the first one missing or malformed is
reported.
-/

namespace Xib.Swift

set_option autoImplicit false

open Number (Binary)

def enumeration (name value : String) : String :=
  "." ++ member name value

def required (tag name : String) (value : Option String) : Except GenerationError String :=
  match value with
  | some value => .ok value
  | none => .error (.missingAttribute tag name)

def number (name raw : String) : Except GenerationError Binary :=
  match Number.readFinite? (Text.trim raw) with
  | some value => .ok value
  | none => .error (.invalidValue name raw)

/-- A color component rounded to thousandths, without a sign on zero. -/
def component (name raw : String) : Except GenerationError Binary := do
  let value ← number name raw
  let rounded := ((value.scale 1000).round).unscale 1000
  return if rounded.isZero then .zero false else rounded

def plain (value : Binary) : String :=
  Number.Layout.plain.write value

def alpha (value : Option String) : Except GenerationError String :=
  match value with
  | some raw => (component "alpha" raw).map plain
  | none => .ok "1"

def channel (name : String) (value : Option String) : Except GenerationError String := do
  let raw ← required "color" name value
  (component name raw).map plain

/-- A name takes precedence over a system color, and that over components; white over channels. -/
def color (color : Color) : Except GenerationError String :=
  match color.name, color.systemColor with
  | some name, _ => .ok ("UIColor(named: " ++ string name ++ ")")
  | none, some system => .ok ("." ++ (Text.dropEnd? "Color" system).getD system)
  | none, none => do
      let alpha ← alpha color.alpha
      match color.white with
      | some raw =>
          let white ← component "white" raw
          return s!"UIColor(white: {plain white}, alpha: {alpha})"
      | none =>
          let red ← channel "red" color.red
          let green ← channel "green" color.green
          let blue ← channel "blue" color.blue
          return s!"UIColor(red: {red}, green: {green}, blue: {blue}, alpha: {alpha})"

def rect (rect : Rect) : Except GenerationError String := do
  let x ← required "rect" "x" rect.x
  let y ← required "rect" "y" rect.y
  let width ← required "rect" "width" rect.width
  let height ← required "rect" "height" rect.height
  return s!"CGRect(x: {x}, y: {y}, width: {width}, height: {height})"

def size (size : Size) : Except GenerationError String := do
  let width ← required "size" "width" size.width
  let height ← required "size" "height" size.height
  return s!"CGSize(width: {width}, height: {height})"

def point (point : Point) : Except GenerationError String := do
  let x ← required "point" "x" point.x
  let y ← required "point" "y" point.y
  return s!"CGPoint(x: {x}, y: {y})"

def side (name : String) (value : Option String) : Except GenerationError Binary := do
  let raw ← required "inset" name value
  number name raw

/-- The least ordinate is the top edge, the least abscissa the left one. -/
def inset (inset : Inset) : Except GenerationError String := do
  let top ← side "minY" inset.minY
  let left ← side "minX" inset.minX
  let bottom ← side "maxY" inset.maxY
  let right ← side "maxX" inset.maxX
  let write := Number.Layout.pointed.write
  return s!"UIEdgeInsets(top: {write top}, left: {write left}, " ++
    s!"bottom: {write bottom}, right: {write right})"

def systemFont? (type : String) : Option String :=
  match type with
  | "system" => some "systemFont"
  | "boldSystem" => some "boldSystemFont"
  | "italicSystem" => some "italicSystemFont"
  | _ => none

/-- A text style takes precedence over a system font, and that over a name. -/
def font (font : Font) : Except GenerationError String :=
  match font.style with
  | some style =>
      let name := Text.Case.lowerFirst ((Text.dropStart? "UICTFontTextStyle" style).getD style)
      .ok s!".preferredFont(forTextStyle: .{name})"
  | none => do
      let size ← required "fontDescription" "pointSize" font.pointSize
      match font.type with
      | some type =>
          match systemFont? type with
          | some constructor => return s!".{constructor}(ofSize: {size})"
          | none => .error (.invalidValue "type" type)
      | none =>
          let name ← required "fontDescription" "name" (font.name.or font.family)
          return s!"UIFont(name: {string name}, size: {size})"

def resizingMember? (flag : String) : Option String :=
  match flag with
  | "widthSizable" => some "flexibleWidth"
  | "heightSizable" => some "flexibleHeight"
  | "flexibleMinX" => some "flexibleLeftMargin"
  | "flexibleMaxX" => some "flexibleRightMargin"
  | "flexibleMinY" => some "flexibleTopMargin"
  | "flexibleMaxY" => some "flexibleBottomMargin"
  | _ => none

def autoresizing (flags : List String) : Except GenerationError String := do
  let members ← flags.mapM fun flag =>
    match resizingMember? flag with
    | some member => .ok ("." ++ member)
    | none => .error (.invalidValue "autoresizingMask" flag)
  return "[" ++ ", ".intercalate members ++ "]"

def splitRatio? (raw : String) : Option (String × String) :=
  let before := raw.toList.takeWhile (· ≠ ':')
  match raw.toList.drop before.length with
  | [] => none
  | _ :: after => some (String.ofList before, String.ofList after)

def multiplier (raw : String) : Except GenerationError Binary :=
  match splitRatio? raw with
  | none => number "multiplier" raw
  | some (before, after) => do
      let numerator ← number "multiplier" before
      let denominator ← number "multiplier" after
      if denominator.isZero then .error (.invalidValue "multiplier" raw)
      else return numerator.divide denominator

def isZero (raw : String) : Bool :=
  ((Number.read? (Text.trim raw)).map Binary.isZero).getD false

end Xib.Swift
