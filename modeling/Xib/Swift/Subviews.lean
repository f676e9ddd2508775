import Xib.Swift.Encode
import Xib.Swift.Yield

/-!
# Subviews

Subviews and gesture recognizers are added to their objects once every object is configured. One
without a declaration is left out; one that leads nowhere becomes a warning.
-/

namespace Xib.Swift

set_option autoImplicit false

def subviewMethod (kind : Kind) : String :=
  if kind = .stackView then "addArrangedSubview" else "addSubview"

/-- What an outlet collection yields: only gesture recognizers have a generated form. -/
def collectionYield (scope : Scope) (index : Nat) (object : Object) (connection : Connection) :
    Yield :=
  if connection.name = some "gestureRecognizers" then
    let target := do
      let destination ← required "outletCollection" "destination" connection.destination
      scope.reference destination
    match target with
    | .ok (some target) => ⟨[.add index "addGestureRecognizer" target], []⟩
    | .ok none => .nothing
    | .error reason => ⟨[], [.skipped s!"{object.describe} gestureRecognizers" reason]⟩
  else
    let name := connection.name.getD "<unnamed>"
    ⟨[], [.unsupported object.describe s!"outletCollection {name}"]⟩

def subviews (scope : Scope) (index : Nat) (object : Object) : Yield :=
  let declared := object.children.filter fun child => !scope.isExcluded child
  let added := declared.map fun child =>
    Statement.add index (subviewMethod object.kind) (.object child)
  let collections := object.connections.filter fun connection =>
    connection.kind = .outletCollection
  Yield.append ⟨added, []⟩ (.concat collections (collectionYield scope index object))

end Xib.Swift
