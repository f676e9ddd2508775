import Xib.Proofs.Activation

/-!
# Kinds of anchors in constraints

An anchor is a dimension or a position. A constraint between two items looks up the anchors of its
two attributes one by one, and only the kind of the first one is ever asked for. Main statement: the
two anchors of a line are of one kind exactly if the attributes are, and a multiplier stands between
two dimensions exactly if the second attribute is one (`one_kind_unless_attributes_mixed`).
-/

namespace Xib.Swift

set_option autoImplicit false

/-- The attributes whose anchors are dimensions; all others are positions. -/
def dimensionNames : List String :=
  ["width", "height"]

/-- Width and height, by what is written. -/
def Anchor.IsDimension (anchor : Anchor) : Prop :=
  anchor.path = "widthAnchor" ∨ anchor.path = "heightAnchor"

instance (anchor : Anchor) : Decidable anchor.IsDimension :=
  inferInstanceAs (Decidable (_ ∨ _))

/-- One attribute of a constraint is a dimension and the other one a position. Without a second
attribute, the first one counts twice. -/
def MixesKinds (constraint : Constraint) : Prop :=
  ∃ name, constraint.firstAttribute = some name ∧
    ¬(name ∈ dimensionNames ↔ constraint.secondAttribute.getD name ∈ dimensionNames)

def HasMultiplier (arguments : List String) : Prop :=
  ∃ argument ∈ arguments, "multiplier: ".toList <+: argument.toList

theorem Anchor.not_isDimension_of_mem_positionNames {name : String}
    (position : name ∈ positionNames) (flag : Bool) :
    ¬(Anchor.mk (name ++ "Anchor") flag).IsDimension := by
  have each : ∀ other ∈ positionNames, ¬(Anchor.mk (other ++ "Anchor") flag).IsDimension := by
    cases flag <;> decide
  exact each name position

theorem Anchor.not_isDimension_of_mem_marginEdges {edge : String} (margin : edge ∈ marginEdges)
    (flag : Bool) : ¬(Anchor.mk ("layoutMarginsGuide." ++ edge ++ "Anchor") flag).IsDimension := by
  have each : ∀ other ∈ marginEdges,
      ¬(Anchor.mk ("layoutMarginsGuide." ++ other ++ "Anchor") flag).IsDimension := by
    cases flag <;> decide
  exact each edge margin

theorem Anchor.isDimension_iff {name : String} {anchor : Anchor}
    (found : Anchor.ofName? name = some anchor) :
    anchor.IsDimension ↔ name ∈ dimensionNames := by
  unfold Anchor.ofName? at found
  split at found
  · rename_i dimension
    cases found
    simp only [Bool.or_eq_true, decide_eq_true_eq] at dimension
    obtain rfl | rfl := dimension <;> decide
  · rename_i position
    have other : name ∉ dimensionNames := by simpa [dimensionNames] using position
    suffices flat : ¬anchor.IsDimension by simp only [flat, other]
    split at found
    · rename_i listed
      cases found
      exact not_isDimension_of_mem_positionNames (List.contains_iff_mem.mp listed) _
    split at found
    · cases found
      decide
    split at found
    · cases found
      decide
    split at found
    · cases found
      decide
    obtain ⟨edge, listed, rfl⟩ := Option.map_eq_some_iff.mp found
    exact not_isDimension_of_mem_marginEdges (List.mem_of_find?_eq_some listed) _

theorem Anchor.isDimension_of_dimension {name : String} {anchor : Anchor}
    (found : Anchor.ofName? name = some anchor) (dimension : anchor.dimension = true) :
    anchor.IsDimension := by
  rw [isDimension_iff found]
  simpa [dimensionNames] using (dimension_iff found).mp dimension

/-- Of the arguments of a bound, the multiplier is the only one that begins like one. -/
theorem hasMultiplier_iff (scope : Scope) (relation : Relation) (second : Target) (anchor : Anchor)
    (factor : Option Number.Binary) (constant : Option String) :
    HasMultiplier ((Bound.relative second anchor factor constant).arguments scope relation) ↔
      factor.isSome = true := by
  cases relation <;> cases factor <;> cases constant <;>
    simp [HasMultiplier, Bound.arguments, relationLabel, List.cons_prefix_cons]

section Written

variable {scope : Scope} {index : Nat} {constraint : Constraint}

theorem Scales.dimension_of_isSome {first : Anchor} {factor : Option Number.Binary}
    (scales : Scales constraint first factor) (multiplied : factor.isSome = true) :
    first.dimension = true := by
  cases scales with
  | absent => cases multiplied
  | one => cases multiplied
  | dimension _ _ _ dimension => exact dimension

theorem exists_related_of_written {statement : Statement} (between : constraint.secondItem ≠ none)
    (written : activation scope index constraint = .ok (some statement)) :
    ∃ target name first second anchor factor, Opens scope index constraint target name first ∧
      Relates scope constraint name second anchor ∧ Scales constraint first factor ∧
      statement = .activate target first constraint.relation (.relative second anchor factor
        (constraint.constant.filter fun text => !isZero text)) := by
  have concludes := activation_concludes scope index constraint
  rw [written, Conclusion.of] at concludes
  cases concludes with
  | constant _ alone _ => exact absurd alone between
  | relative opens relates scales => exact ⟨_, _, _, _, _, _, opens, relates, scales, rfl⟩

theorem mixesKinds_iff {target second : Target} {name : String} {first anchor : Anchor}
    (opens : Opens scope index constraint target name first)
    (relates : Relates scope constraint name second anchor) :
    MixesKinds constraint ↔ ¬(first.IsDimension ↔ anchor.IsDimension) := by
  rw [Anchor.isDimension_iff opens.anchored, Anchor.isDimension_iff relates.anchored, MixesKinds,
    opens.named]
  simp

/-- Whether a line is written does not depend on the kind of the second anchor. -/
theorem exists_written_iff {target second : Target} {name : String} {first anchor : Anchor}
    (opens : Opens scope index constraint target name first)
    (relates : Relates scope constraint name second anchor) :
    (∃ statement, activation scope index constraint = .ok (some statement)) ↔
      ∃ factor, Scales constraint first factor := by
  constructor
  · rintro ⟨statement, written⟩
    have between : constraint.secondItem ≠ none := by
      obtain ⟨identifier, item, _⟩ := relates.reached
      simp [item]
    obtain ⟨_, other, again, _, _, factor, opensToo, _, scales, _⟩ :=
      exists_related_of_written between written
    obtain rfl : name = other := Option.some.inj (opens.named.symm.trans opensToo.named)
    obtain rfl : first = again := Option.some.inj (opens.anchored.symm.trans opensToo.anchored)
    exact ⟨factor, scales⟩
  · rintro ⟨factor, scales⟩
    refine ⟨.activate target first constraint.relation (.relative second anchor factor
      (constraint.constant.filter fun text => !isZero text)), ?_⟩
    rw [opens.activation_eq, relates.bound?_eq, scales.multiplierArgument_eq]
    rfl

end Written

/-- In a line between two items both anchors are dimensions or both are positions, exactly if the
constraint does not mix a dimension with a position. A multiplier is only written for a first
anchor that is a dimension, and then the second one is a dimension too under the same condition.
Mixed attributes keep no line from being written: once both anchors are found, only the kind of the
first one has a say. -/
theorem one_kind_unless_attributes_mixed (scope : Scope) (index : Nat) (constraint : Constraint)
    (between : constraint.secondItem ≠ none) :
    (∀ statement, activation scope index constraint = .ok (some statement) →
      ∃ target first second anchor factor constant,
        statement = .activate target first constraint.relation
          (.relative second anchor factor constant) ∧
        ((first.IsDimension ↔ anchor.IsDimension) ↔ ¬MixesKinds constraint) ∧
        (HasMultiplier ((Bound.relative second anchor factor constant).arguments scope
            constraint.relation) →
          first.IsDimension ∧ (anchor.IsDimension ↔ ¬MixesKinds constraint))) ∧
    ∀ target name first second anchor, Opens scope index constraint target name first →
      Relates scope constraint name second anchor →
      ((∃ statement, activation scope index constraint = .ok (some statement)) ↔
        ∃ factor, Scales constraint first factor) := by
  refine ⟨?_, fun _ _ _ _ _ opens relates => exists_written_iff opens relates⟩
  intro statement written
  obtain ⟨target, name, first, second, anchor, factor, opens, relates, scales, rfl⟩ :=
    exists_related_of_written between written
  have mixes := mixesKinds_iff opens relates
  refine ⟨target, first, second, anchor, factor, _, rfl, by rw [mixes, not_not], ?_⟩
  intro multiplied
  have dimension := scales.dimension_of_isSome ((hasMultiplier_iff _ _ _ _ _ _).mp multiplied)
  have firstDimension := Anchor.isDimension_of_dimension opens.anchored dimension
  refine ⟨firstDimension, ?_⟩
  rw [mixes, not_not]
  simp only [firstDimension, true_iff]

def mixedConstraint : Constraint where
  identifier := none
  firstItem := none
  firstAttribute := some "width"
  relation := .equal
  secondItem := some "a"
  secondAttribute := some "leading"
  multiplier := some "2"
  constant := none
  priority := none

def widthDocument : Document where
  objects :=
    [{ Object.bare "view" .view with
        identifier := some "a"
        constraints := [mixedConstraint] }]
  roots := [0]
  identifiers := Table.empty.insert "a" 0
  guides := .empty
  warnings := []

def mixedStatement : Statement :=
  .activate (.object 0) ⟨"widthAnchor", true⟩ .equal
    (.relative (.object 0) ⟨"leadingAnchor", false⟩ (some (.finite false (Nat.pow 2 52) (-51)))
      none)

theorem mixedConstraint_activation :
    activation (settled widthDocument .standard).1 0 mixedConstraint =
      .ok (some mixedStatement) := by
  decide +kernel

theorem mixedConstraint_mixes_kinds :
    activation (settled widthDocument .standard).1 0 mixedConstraint = .ok (some mixedStatement) ∧
      ∃ first anchor : Anchor, first.IsDimension ∧ ¬anchor.IsDimension ∧
        ∃ target second factor constant, mixedStatement =
          .activate target first .equal (.relative second anchor factor constant) := by
  obtain ⟨written, _⟩ := one_kind_unless_attributes_mixed (settled widthDocument .standard).1 0
    mixedConstraint (by decide)
  obtain ⟨target, first, second, anchor, factor, constant, same, kinds, _⟩ :=
    written mixedStatement mixedConstraint_activation
  have mixed : MixesKinds mixedConstraint := ⟨"width", rfl, by decide⟩
  have dimension : first.IsDimension := by
    cases same
    decide
  refine ⟨mixedConstraint_activation, first, anchor, dimension, ?_, target, second, factor,
    constant, same⟩
  intro both
  exact kinds.mp (by simp only [dimension, both]) mixed

/-- A line can relate a dimension to a position, and with a multiplier: the width of a view to its
leading edge. -/
theorem width_bound_to_leading_edge :
    ((Code.ofText ("<view id='a'><constraints><constraint firstAttribute='width' " ++
      "secondItem='a' secondAttribute='leading' multiplier='2'/></constraints></view>")).map
        Code.constraints).toOption =
      some ["view.widthAnchor.constraint(equalTo: view.leadingAnchor, multiplier: 2)" ++
        ".isActive = true"] ∧
    ¬∀ (scope : Scope) (index : Nat) (constraint : Constraint) (statement : Statement),
      constraint.secondItem ≠ none →
      activation scope index constraint = .ok (some statement) →
      ∀ target first relation second anchor factor constant,
        statement = .activate target first relation (.relative second anchor factor constant) →
        (first.IsDimension ↔ anchor.IsDimension) ∧
        (HasMultiplier ((Bound.relative second anchor factor constant).arguments scope relation) →
          first.IsDimension ∧ anchor.IsDimension) := by
  refine ⟨by decide +kernel, ?_⟩
  intro always
  have kinds := (always _ 0 mixedConstraint mixedStatement (by decide) mixedConstraint_activation
    _ _ _ _ _ _ _ rfl).1
  exact absurd (kinds.mp (by decide)) (by decide)

end Xib.Swift
