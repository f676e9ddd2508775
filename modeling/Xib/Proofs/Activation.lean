import Xib.Proofs.Agreement
import Xib.Proofs.Hierarchy

/-!
# What becomes of every constraint

A constraint of a declared object is written as one line, skipped with one warning, or omitted
because an item of it has no declaration. `Concludes` says which, in the order in which the parts of
a constraint are looked at: first item, first attribute, second item, second attribute, multiplier.
A priority only adds a warning, and no constraint has a say in what becomes of another.
-/

namespace Xib.Swift

set_option autoImplicit false

/-- An identifier of an object without a declaration, of a guide of such an object, or of the first
responder where no object has it. -/
inductive Scope.NotDeclared (scope : Scope) (identifier : String) : Prop where
  | object {index : Nat} (found : scope.document.find? identifier = some index)
      (excluded : scope.isExcluded index = true) : NotDeclared scope identifier
  | guide {guide : Guide} (noObject : scope.document.find? identifier = none)
      (found : scope.document.guide? identifier = some guide)
      (excluded : scope.isExcluded guide.owner = true) : NotDeclared scope identifier
  | firstResponder (same : identifier = firstResponderIdentifier)
      (noObject : scope.document.find? identifier = none) : NotDeclared scope identifier

theorem Scope.reference_eq_none_iff {scope : Scope} {identifier : String} :
    scope.reference identifier = .ok none ↔
      identifier ≠ ownerIdentifier ∧ scope.NotDeclared identifier := by
  rw [reference_eq]
  constructor
  · intro nothing
    split at nothing
    · cases nothing
    · rename_i other
      refine ⟨other, ?_⟩
      split at nothing
      · rename_i index found
        refine .object found ?_
        by_contra declared
        simp [declared] at nothing
      · rename_i noObject
        split at nothing
        · rename_i same
          exact .firstResponder same noObject
        · split at nothing
          · rename_i guide found
            refine .guide noObject found ?_
            by_contra declared
            simp [declared] at nothing
          · cases nothing
  · rintro ⟨other, hidden⟩
    rw [if_neg other]
    cases hidden with
    | object found excluded => simp [found, excluded]
    | guide noObject found excluded => simp [noObject, found, excluded]
    | firstResponder same noObject => rw [noObject, if_pos same]

theorem Anchor.dimension_iff {name : String} {anchor : Anchor}
    (found : Anchor.ofName? name = some anchor) :
    anchor.dimension = true ↔ name = "width" ∨ name = "height" := by
  unfold Anchor.ofName? at found
  split at found
  · rename_i dimension
    cases found
    simpa using dimension
  · rename_i position
    have other : ¬(name = "width" ∨ name = "height") := by simpa using position
    have flat : anchor.dimension = false := by
      split at found
      · cases found
        rfl
      · split at found
        · cases found
          rfl
        · split at found
          · cases found
            rfl
          · split at found
            · cases found
              rfl
            · obtain ⟨edge, _, rfl⟩ := Option.map_eq_some_iff.mp found
              rfl
    simp [flat, other]

inductive Conclusion where
  | written (statement : Statement)
  | skipped (reason : GenerationError)
  | omitted
  deriving Repr, DecidableEq

namespace Conclusion

def statements : Conclusion → List Statement
  | .written statement => [statement]
  | .skipped _ | .omitted => []

def warnings (label : String) : Conclusion → List Warning
  | .skipped reason => [.skipped label reason]
  | .written _ | .omitted => []

def of : Except GenerationError (Option Statement) → Conclusion
  | .ok (some statement) => .written statement
  | .ok none => .omitted
  | .error reason => .skipped reason

end Conclusion

/-- The first item of a constraint has a declaration, and its attribute an anchor. -/
structure Opens (scope : Scope) (index : Nat) (constraint : Constraint) (target : Target)
    (name : String) (first : Anchor) : Prop where
  reached : firstTarget scope index constraint = .ok (some target)
  named : constraint.firstAttribute = some name
  anchored : Anchor.ofName? name = some first

/-- The second item has a declaration too, and an anchor of the second attribute, which is the first
one unless it is given. -/
structure Relates (scope : Scope) (constraint : Constraint) (name : String) (second : Target)
    (anchor : Anchor) : Prop where
  reached : ∃ identifier, constraint.secondItem = some identifier ∧
    scope.reference identifier = .ok (some second)
  anchored : Anchor.ofName? (constraint.secondAttribute.getD name) = some anchor

/-- The multiplier that is written: none if it is absent or one, else that of a dimension. -/
inductive Scales (constraint : Constraint) (first : Anchor) : Option Number.Binary → Prop where
  | absent (absent : constraint.multiplier = none) : Scales constraint first none
  | one {raw : String} {value : Number.Binary} (given : constraint.multiplier = some raw)
      (read : multiplier raw = .ok value) (one : value.isOne = true) : Scales constraint first none
  | dimension {raw : String} {value : Number.Binary} (given : constraint.multiplier = some raw)
      (read : multiplier raw = .ok value) (other : value.isOne = false)
      (dimension : first.dimension = true) : Scales constraint first (some value)

/-- How a constraint of the object at a position comes to its conclusion. -/
inductive Concludes (scope : Scope) (index : Nat) (constraint : Constraint) :
    Conclusion → Prop where
  | firstUnknown {identifier : String} (item : constraint.firstItem = some identifier)
      (unknown : scope.reference identifier = .error (.danglingReference identifier)) :
      Concludes scope index constraint (.skipped (.danglingReference identifier))
  | firstHidden {identifier : String} (item : constraint.firstItem = some identifier)
      (hidden : scope.reference identifier = .ok none) :
      Concludes scope index constraint .omitted
  | unnamed {target : Target} (reached : firstTarget scope index constraint = .ok (some target))
      (absent : constraint.firstAttribute = none) :
      Concludes scope index constraint (.skipped (.missingAttribute "constraint" "firstAttribute"))
  | firstInvalid {target : Target} {name : String}
      (reached : firstTarget scope index constraint = .ok (some target))
      (named : constraint.firstAttribute = some name) (invalid : Anchor.ofName? name = none) :
      Concludes scope index constraint (.skipped (.invalidValue "firstAttribute" name))
  | constant {target : Target} {name : String} {first : Anchor}
      (opens : Opens scope index constraint target name first)
      (alone : constraint.secondItem = none) (dimension : first.dimension = true) :
      Concludes scope index constraint (.written (.activate target first constraint.relation
        (.fixed (constraint.constant.getD "0"))))
  | position {target : Target} {name : String} {first : Anchor}
      (opens : Opens scope index constraint target name first)
      (alone : constraint.secondItem = none) (position : first.dimension = false) :
      Concludes scope index constraint (.skipped (.missingAttribute "constraint" "secondItem"))
  | secondUnknown {target : Target} {name identifier : String} {first : Anchor}
      (opens : Opens scope index constraint target name first)
      (item : constraint.secondItem = some identifier)
      (unknown : scope.reference identifier = .error (.danglingReference identifier)) :
      Concludes scope index constraint (.skipped (.danglingReference identifier))
  | secondHidden {target : Target} {name identifier : String} {first : Anchor}
      (opens : Opens scope index constraint target name first)
      (item : constraint.secondItem = some identifier)
      (hidden : scope.reference identifier = .ok none) :
      Concludes scope index constraint .omitted
  | secondInvalid {target second : Target} {name identifier : String} {first : Anchor}
      (opens : Opens scope index constraint target name first)
      (item : constraint.secondItem = some identifier)
      (found : scope.reference identifier = .ok (some second))
      (invalid : Anchor.ofName? (constraint.secondAttribute.getD name) = none) :
      Concludes scope index constraint
        (.skipped (.invalidValue "secondAttribute" (constraint.secondAttribute.getD name)))
  | unreadable {target second : Target} {name raw : String} {first anchor : Anchor}
      {reason : GenerationError} (opens : Opens scope index constraint target name first)
      (relates : Relates scope constraint name second anchor)
      (given : constraint.multiplier = some raw) (unreadable : multiplier raw = .error reason) :
      Concludes scope index constraint (.skipped reason)
  | scaledPosition {target second : Target} {name raw : String} {first anchor : Anchor}
      {value : Number.Binary} (opens : Opens scope index constraint target name first)
      (relates : Relates scope constraint name second anchor)
      (given : constraint.multiplier = some raw) (read : multiplier raw = .ok value)
      (other : value.isOne = false) (position : first.dimension = false) :
      Concludes scope index constraint (.skipped (.invalidValue "multiplier" raw))
  | relative {target second : Target} {name : String} {first anchor : Anchor}
      {factor : Option Number.Binary} (opens : Opens scope index constraint target name first)
      (relates : Relates scope constraint name second anchor)
      (scales : Scales constraint first factor) :
      Concludes scope index constraint (.written (.activate target first constraint.relation
        (.relative second anchor factor (constraint.constant.filter fun text => !isZero text))))

section Conclusion

variable {scope : Scope} {index : Nat} {constraint : Constraint}

theorem ok_bind {α β : Type} (value : α) (next : α → Except GenerationError β) :
    (Except.ok value >>= next) = next value :=
  rfl

theorem error_bind {α β : Type} (reason : GenerationError) (next : α → Except GenerationError β) :
    (Except.error reason >>= next) = .error reason :=
  rfl

/-- Once the first item is settled, what is left of a constraint is its bound. -/
theorem Opens.activation_eq {target : Target} {name : String} {first : Anchor}
    (opens : Opens scope index constraint target name first) :
    activation scope index constraint = (bound? scope constraint name first).map fun bound =>
      bound.map fun bound => .activate target first constraint.relation bound := by
  simp only [activation, opens.reached, opens.named, required, anchor, ok_bind, opens.anchored]
  cases bound? scope constraint name first <;> rfl

/-- Once the second item is settled, what is left of a bound is its multiplier. -/
theorem Relates.bound?_eq {name : String} {second : Target} {anchor : Anchor} (first : Anchor)
    (relates : Relates scope constraint name second anchor) :
    bound? scope constraint name first =
      (multiplierArgument first constraint.multiplier).map fun factor =>
        some (.relative second anchor factor
          (constraint.constant.filter fun text => !isZero text)) := by
  obtain ⟨identifier, item, found⟩ := relates.reached
  simp only [bound?, item, found, Swift.anchor, ok_bind, relates.anchored]
  cases multiplierArgument first constraint.multiplier <;> rfl

theorem multiplierArgument_some {first : Anchor} {raw : String} {value : Number.Binary}
    (given : constraint.multiplier = some raw) (read : multiplier raw = .ok value) :
    multiplierArgument first constraint.multiplier =
      if value.isOne then .ok none
      else if first.dimension then .ok (some value)
      else .error (.invalidValue "multiplier" raw) := by
  rw [given, multiplierArgument]
  simp only [read, ok_bind]
  rfl

theorem multiplierArgument_error {first : Anchor} {raw : String} {reason : GenerationError}
    (given : constraint.multiplier = some raw) (unreadable : multiplier raw = .error reason) :
    multiplierArgument first constraint.multiplier = .error reason := by
  rw [given, multiplierArgument]
  simp only [unreadable, error_bind]

theorem Scales.multiplierArgument_eq {first : Anchor} {factor : Option Number.Binary}
    (scales : Scales constraint first factor) :
    multiplierArgument first constraint.multiplier = .ok factor := by
  cases scales with
  | absent absent =>
      rw [absent]
      rfl
  | one given read one => rw [multiplierArgument_some given read, if_pos one]
  | dimension given read other dimension =>
      rw [multiplierArgument_some given read, other, dimension]
      rfl

theorem Concludes.eq_of {conclusion : Conclusion}
    (concludes : Concludes scope index constraint conclusion) :
    conclusion = .of (activation scope index constraint) := by
  cases concludes with
  | firstUnknown item unknown =>
      simp only [activation, firstTarget, item, unknown, error_bind, Conclusion.of]
  | firstHidden item hidden =>
      simp only [activation, firstTarget, item, hidden, ok_bind]
      rfl
  | unnamed reached absent =>
      simp only [activation, reached, ok_bind, absent, required, error_bind, Conclusion.of]
  | firstInvalid reached named invalid =>
      simp only [activation, reached, ok_bind, named, required, anchor, invalid, error_bind,
        Conclusion.of]
  | constant opens alone dimension =>
      rw [opens.activation_eq, bound?, alone]
      simp only [dimension, if_true]
      rfl
  | position opens alone position =>
      rw [opens.activation_eq, bound?, alone]
      simp only [position, Bool.false_eq_true, if_false]
      rfl
  | secondUnknown opens item unknown =>
      rw [opens.activation_eq, bound?, item]
      simp only [unknown, error_bind]
      rfl
  | secondHidden opens item hidden =>
      rw [opens.activation_eq, bound?, item]
      simp only [hidden, ok_bind]
      rfl
  | secondInvalid opens item found invalid =>
      rw [opens.activation_eq, bound?, item]
      simp only [found, ok_bind, anchor, invalid, error_bind]
      rfl
  | unreadable opens relates given unreadable =>
      rw [opens.activation_eq, relates.bound?_eq, multiplierArgument_error given unreadable]
      rfl
  | scaledPosition opens relates given read other position =>
      rw [opens.activation_eq, relates.bound?_eq, multiplierArgument_some given read, other,
        position]
      rfl
  | relative opens relates scales =>
      rw [opens.activation_eq, relates.bound?_eq, scales.multiplierArgument_eq]
      rfl

/-- A bound between declared items is written, unless its multiplier stands in the way. -/
theorem Opens.exists_related {target second : Target} {name : String} {first anchor : Anchor}
    (opens : Opens scope index constraint target name first)
    (relates : Relates scope constraint name second anchor) :
    ∃ conclusion, Concludes scope index constraint conclusion := by
  cases given : constraint.multiplier with
  | none => exact ⟨_, .relative opens relates (.absent given)⟩
  | some raw =>
      cases read : multiplier raw with
      | error reason => exact ⟨_, .unreadable opens relates given read⟩
      | ok value =>
          cases one : value.isOne with
          | true => exact ⟨_, .relative opens relates (.one given read one)⟩
          | false =>
              cases dimension : first.dimension with
              | true => exact ⟨_, .relative opens relates (.dimension given read one dimension)⟩
              | false => exact ⟨_, .scaledPosition opens relates given read one dimension⟩

theorem Opens.exists_conclusion {target : Target} {name : String} {first : Anchor}
    (opens : Opens scope index constraint target name first) :
    ∃ conclusion, Concludes scope index constraint conclusion := by
  cases item : constraint.secondItem with
  | none =>
      cases dimension : first.dimension with
      | true => exact ⟨_, .constant opens item dimension⟩
      | false => exact ⟨_, .position opens item dimension⟩
  | some identifier =>
      cases found : scope.reference identifier with
      | error reason =>
          cases Scope.reference_error found
          exact ⟨_, .secondUnknown opens item found⟩
      | ok reached =>
          cases reached with
          | none => exact ⟨_, .secondHidden opens item found⟩
          | some second =>
              cases anchored : Anchor.ofName? (constraint.secondAttribute.getD name) with
              | none => exact ⟨_, .secondInvalid opens item found anchored⟩
              | some anchor => exact opens.exists_related ⟨⟨identifier, item, found⟩, anchored⟩

theorem exists_conclusion_of_reached {target : Target}
    (reached : firstTarget scope index constraint = .ok (some target)) :
    ∃ conclusion, Concludes scope index constraint conclusion := by
  cases named : constraint.firstAttribute with
  | none => exact ⟨_, .unnamed reached named⟩
  | some name =>
      cases anchored : Anchor.ofName? name with
      | none => exact ⟨_, .firstInvalid reached named anchored⟩
      | some first => exact Opens.exists_conclusion ⟨reached, named, anchored⟩

variable (scope index constraint)

theorem exists_conclusion : ∃ conclusion, Concludes scope index constraint conclusion := by
  cases item : constraint.firstItem with
  | none =>
      have reached : firstTarget scope index constraint = .ok (some (.object index)) := by
        rw [firstTarget, item]
      exact exists_conclusion_of_reached reached
  | some identifier =>
      have reached : firstTarget scope index constraint = scope.reference identifier := by
        rw [firstTarget, item]
      cases found : scope.reference identifier with
      | error reason =>
          cases Scope.reference_error found
          exact ⟨_, .firstUnknown item found⟩
      | ok target =>
          cases target with
          | none => exact ⟨_, .firstHidden item found⟩
          | some target => exact exists_conclusion_of_reached (reached.trans found)

theorem activation_concludes :
    Concludes scope index constraint (.of (activation scope index constraint)) := by
  obtain ⟨conclusion, concludes⟩ := exists_conclusion scope index constraint
  rw [← concludes.eq_of]
  exact concludes

variable {scope index constraint}

theorem concludes_iff {conclusion : Conclusion} :
    Concludes scope index constraint conclusion ↔
      conclusion = .of (activation scope index constraint) := by
  constructor
  · exact Concludes.eq_of
  · rintro rfl
    exact activation_concludes scope index constraint

/-- A constraint is omitted only for an item that has no declaration. -/
theorem omitted_iff :
    Concludes scope index constraint .omitted ↔
      (∃ identifier, constraint.firstItem = some identifier ∧
        scope.reference identifier = .ok none) ∨
      ∃ target name first, Opens scope index constraint target name first ∧
        ∃ identifier, constraint.secondItem = some identifier ∧
          scope.reference identifier = .ok none := by
  constructor
  · intro concludes
    cases concludes with
    | firstHidden item hidden => exact .inl ⟨_, item, hidden⟩
    | secondHidden opens item hidden => exact .inr ⟨_, _, _, opens, _, item, hidden⟩
  · rintro (⟨identifier, item, hidden⟩ | ⟨target, name, first, opens, identifier, item, hidden⟩)
    · exact .firstHidden item hidden
    · exact .secondHidden opens item hidden

/-- A line constrains the anchor of the first attribute. Unless that is a dimension, it is to
another anchor, and without a multiplier. -/
theorem Concludes.written_position {statement : Statement}
    (concludes : Concludes scope index constraint (.written statement)) :
    ∃ target name first bound, statement = .activate target first constraint.relation bound ∧
      Opens scope index constraint target name first ∧
      (name ≠ "width" ∧ name ≠ "height" →
        ∃ second anchor constant, bound = .relative second anchor none constant) := by
  have flat : ∀ {name : String} {first : Anchor}, Anchor.ofName? name = some first →
      name ≠ "width" ∧ name ≠ "height" → first.dimension = true → False := by
    intro name first anchored other dimension
    rcases (Anchor.dimension_iff anchored).mp dimension with same | same
    · exact other.1 same
    · exact other.2 same
  cases concludes with
  | constant opens alone dimension =>
      refine ⟨_, _, _, _, rfl, opens, fun other => ?_⟩
      exact (flat opens.anchored other dimension).elim
  | relative opens relates scales =>
      refine ⟨_, _, _, _, rfl, opens, fun other => ?_⟩
      cases scales with
      | absent => exact ⟨_, _, _, rfl⟩
      | one => exact ⟨_, _, _, rfl⟩
      | dimension _ _ _ dimension => exact (flat opens.anchored other dimension).elim

end Conclusion

structure Held where
  index : Nat
  object : Object
  constraint : Constraint

namespace Held

def label (held : Held) : String :=
  constraintLabel held.object held.constraint

def complaints (held : Held) : List Warning :=
  (held.constraint.priority.filter (· ≠ "1000")).toList.map fun priority =>
    .unsupported held.label ("priority " ++ priority)

def conclusion (scope : Scope) (held : Held) : Conclusion :=
  .of (activation scope held.index held.constraint)

theorem priorityWarnings_eq (held : Held) :
    priorityWarnings held.label held.constraint = held.complaints := by
  unfold priorityWarnings complaints
  cases held.constraint.priority with
  | none => rfl
  | some priority =>
      by_cases highest : priority = "1000"
      · simp [highest]
      · simp [highest, toString, Option.filter]

theorem constraintYield_eq (scope : Scope) (held : Held) :
    constraintYield scope held.index held.object held.constraint =
      ⟨(held.conclusion scope).statements,
        held.complaints ++ (held.conclusion scope).warnings held.label⟩ := by
  rw [← priorityWarnings_eq, conclusion, constraintYield]
  cases activation scope held.index held.constraint with
  | error reason => rfl
  | ok statement => cases statement <;> rfl

end Held

namespace Scope

def heldAt (scope : Scope) (index : Nat) : List Held :=
  (scope.document.object? index).toList.flatMap fun object =>
    object.constraints.map (Held.mk index object)

def held (scope : Scope) : List Held :=
  scope.declared.flatMap scope.heldAt

theorem mem_held {scope : Scope} {held : Held} :
    held ∈ scope.held ↔ scope.isExcluded held.index = false ∧
      scope.document.object? held.index = some held.object ∧
      held.constraint ∈ held.object.constraints := by
  rcases held with ⟨index, object, constraint⟩
  simp only [Scope.held, heldAt, List.mem_flatMap, mem_declared, Option.mem_toList, List.mem_map,
    Held.mk.injEq]
  constructor
  · rintro ⟨_, declared, _, found, _, member, rfl, rfl, rfl⟩
    exact ⟨declared, found, member⟩
  · rintro ⟨declared, found, member⟩
    exact ⟨index, declared, object, found, constraint, member, rfl, rfl, rfl⟩

theorem yieldAt_constraints {scope : Scope} {index : Nat}
    (declared : scope.isExcluded index = false) :
    (yieldAt scope (constraints scope) index).statements =
        (scope.heldAt index).flatMap (fun held => (held.conclusion scope).statements) ∧
      (yieldAt scope (constraints scope) index).warnings =
        (scope.heldAt index).flatMap fun held =>
          held.complaints ++ (held.conclusion scope).warnings held.label := by
  obtain ⟨object, found⟩ := exists_of_declared declared
  have each : ∀ constraint, constraintYield scope index object constraint = _ :=
    fun constraint => Held.constraintYield_eq scope ⟨index, object, constraint⟩
  rw [yieldAt_declared found declared, constraints, Yield.concat_statements, Yield.concat_warnings,
    heldAt, found]
  simp [each, List.flatMap_map]

end Scope

section Code

variable (document : Document) (options : Options)

theorem code_constraints_eq :
    (Code.ofDocument document options).constraints =
      (finalScope document options).held.flatMap fun held =>
        (held.conclusion (finalScope document options)).statements.map fun statement =>
          Code.indented options.indent (statement.write (finalScope document options)) := by
  have lines : (Code.ofDocument document options).constraints =
      (Plan.ofDocument document options).constraints.map fun line =>
        Code.indented options.indent (line.statement.write (finalScope document options)) := rfl
  rw [lines, constraints_eq_passLines, passLines_eq_declared, List.map_flatMap, Scope.held,
    List.flatMap_assoc]
  apply List.flatMap_congr
  intro index member
  rw [blockAt, (Scope.yieldAt_constraints (Scope.mem_declared.mp member)).1, List.map_map,
    List.map_flatMap]
  rfl

theorem constraint_warnings_eq :
    (pass (finalScope document options) (constraints (finalScope document options))
      document.generationOrder).2 =
      (finalScope document options).held.flatMap fun held =>
        held.complaints ++ (held.conclusion (finalScope document options)).warnings held.label := by
  have warned := passWarnings_eq_declared (finalScope document options)
    (constraints (finalScope document options))
  rw [finalScope_document] at warned
  rw [warned, Scope.held, List.flatMap_assoc]
  apply List.flatMap_congr
  intro index member
  exact (Scope.yieldAt_constraints (Scope.mem_declared.mp member)).2

end Code

/-- Objects alike in everything but their constraints. -/
inductive OtherwiseAlike : Object → Object → Prop where
  | intro (object : Object) (constraints : List Constraint) :
      OtherwiseAlike object { object with constraints }

theorem OtherwiseAlike.settlesLike {object other : Object}
    (alike : OtherwiseAlike object other) : SettlesLike object other := by
  cases alike
  exact ⟨rfl, rfl, rfl, rfl, fun _ _ => rfl⟩

/-- Every constraint of every declared object is accounted for, in the order in which the objects
are declared and their constraints listed: it is written, skipped with one warning, or omitted for
an item without a declaration, after the warning about its priority. What becomes of it depends on
no constraint, its own apart, of any object. -/
theorem every_constraint_accounted (document : Document) (options : Options) :
    let scope := (settled document options).1
    let code := Code.ofDocument document options
    scope.declared.Pairwise (· > ·) ∧
    (∀ held, held ∈ scope.held ↔ scope.isExcluded held.index = false ∧
      document.object? held.index = some held.object ∧
      held.constraint ∈ held.object.constraints) ∧
    (∃ conclude : Held → Conclusion,
      (∀ held ∈ scope.held, Concludes scope held.index held.constraint (conclude held)) ∧
      code.constraints = scope.held.flatMap (fun held => (conclude held).statements.map
        fun statement => Code.indented options.indent (statement.write scope)) ∧
      code.warnings = (settled document options).2 ++
        (pass scope (subviews scope) document.generationOrder).2 ++
        scope.held.flatMap fun held =>
          held.complaints ++ (conclude held).warnings held.label) ∧
    (∀ index constraint, ∃! conclusion, Concludes scope index constraint conclusion) ∧
    (∀ index constraint, Concludes scope index constraint .omitted ↔
      (∃ identifier, constraint.firstItem = some identifier ∧
        scope.reference identifier = .ok none) ∨
      ∃ target name first, Opens scope index constraint target name first ∧
        ∃ identifier, constraint.secondItem = some identifier ∧
          scope.reference identifier = .ok none) ∧
    (∀ identifier, scope.reference identifier = .ok none ↔
      identifier ≠ ownerIdentifier ∧ scope.NotDeclared identifier) ∧
    (∀ index constraint statement, Concludes scope index constraint (.written statement) →
      ∃ target name first bound, statement = .activate target first constraint.relation bound ∧
        Opens scope index constraint target name first ∧
        (name ≠ "width" ∧ name ≠ "height" →
          ∃ second anchor constant, bound = .relative second anchor none constant)) ∧
    ∀ changed, Document.Matches OtherwiseAlike document changed →
      let other := (settled changed options).1
      other.declared = scope.declared ∧
      (∀ index constraint conclusion, Concludes other index constraint conclusion ↔
        Concludes scope index constraint conclusion) ∧
      ∀ statement : Statement, statement.write other = statement.write scope := by
  intro scope code
  refine ⟨scope.declared_decreasing, ?_, ⟨Held.conclusion scope, ?_, code_constraints_eq _ _, ?_⟩,
    ?_, fun _ _ => omitted_iff, fun _ => Scope.reference_eq_none_iff, ?_, ?_⟩
  · intro held
    have document_eq : scope.document = document := finalScope_document document options
    rw [Scope.mem_held, document_eq]
  · intro held _
    exact activation_concludes scope held.index held.constraint
  · have warnings : code.warnings = (Plan.ofDocument document options).warnings := rfl
    rw [warnings, warnings_eq, configuration_pass_succeeds, List.append_nil, constraint_warnings_eq]
  · intro index constraint
    exact ⟨_, activation_concludes scope index constraint, fun _ concludes => concludes.eq_of⟩
  · intro index constraint statement concludes
    exact concludes.written_position
  · intro changed same other
    have settles := same.mono fun _ _ alike => alike.settlesLike
    have agrees := finalScope_agrees settles options
    refine ⟨declared_congr settles options, ?_, write_finalScope_congr settles options⟩
    intro index constraint conclusion
    rw [concludes_iff, concludes_iff, activation_congr agrees]

def topConstraint : Constraint where
  identifier := some "c"
  firstItem := none
  firstAttribute := some "top"
  relation := .equal
  secondItem := some ownerIdentifier
  secondAttribute := none
  multiplier := none
  constant := none
  priority := none

def constrainedDocument : Document where
  objects :=
    [{ Object.bare "view" .view with
        constraints :=
          [{ topConstraint with firstItem := some "gone", priority := some "750" },
            { topConstraint with multiplier := some "2" },
            { topConstraint with firstItem := some "p", priority := some "250" },
            { topConstraint with secondItem := none, firstAttribute := some "width" },
            topConstraint] },
      { Object.bare "placeholder" .placeholder with
        index := 1
        identifier := some "p"
        constraints := [topConstraint] }]
  roots := [0, 1]
  identifiers := Table.empty.insert "p" 1
  guides := .empty
  warnings := []

def unconstrainedDocument : Document :=
  { constrainedDocument with
    objects := constrainedDocument.objects.map fun object => { object with constraints := [] } }

theorem constrainedDocument_accounted :
    let scope := (settled constrainedDocument .standard).1
    let code := Code.ofDocument constrainedDocument .standard
    code.constraints =
        ["view.widthAnchor.constraint(equalToConstant: 0).isActive = true",
          "view.topAnchor.constraint(equalTo: fileOwner.topAnchor).isActive = true"] ∧
      code.warnings =
        [.unsupported "constraint c on <view>" "priority 750",
          .skipped "constraint c on <view>" (.danglingReference "gone"),
          .skipped "constraint c on <view>" (.invalidValue "multiplier" "2"),
          .unsupported "constraint c on <view>" "priority 250"] ∧
      Concludes scope 0 { topConstraint with firstItem := some "p" } .omitted ∧
      Document.Matches OtherwiseAlike constrainedDocument unconstrainedDocument ∧
      Concludes (settled unconstrainedDocument .standard).1 0
        { topConstraint with firstItem := some "p" } .omitted := by
  obtain ⟨_, _, _, _, omitted, hidden, _, isolated⟩ :=
    every_constraint_accounted constrainedDocument .standard
  have found : (settled constrainedDocument .standard).1.document.find? "p" = some 1 := by
    decide +kernel
  have excluded : (settled constrainedDocument .standard).1.isExcluded 1 = true := by
    decide +kernel
  have undeclared := (hidden "p").mpr ⟨by decide, .object found excluded⟩
  have concludes := (omitted 0 { topConstraint with firstItem := some "p" }).mpr
    (.inl ⟨"p", rfl, undeclared⟩)
  have same : Document.Matches OtherwiseAlike constrainedDocument unconstrainedDocument :=
    ⟨.cons (.intro _ []) (.cons (.intro _ []) .nil), rfl, rfl⟩
  refine ⟨by decide +kernel, by decide +kernel, concludes, same, ?_⟩
  exact ((isolated unconstrainedDocument same).2.1 _ _ _).mpr concludes

end Xib.Swift
