import Xib.Proofs.Statements

/-!
# Excluding objects

Excluding an object takes away the statements that refer to it and does nothing else: whether an
object can be configured, and the error if it cannot, do not depend on what is excluded. This is
what allows the skipped objects to be settled before any line is planned.
-/

namespace Xib.Swift

set_option autoImplicit false

namespace Scope

/-- The order in which an identifier is looked up, with the exclusion test where it is made. -/
theorem reference_eq (scope : Scope) (identifier : String) :
    scope.reference identifier =
      if identifier = ownerIdentifier then .ok (some .owner)
      else
        match scope.document.find? identifier with
        | some index => .ok (if scope.isExcluded index then none else some (.object index))
        | none =>
            if identifier = firstResponderIdentifier then .ok none
            else
              match scope.document.guide? identifier with
              | some guide =>
                  .ok (if scope.isExcluded guide.owner then none
                    else some (.guide guide.owner guide.key))
              | none => .error (.danglingReference identifier) := by
  unfold reference resolve
  by_cases owner : identifier = ownerIdentifier
  · simp [owner, Except.map]
  · cases object : scope.document.find? identifier with
    | some index =>
        cases excluded : scope.isExcluded index <;> simp [owner, excluded, Except.map]
    | none =>
        by_cases responder : identifier = firstResponderIdentifier
        · have different : firstResponderIdentifier ≠ ownerIdentifier := by decide
          simp [responder, different]
        · cases known : scope.document.guide? identifier with
          | some guide =>
              cases excluded : scope.isExcluded guide.owner <;>
                simp [owner, responder, excluded, Except.map]
          | none => simp [owner, responder, Except.map]

/-- What is referred to is the owner, or an object that is not excluded. -/
theorem reference_some {scope : Scope} {identifier : String} {target : Target}
    (found : scope.reference identifier = .ok (some target)) :
    (identifier = ownerIdentifier ∧ target = .owner) ∨
      ∃ index, target.object? = some index ∧ scope.isExcluded index = false := by
  rw [reference_eq] at found
  split at found
  · rename_i owner
    cases found
    exact .inl ⟨owner, rfl⟩
  · right
    split at found
    · rename_i index _
      cases excluded : scope.isExcluded index with
      | true => simp [excluded] at found
      | false =>
          simp only [excluded, Bool.false_eq_true, if_false, Except.ok.injEq, Option.some.injEq]
            at found
          exact ⟨index, by rw [← found]; rfl, excluded⟩
    · split at found
      · cases found
      · split at found
        · rename_i guide _
          cases excluded : scope.isExcluded guide.owner with
          | true => simp [excluded] at found
          | false =>
              simp only [excluded, Bool.false_eq_true, if_false, Except.ok.injEq,
                Option.some.injEq] at found
              exact ⟨guide.owner, by rw [← found]; rfl, excluded⟩
        · cases found

@[simp] theorem isExcluded_exclude (scope : Scope) (excluded index : Nat) :
    (scope.exclude excluded).isExcluded index = (index == excluded || scope.isExcluded index) := by
  simp only [isExcluded, exclude, List.contains_cons, Bool.or_assoc]

end Scope

def Target.concerns (target : Target) (index : Nat) : Bool :=
  target.object? = some index

def Statement.refersTo (statement : Statement) (index : Nat) : Bool :=
  statement.targets.any (·.concerns index)

private theorem filter_hidden (target : Target) {index : Nat} (excluded : Nat) (hidden : Bool)
    (concerned : target.object? = some index) :
    (if index == excluded || hidden then none else some target) =
      Option.filter (fun target => !target.concerns excluded)
        (if hidden then none else some target) := by
  cases hidden with
  | true => simp
  | false =>
      by_cases same : index = excluded
      · simp [Option.filter, Target.concerns, concerned, same]
      · simp [Option.filter, Target.concerns, concerned, same]

/-- Excluding an object hides the targets that concern it. -/
theorem Scope.reference_exclude (scope : Scope) (excluded : Nat) (identifier : String) :
    (scope.exclude excluded).reference identifier =
      (scope.reference identifier).map (Option.filter fun target => !target.concerns excluded) := by
  have same : (scope.exclude excluded).document = scope.document := rfl
  rw [reference_eq, reference_eq, same]
  split
  · rfl
  · split
    · rename_i index _
      rw [isExcluded_exclude, filter_hidden (.object index) excluded _ rfl]
      rfl
    · split
      · rfl
      · split
        · rename_i guide _
          rw [isExcluded_exclude, filter_hidden (.guide guide.owner guide.key) excluded _ rfl]
          rfl
        · rfl

def without (excluded : Nat) (result : Except GenerationError (List Statement)) :
    Except GenerationError (List Statement) :=
  result.map (List.filter fun statement => !statement.refersTo excluded)

theorem Plain.targets_eq_nil {index : Nat} {statement : Statement} (plain : Plain index statement) :
    statement.targets = [] := by
  cases plain <;> rfl

theorem without_eq_self {index : Nat} {result : Except GenerationError (List Statement)}
    (plain : Writes result (Plain index)) (excluded : Nat) : without excluded result = result := by
  cases result with
  | error reason => rfl
  | ok statements =>
      have kept :
          statements.filter (fun statement => !statement.refersTo excluded) = statements := by
        rw [List.filter_eq_self]
        intro statement member
        have free := (plain statements rfl statement member).targets_eq_nil
        simp [Statement.refersTo, free]
      simp [without, Except.map, kept]

theorem without_bind {excluded : Nat} {first : Except GenerationError (List Statement)}
    {next other : List Statement → Except GenerationError (List Statement)}
    (each : ∀ statements, other (statements.filter fun statement => !statement.refersTo excluded) =
      without excluded (next statements)) :
    (without excluded first >>= other) = without excluded (first >>= next) := by
  cases first with
  | error reason => rfl
  | ok statements => exact each statements

theorem gather_without {α : Type} {step other : α → Except GenerationError (List Statement)}
    {excluded : Nat} (each : ∀ item, other item = without excluded (step item)) (items : List α) :
    gather other items = without excluded (gather step items) := by
  induction items with
  | nil => rfl
  | cons item rest ih =>
      rw [gather, gather, each item, ih]
      apply without_bind
      intro found
      apply without_bind
      intro others
      simp [without, Except.map, pure, Except.pure]

section

variable (scope : Scope) (excluded index : Nat)

theorem valueStatements_exclude (kind : Kind) (value : Auxiliary) :
    valueStatements (scope.exclude excluded) index kind value =
      without excluded (valueStatements scope index kind value) := by
  cases found : value.embedded? with
  | none =>
      rw [without_eq_self (valueStatements_plain kind found)]
      cases value <;> first | rfl | cases found
  | some child =>
      cases value <;> cases found
      simp only [valueStatements, Scope.isExcluded_exclude]
      cases hidden : scope.isExcluded child with
      | true => simp [without, Except.map]
      | false =>
          by_cases same : child = excluded
          · simp [without, Except.map, same, Statement.refersTo, Statement.targets, Target.concerns,
              Target.object?]
          · simp [without, Except.map, same, Statement.refersTo, Statement.targets, Target.concerns,
              Target.object?]

theorem outletStatements_exclude (connection : Connection) :
    outletStatements (scope.exclude excluded) index connection =
      without excluded (outletStatements scope index connection) := by
  unfold outletStatements
  cases required "outlet" "property" connection.name with
  | error reason => rfl
  | ok property =>
      cases required "outlet" "destination" connection.destination with
      | error reason => rfl
      | ok destination =>
          simp only [bind, Except.bind, scope.reference_exclude excluded destination]
          cases scope.reference destination with
          | error reason => rfl
          | ok target =>
              cases target with
              | none => rfl
              | some target =>
                  cases hidden : target.concerns excluded <;>
                    simp [without, Except.map, Option.filter, hidden, pure, Except.pure,
                      Statement.refersTo, Statement.targets]

/-- Excluding an object takes the statements that refer to it out of a configuration. An error
stays the same error. -/
theorem configuration_exclude (object : Object) :
    configuration (scope.exclude excluded) index object =
      without excluded (configuration scope index object) := by
  have attributes : Writes (gather (attributeStatement index object) (Property.ofKind object.kind))
      (Plain index) := .gather fun property _ => attributeStatement_plain property
  have frame : Writes (frameStatement index object) (Plain index) := frameStatement_plain
  have runtime : Writes (gather (runtimeStatements index) object.auxiliaries) (Plain index) :=
    .gather fun value _ => runtimeStatements_plain value
  have states : Writes (gather (stateStatements index)
      (if object.kind = .button then object.states else [])) (Plain index) :=
    .gather fun state _ => stateStatements_plain state
  have values := gather_without (valueStatements_exclude scope excluded index object.kind)
    object.auxiliaries
  have outlets := gather_without (outletStatements_exclude scope excluded index)
    (object.connections.filter fun connection => connection.kind = .outlet)
  -- Every part is now a part of the other configuration, less the statements taken out.
  unfold configuration
  rw [values, outlets]
  conv =>
    lhs
    rw [← without_eq_self attributes excluded, ← without_eq_self frame excluded,
      ← without_eq_self runtime excluded, ← without_eq_self states excluded]
  apply without_bind
  intro attributes
  apply without_bind
  intro frame
  apply without_bind
  intro values
  apply without_bind
  intro runtime
  apply without_bind
  intro states
  apply without_bind
  intro outlets
  simp [without, Except.map, pure, Except.pure, Statement.refersTo, Statement.targets]

end

end Xib.Swift
