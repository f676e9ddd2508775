import Mathlib.Data.List.Nodup
import Xib.Proofs.Exclusion
import Xib.Proofs.Passes

/-!
# Settling what is skipped

Since no failure depends on what is excluded, going through the objects one by one skips exactly
those that cannot be configured in the scope of the start, and they fail in the same way in the
scope of the end. Everything else can be configured in both.
-/

namespace Xib.Swift

set_option autoImplicit false

def failure? {α : Type} : Except GenerationError α → Option GenerationError
  | .ok _ => none
  | .error reason => some reason

theorem failure?_eq_some {α : Type} {result : Except GenerationError α} {reason : GenerationError} :
    failure? result = some reason ↔ result = .error reason := by
  cases result <;> simp [failure?]

theorem failure?_without (excluded : Nat) (result : Except GenerationError (List Statement)) :
    failure? (without excluded result) = failure? result := by
  cases result <;> rfl

namespace Scope

def skipping (scope : Scope) (indices : List Nat) : Scope :=
  { scope with skipped := indices.reverse ++ scope.skipped }

theorem exclude_skipping (scope : Scope) (index : Nat) (indices : List Nat) :
    (scope.exclude index).skipping indices = scope.skipping (index :: indices) := by
  simp [skipping, exclude]

/-- The warning about an object that would be declared but cannot be configured. -/
def skip? (scope : Scope) (index : Nat) : Option Warning :=
  match scope.document.object? index with
  | none => none
  | some object =>
      if scope.isExcluded index then none
      else (failure? (configuration scope index object)).map (.skipped object.describe)

/-- Excluding an object does not change what becomes of the others. -/
theorem skip?_exclude (scope : Scope) {excluded index : Nat} (different : index ≠ excluded) :
    (scope.exclude excluded).skip? index = scope.skip? index := by
  have document : (scope.exclude excluded).document = scope.document := rfl
  unfold skip?
  rw [document]
  cases scope.document.object? index with
  | none => rfl
  | some object =>
      simp only [isExcluded_exclude, beq_eq_false_iff_ne.mpr different, Bool.false_or,
        configuration_exclude, failure?_without]

end Scope

theorem settle_eq (scope : Scope) {order : List Nat} (distinct : order.Nodup) :
    settle scope order =
      (scope.skipping (order.filter fun index => (scope.skip? index).isSome),
        order.filterMap scope.skip?) := by
  induction order generalizing scope with
  | nil => simp [settle, Scope.skipping]
  | cons index rest ih =>
      rcases List.nodup_cons.mp distinct with ⟨fresh, distinctRest⟩
      have unchanged : ∀ other ∈ rest, (scope.exclude index).skip? other = scope.skip? other := by
        intro other member
        apply scope.skip?_exclude
        rintro rfl
        exact fresh member
      have sameFailing : rest.filter (fun other => ((scope.exclude index).skip? other).isSome) =
          rest.filter fun other => (scope.skip? other).isSome :=
        List.filter_congr fun other member => by rw [unchanged other member]
      have sameWarnings : rest.filterMap (scope.exclude index).skip? = rest.filterMap scope.skip? :=
        List.filterMap_congr unchanged
      rw [settle, ih scope distinctRest, ih (scope.exclude index) distinctRest, sameFailing,
        sameWarnings, Scope.exclude_skipping, List.filter_cons, List.filterMap_cons]
      cases found : scope.document.object? index with
      | none => simp [Scope.skip?, found]
      | some object =>
          cases excluded : scope.isExcluded index with
          | true => simp [Scope.skip?, found, excluded]
          | false =>
              cases configured : configuration scope index object with
              | ok statements => simp [Scope.skip?, found, excluded, configured, failure?]
              | error reason => simp [Scope.skip?, found, excluded, configured, failure?]

theorem configuration_skipping (scope : Scope) (indices : List Nat) (index : Nat)
    (object : Object) :
    failure? (configuration (scope.skipping indices) index object) =
      failure? (configuration scope index object) := by
  induction indices generalizing scope with
  | nil => rfl
  | cons skipped rest ih =>
      rw [← Scope.exclude_skipping, ih, configuration_exclude, failure?_without]

section Settled

variable (document : Document) (options : Options)

def failing : List Nat :=
  document.generationOrder.filter fun index => ((Scope.initial document options).skip? index).isSome

theorem settled_eq :
    settled document options =
      ((Scope.initial document options).skipping (failing document options),
        document.generationOrder.filterMap (Scope.initial document options).skip?) :=
  settle_eq (Scope.initial document options) document.generationOrder_nodup

abbrev finalScope : Scope :=
  (settled document options).1

theorem finalScope_document : (finalScope document options).document = document := by
  rw [finalScope, settled_eq]
  rfl

theorem finalScope_nameOf (index : Nat) :
    (finalScope document options).nameOf index =
      (Scope.initial document options).nameOf index := by
  rw [finalScope, settled_eq]
  rfl

theorem finalScope_ownerName : (finalScope document options).ownerName = options.ownerName := by
  rw [finalScope, settled_eq]
  rfl

theorem finalScope_skipped :
    (finalScope document options).skipped.reverse = failing document options := by
  rw [finalScope, settled_eq]
  simp [Scope.skipping, Scope.initial]

/-- An object fails in the scope of the end as it did when it was skipped. -/
theorem failure?_finalScope (index : Nat) (object : Object) :
    failure? (configuration (finalScope document options) index object) =
      failure? (configuration (Scope.initial document options) index object) := by
  rw [finalScope, settled_eq]
  exact configuration_skipping _ _ _ _

variable {document options}

theorem skip?_initial {index : Nat} {object : Object}
    (found : document.object? index = some object) :
    (Scope.initial document options).skip? index =
      if object.kind.isGenerated then
        (failure? (configuration (finalScope document options) index object)).map
          (.skipped object.describe)
      else none := by
  rw [failure?_finalScope]
  cases generated : object.kind.isGenerated <;>
    simp [Scope.skip?, Scope.isExcluded, Scope.initial, found, generated]

/-- What is skipped is what should produce code but cannot be configured. -/
theorem mem_skipped_iff (options : Options) {index : Nat} {object : Object}
    (found : document.object? index = some object) :
    index ∈ (finalScope document options).skipped ↔
      object.kind.isGenerated = true ∧
        ∃ reason, configuration (finalScope document options) index object = .error reason := by
  have bounded := document.lt_size_of_object? found
  rw [← List.mem_reverse, finalScope_skipped, failing, List.mem_filter,
    document.mem_generationOrder, skip?_initial found]
  cases generated : object.kind.isGenerated with
  | false => simp
  | true =>
      simp only [bounded, true_and, if_true, Option.isSome_map]
      rw [Option.isSome_iff_exists]
      simp only [failure?_eq_some]

theorem skipped_nodup : (finalScope document options).skipped.Nodup := by
  rw [← List.nodup_reverse, finalScope_skipped]
  exact document.generationOrder_nodup.filter _

/-- An object is declared exactly if it produces code and can be configured. -/
theorem declared_iff {index : Nat} {object : Object}
    (found : document.object? index = some object) :
    (finalScope document options).isExcluded index = false ↔
      object.kind.isGenerated = true ∧
        ∃ statements, configuration (finalScope document options) index object = .ok statements := by
  have skipped := mem_skipped_iff options found
  cases generated : object.kind.isGenerated with
  | false => simp [Scope.isExcluded, finalScope_document, found, generated]
  | true =>
      cases configured : configuration (finalScope document options) index object with
      | ok statements =>
          have kept : index ∉ (finalScope document options).skipped := by
            simp [skipped, generated, configured]
          simp [Scope.isExcluded, finalScope_document, found, generated, kept]
      | error reason =>
          have left : index ∈ (finalScope document options).skipped := by
            simp [skipped, generated, configured]
          simp [Scope.isExcluded, left]

end Settled

end Xib.Swift
