import Xib.Proofs.Lines

/-!
# Accounting for every object

An object of a kind that produces code is declared, in one block with one declaration, or it is
skipped with one warning and has no line at all. Other objects leave no trace of their own. The
configuration pass itself never fails: what could fail was skipped before it.
-/

namespace Xib.Swift

set_option autoImplicit false

/-- The configuration lines of an object are one block, which starts with the only declaration of
the object. -/
def Plan.DeclaresOnce (plan : Plan) (index : Nat) (object : Object) : Prop :=
  ∃ before rest after,
    plan.configuration = before ++ declaration index object :: rest ++ after ∧
    (∀ line ∈ rest, line.owner = index) ∧
    (∀ line ∈ before ++ after, line.owner ≠ index) ∧
    ∀ line ∈ before ++ rest ++ after ++ plan.subviews ++ plan.constraints,
      line.statement.declared? ≠ some index

def Plan.Lacks (plan : Plan) (index : Nat) : Prop :=
  ∀ line ∈ plan.lines, line.owner ≠ index

def IsSkipWarning (scope : Scope) (index : Nat) (warning : Warning) : Prop :=
  ∃ object reason, scope.document.object? index = some object ∧
    configuration scope index object = .error reason ∧
    warning = .skipped object.describe reason

section

variable {document : Document} {options : Options} {index : Nat} {object : Object}

theorem declaresOnce_of_declared (found : document.object? index = some object)
    (declared : (finalScope document options).isExcluded index = false) :
    (Plan.ofDocument document options).DeclaresOnce index object := by
  rcases configuration_block found declared with ⟨rest, block, own⟩
  have bounded : index < (finalScope document options).document.size := by
    rw [finalScope_document]
    exact document.lt_size_of_object? found
  obtain ⟨before, after, split, others⟩ := passLines_split (finalScope document options)
    (configurationYield (finalScope document options)) bounded
  rw [block, ← configuration_eq_passLines] at split
  refine ⟨before, rest, after, split, fun line member => (own line member).1, others, ?_⟩
  intro line member declares
  rw [List.append_assoc] at member
  rcases List.mem_append.mp member with configured | later
  · have inConfiguration : line ∈ (Plan.ofDocument document options).configuration := by
      rw [split]
      simp only [List.mem_append, List.mem_cons] at configured ⊢
      rcases configured with (inBefore | inRest) | inAfter
      · exact .inl (.inl inBefore)
      · exact .inl (.inr (.inr inRest))
      · exact .inr inAfter
    have same := owner_of_declared inConfiguration declares
    simp only [List.mem_append] at configured
    rcases configured with (inBefore | inRest) | inAfter
    · exact others line (List.mem_append_left after inBefore) same
    · rw [(own line inRest).2.declared?_eq_none] at declares
      cases declares
    · exact others line (List.mem_append_right before inAfter) same
  · rw [declared?_eq_none_of_later later] at declares
    cases declares

theorem lacks_of_excluded (excluded : (finalScope document options).isExcluded index = true) :
    (Plan.ofDocument document options).Lacks index := by
  intro line member same
  rcases mem_lines member with ⟨_, _, declared, _⟩
  rw [same, excluded] at declared
  cases declared

theorem not_lacks_of_declaresOnce {plan : Plan} (declares : plan.DeclaresOnce index object) :
    ¬plan.Lacks index := by
  intro lacks
  rcases declares with ⟨before, rest, after, split, _⟩
  refine lacks (declaration index object) ?_ rfl
  simp [Plan.lines, split]

variable (document options)

theorem configuration_pass_succeeds :
    (pass (finalScope document options) (configurationYield (finalScope document options))
      document.generationOrder).2 = [] := by
  rw [pass_eq, List.flatMap_eq_nil_iff]
  intro index member
  have bounded := document.mem_generationOrder.mp member
  have found : document.object? index = some document.objects[index] :=
    List.getElem?_eq_getElem bounded
  cases excluded : (finalScope document options).isExcluded index with
  | true => simp [yieldAt, finalScope_document, found, excluded, Yield.nothing]
  | false =>
      rcases (declared_iff found).mp excluded with ⟨_, statements, configured⟩
      simp [yieldAt, finalScope_document, found, excluded, configurationYield, configured]

private theorem forall_filterMap {warn : Nat → Option Warning} (order : List Nat) :
    List.Forall₂ (fun index warning => warn index = some warning)
      (order.filter fun index => (warn index).isSome) (order.filterMap warn) := by
  induction order with
  | nil => exact .nil
  | cons index rest ih =>
      cases warned : warn index with
      | none => simpa [warned] using ih
      | some warning => simpa [warned] using ih

/-- There is one warning for each skipped object, in the order of skipping. -/
theorem skips_match :
    List.Forall₂ (IsSkipWarning (finalScope document options))
      (finalScope document options).skipped.reverse (settled document options).2 := by
  rw [finalScope_skipped, settled_eq, failing]
  refine (forall_filterMap document.generationOrder).imp ?_
  intro index warning warned
  cases found : document.object? index with
  | none => simp [Scope.skip?, Scope.initial, found] at warned
  | some object =>
      rw [skip?_initial found] at warned
      split at warned
      · rcases Option.map_eq_some_iff.mp warned with ⟨reason, failed, rfl⟩
        refine ⟨object, reason, ?_, failure?_eq_some.mp failed, rfl⟩
        rw [finalScope_document]
        exact found
      · cases warned

theorem warnings_eq :
    (Plan.ofDocument document options).warnings =
      (settled document options).2 ++
        (pass (finalScope document options) (configurationYield (finalScope document options))
          document.generationOrder).2 ++
        (pass (finalScope document options) (subviews (finalScope document options))
          document.generationOrder).2 ++
        (pass (finalScope document options) (constraints (finalScope document options))
          document.generationOrder).2 := by
  have order :
      (finalScope document options).document.generationOrder = document.generationOrder := by
    rw [finalScope_document]
  rw [← order]
  rfl

variable {document options}

/-- An object that produces code is declared without being skipped, or skipped without a line. -/
theorem generated_accounted (found : document.object? index = some object)
    (generated : object.kind.isGenerated = true) :
    (Plan.ofDocument document options).DeclaresOnce index object ∧
        index ∉ (finalScope document options).skipped ∨
      (Plan.ofDocument document options).Lacks index ∧
        (finalScope document options).skipped.count index = 1 := by
  have skipped := mem_skipped_iff options found
  cases configured : configuration (finalScope document options) index object with
  | ok statements =>
      left
      constructor
      · exact declaresOnce_of_declared found ((declared_iff found).mpr ⟨generated, _, configured⟩)
      · simp [skipped, configured]
  | error reason =>
      have member := skipped.mpr ⟨generated, reason, configured⟩
      right
      constructor
      · apply lacks_of_excluded
        simp [Scope.isExcluded, member]
      · exact List.count_eq_one_of_mem skipped_nodup member

theorem ungenerated_accounted (found : document.object? index = some object)
    (ungenerated : object.kind.isGenerated = false) :
    (Plan.ofDocument document options).Lacks index ∧
      index ∉ (finalScope document options).skipped := by
  constructor
  · apply lacks_of_excluded
    simp [Scope.isExcluded, finalScope_document, found, ungenerated]
  · simp [mem_skipped_iff options found, ungenerated]

/-- Every object is accounted for. Objects that produce code are declared once, without being
skipped, or else skipped once, without a line; others are neither. Each skip has one warning, with
the error of the configuration, and the configuration pass adds none. -/
theorem every_object_accounted (document : Document) (options : Options) :
    let scope := (settled document options).1
    let skips := (settled document options).2
    let plan := Plan.ofDocument document options
    let order := document.generationOrder
    Code.ofDocument document options = Code.ofPlan options.indent scope plan ∧
    (pass scope (configurationYield scope) order).2 = [] ∧
    plan.warnings =
      skips ++ (pass scope (subviews scope) order).2 ++ (pass scope (constraints scope) order).2 ∧
    List.Forall₂ (IsSkipWarning scope) scope.skipped.reverse skips ∧
    ∀ index object, document.object? index = some object →
      if object.kind.isGenerated then
        (plan.DeclaresOnce index object ∧ index ∉ scope.skipped ∨
          plan.Lacks index ∧ scope.skipped.count index = 1) ∧
        ¬(plan.DeclaresOnce index object ∧ plan.Lacks index)
      else plan.Lacks index ∧ index ∉ scope.skipped := by
  intro scope skips plan order
  have succeeds := configuration_pass_succeeds document options
  refine ⟨rfl, succeeds, ?_, skips_match document options, ?_⟩
  · have warnings := warnings_eq document options
    rw [succeeds, List.append_nil] at warnings
    exact warnings
  · intro index object found
    split
    · rename_i generated
      refine ⟨generated_accounted found generated, ?_⟩
      rintro ⟨declares, lacks⟩
      exact not_lacks_of_declaresOnce declares lacks
    · rename_i ungenerated
      exact ungenerated_accounted found (Bool.eq_false_iff.mpr ungenerated)

end

def skippingDocument : Document where
  objects :=
    [{ Object.bare "view" .view with
        children := [1]
        auxiliaries := [.connection ⟨.outlet, some "caption", some "l", none, none⟩] },
      { Object.bare "label" .label with
        index := 1
        identifier := some "l"
        parent := some 0
        attributes := Table.empty.insert "hidden" (.text "maybe") },
      { Object.bare "placeholder" .placeholder with index := 2 }]
  roots := [0, 2]
  identifiers := Table.empty.insert "l" 1
  guides := .empty
  warnings := []

theorem skippingDocument_accounted :
    let plan := Plan.ofDocument skippingDocument .standard
    (∃ view, skippingDocument.object? 0 = some view ∧ plan.DeclaresOnce 0 view) ∧
      (∃ label, skippingDocument.object? 1 = some label ∧ plan.Lacks 1) ∧
      (∃ placeholder, skippingDocument.object? 2 = some placeholder ∧ plan.Lacks 2) := by
  have accounted := (every_object_accounted skippingDocument .standard).2.2.2.2
  have skipped : (settled skippingDocument .standard).1.skipped = [1] := by decide +kernel
  refine ⟨⟨_, rfl, ?_⟩, ⟨_, rfl, ?_⟩, ⟨_, rfl, ?_⟩⟩
  · rcases (accounted 0 _ rfl).1 with declared | lost
    · exact declared.1
    · rw [skipped] at lost
      exact absurd lost.2 (by decide)
  · rcases (accounted 1 _ rfl).1 with declared | lost
    · rw [skipped] at declared
      exact absurd List.mem_cons_self declared.2
    · exact lost.1
  · exact (accounted 2 _ rfl).1

end Xib.Swift
