import Mathlib.Data.List.Forall2
import Mathlib.Data.List.Nodup
import Xib.Proofs.Accounting
import Xib.Proofs.Build

/-!
# Wiring follows the hierarchy

The second group of lines adds to every declared object its declared subviews, in their order, and
then settles its outlet collections one by one. Since a built document is a forest, no object is
added twice, and neither roots nor embedded objects are added at all.
-/

namespace Xib

set_option autoImplicit false

namespace Document.IsPreorder

variable {document : Document} {holder index : Nat} {owner : Object}

theorem parent_eq (preorder : document.IsPreorder) {object : Object}
    (held : document.object? holder = some owner) (found : document.object? index = some object)
    (contained : index ∈ owner.owned) : object.parent = some holder := by
  have once := preorder.owned_once index object found holder owner held
  have positive := List.count_pos_iff.mpr contained
  by_contra other
  rw [if_neg other] at once
  omega

theorem not_mem_embedded (preorder : document.IsPreorder) {object : Object}
    (held : document.object? holder = some owner) (found : document.object? index = some object)
    (child : index ∈ owner.children) : index ∉ owner.embedded := by
  intro embedded
  have parent := preorder.parent_eq held found (List.mem_append_left _ child)
  have once := preorder.owned_once index object found holder owner held
  have asChild := List.count_pos_iff.mpr child
  have asValue := List.count_pos_iff.mpr embedded
  rw [if_pos parent, Object.owned, List.count_append] at once
  omega

end Document.IsPreorder

namespace Swift

inductive Collected (scope : Scope) (index : Nat) (object : Object) (connection : Connection) :
    Yield → Prop where
  | added {destination : String} {target : Target}
      (named : connection.name = some "gestureRecognizers")
      (leads : connection.destination = some destination)
      (found : scope.reference destination = .ok (some target)) :
      Collected scope index object connection ⟨[.add index "addGestureRecognizer" target], []⟩
  | silent {destination : String} (named : connection.name = some "gestureRecognizers")
      (leads : connection.destination = some destination)
      (undeclared : scope.reference destination = .ok none) :
      Collected scope index object connection ⟨[], []⟩
  | missing (named : connection.name = some "gestureRecognizers")
      (nowhere : connection.destination = none) :
      Collected scope index object connection
        ⟨[], [.skipped (object.describe ++ " gestureRecognizers")
          (.missingAttribute "outletCollection" "destination")]⟩
  | dangling {destination : String} (named : connection.name = some "gestureRecognizers")
      (leads : connection.destination = some destination)
      (unknown : scope.reference destination = .error (.danglingReference destination)) :
      Collected scope index object connection
        ⟨[], [.skipped (object.describe ++ " gestureRecognizers")
          (.danglingReference destination)]⟩
  | unsupported (other : connection.name ≠ some "gestureRecognizers") :
      Collected scope index object connection
        ⟨[], [.unsupported object.describe
          ("outletCollection " ++ connection.name.getD "<unnamed>")]⟩

theorem Scope.reference_error {scope : Scope} {identifier : String} {reason : GenerationError}
    (failed : scope.reference identifier = .error reason) :
    reason = .danglingReference identifier := by
  rw [reference_eq] at failed
  split at failed
  · cases failed
  · split at failed
    · cases failed
    · split at failed
      · cases failed
      · split at failed
        · cases failed
        · cases failed
          rfl

section Object

variable (scope : Scope) (index : Nat) (object : Object)

theorem collectionYield_collected (connection : Connection) :
    Collected scope index object connection (collectionYield scope index object connection) := by
  unfold collectionYield
  by_cases named : connection.name = some "gestureRecognizers"
  · rw [if_pos named]
    cases leads : connection.destination with
    | none => exact .missing named leads
    | some destination =>
        have followed : (required "outletCollection" "destination" (some destination) >>=
            fun destination => scope.reference destination) = scope.reference destination := rfl
        simp only [followed]
        cases reached : scope.reference destination with
        | error reason =>
            have unknown := Scope.reference_error reached
            subst unknown
            exact .dangling named leads reached
        | ok target =>
            cases target with
            | none => exact .silent named leads reached
            | some target => exact .added named leads reached
  · rw [if_neg named]
    exact .unsupported named

variable {scope index object} in
theorem Collected.unique {connection : Connection} {first second : Yield}
    (collected : Collected scope index object connection first)
    (again : Collected scope index object connection second) : first = second := by
  cases collected <;> cases again <;> simp_all

/-- The statements that add the declared subviews of an object, in the order of the subviews. -/
def adoptions : List Statement :=
  (object.children.filter fun child => !scope.isExcluded child).map fun child =>
    .add index (if object.kind = .stackView then "addArrangedSubview" else "addSubview")
      (.object child)

/-- An object gets its declared subviews, and after them each of its outlet collections has its
outcome. -/
def IsWired (yield : Yield) : Prop :=
  ∃ outcomes,
    List.Forall₂ (Collected scope index object)
      (object.connections.filter fun connection => connection.kind = .outletCollection) outcomes ∧
    yield.statements = adoptions scope index object ++ outcomes.flatMap Yield.statements ∧
    yield.warnings = outcomes.flatMap Yield.warnings

theorem subviews_isWired : IsWired scope index object (subviews scope index object) := by
  refine ⟨(object.connections.filter fun connection => connection.kind = .outletCollection).map
    (collectionYield scope index object), ?_, ?_, ?_⟩
  · rw [List.forall₂_map_right_iff, List.forall₂_same]
    intro connection _
    exact collectionYield_collected scope index object connection
  · rw [List.flatMap_map, ← Yield.concat_statements]
    rfl
  · rw [List.flatMap_map, ← Yield.concat_warnings]
    rfl

end Object

def Statement.adopted? : Statement → Option Nat
  | .add _ method (.object child) =>
      if method = "addSubview" ∨ method = "addArrangedSubview" then some child else none
  | _ => none

section Adopted

variable {scope : Scope} {index : Nat} {object : Object}

theorem Collected.adopts_nothing {connection : Connection} {outcome : Yield}
    (collected : Collected scope index object connection outcome) :
    outcome.statements.filterMap Statement.adopted? = [] := by
  cases collected with
  | @added _ target _ _ _ => cases target <;> rfl
  | silent => rfl
  | missing => rfl
  | dangling => rfl
  | unsupported => rfl

theorem adoptions_adopted :
    (adoptions scope index object).filterMap Statement.adopted? =
      object.children.filter fun child => !scope.isExcluded child := by
  rw [adoptions, List.filterMap_map]
  convert List.filterMap_some
  split <;> rfl

theorem outcomes_adopt_nothing {connections : List Connection} {outcomes : List Yield}
    (collected : List.Forall₂ (Collected scope index object) connections outcomes) :
    (outcomes.flatMap Yield.statements).filterMap Statement.adopted? = [] := by
  induction collected with
  | nil => rfl
  | cons first _ ih =>
      rw [List.flatMap_cons, List.filterMap_append, first.adopts_nothing, ih, List.nil_append]

theorem IsWired.adopted_eq {yield : Yield} (wired : IsWired scope index object yield) :
    yield.statements.filterMap Statement.adopted? =
      object.children.filter fun child => !scope.isExcluded child := by
  obtain ⟨outcomes, collected, statements, _⟩ := wired
  rw [statements, List.filterMap_append, adoptions_adopted, outcomes_adopt_nothing collected,
    List.append_nil]

theorem Configures.adopted?_eq_none {statement : Statement}
    (configures : Configures scope index object statement) : statement.adopted? = none := by
  cases configures with
  | plain plain => cases plain <;> rfl
  | embedded _ _ => rfl
  | outlet _ _ _ _ _ => rfl

theorem Activates.adopted?_eq_none {statement : Statement}
    (activates : Activates scope index object statement) : statement.adopted? = none := by
  cases activates <;> rfl

end Adopted

def Scope.adoptees (scope : Scope) (index : Nat) : List Nat :=
  match scope.document.object? index with
  | none => []
  | some object => object.children.filter fun child => !scope.isExcluded child

theorem Scope.mem_adoptees {scope : Scope} {index child : Nat} :
    child ∈ scope.adoptees index ↔ ∃ object, scope.document.object? index = some object ∧
      child ∈ object.children ∧ scope.isExcluded child = false := by
  unfold adoptees
  split <;> simp_all

def Plan.adopted (plan : Plan) : List Nat :=
  plan.lines.filterMap fun line => line.statement.adopted?

section Plan

variable (document : Document) (options : Options)

theorem blockAt_adopted {index : Nat}
    (declared : (finalScope document options).isExcluded index = false) :
    ((blockAt (finalScope document options) (subviews (finalScope document options))
      index).filterMap fun line => line.statement.adopted?) =
      (finalScope document options).adoptees index := by
  obtain ⟨object, found⟩ := exists_of_declared declared
  have wired := subviews_isWired (finalScope document options) index object
  rw [blockAt, yieldAt_declared found declared, List.filterMap_map, Scope.adoptees, found]
  exact wired.adopted_eq

theorem subviews_adopted :
    ((Plan.ofDocument document options).subviews.filterMap fun line => line.statement.adopted?) =
      (finalScope document options).declared.flatMap (finalScope document options).adoptees := by
  rw [subviews_eq_passLines, passLines_eq_declared, List.filterMap_flatMap]
  apply List.flatMap_congr
  intro index member
  exact blockAt_adopted document options (Scope.mem_declared.mp member)

/-- Only the second group of lines adds subviews. -/
theorem adopted_eq :
    (Plan.ofDocument document options).adopted =
      (finalScope document options).declared.flatMap (finalScope document options).adoptees := by
  have configuration : ((Plan.ofDocument document options).configuration.filterMap
      fun line => line.statement.adopted?) = [] := by
    apply List.filterMap_eq_nil_iff.mpr
    intro line member
    obtain ⟨object, _, _, first | configures⟩ := mem_configuration member
    · rw [first]
      rfl
    · exact configures.adopted?_eq_none
  have constraints : ((Plan.ofDocument document options).constraints.filterMap
      fun line => line.statement.adopted?) = [] := by
    apply List.filterMap_eq_nil_iff.mpr
    intro line member
    rw [constraints_eq_passLines] at member
    obtain ⟨object, _, _, written⟩ := mem_finalScope_passLines member
    exact (constraints_activates written).adopted?_eq_none
  rw [Plan.adopted, Plan.lines, List.filterMap_append, List.filterMap_append, configuration,
    constraints, List.nil_append, List.append_nil]
  exact subviews_adopted document options

variable {document options}

theorem mem_adopted {child : Nat} :
    child ∈ (Plan.ofDocument document options).adopted ↔
      ∃ parent object, document.object? parent = some object ∧ child ∈ object.children ∧
        (finalScope document options).isExcluded parent = false ∧
        (finalScope document options).isExcluded child = false := by
  rw [adopted_eq, List.mem_flatMap]
  simp only [Scope.mem_declared, Scope.mem_adoptees, finalScope_document]
  constructor
  · rintro ⟨parent, declared, object, found, inside, childDeclared⟩
    exact ⟨parent, object, found, inside, declared, childDeclared⟩
  · rintro ⟨parent, object, found, inside, declared, childDeclared⟩
    exact ⟨parent, declared, object, found, inside, childDeclared⟩

/-- Two objects have no subview in common, since each subview has one parent. -/
theorem adoptees_disjoint (preorder : document.IsPreorder) {first second : Nat}
    (different : first ≠ second) :
    List.Disjoint ((finalScope document options).adoptees first)
      ((finalScope document options).adoptees second) := by
  intro child inFirst inSecond
  obtain ⟨parent, held, child, declared⟩ := Scope.mem_adoptees.mp inFirst
  obtain ⟨other, otherHeld, otherChild, _⟩ := Scope.mem_adoptees.mp inSecond
  obtain ⟨object, found⟩ := exists_of_declared declared
  rw [finalScope_document] at held otherHeld found
  have parentEq := preorder.parent_eq held found (List.mem_append_left _ child)
  have otherEq := preorder.parent_eq otherHeld found (List.mem_append_left _ otherChild)
  rw [parentEq] at otherEq
  exact different (Option.some.inj otherEq)

theorem adopted_nodup (preorder : document.IsPreorder) :
    (Plan.ofDocument document options).adopted.Nodup := by
  rw [adopted_eq, List.nodup_flatMap]
  constructor
  · intro index member
    obtain ⟨object, found⟩ := exists_of_declared (Scope.mem_declared.mp member)
    rw [Scope.adoptees, found]
    rw [finalScope_document] at found
    have increasing := preorder.children_increasing index object found
    exact (increasing.imp Nat.ne_of_lt).filter _
  · apply (Scope.declared_decreasing _).imp
    intro first second greater
    exact adoptees_disjoint preorder (Nat.ne_of_gt greater)

variable (document options)

theorem code_subviews_eq :
    (Code.ofDocument document options).subviews =
      (finalScope document options).declared.flatMap fun index =>
        (yieldAt (finalScope document options) (subviews (finalScope document options))
          index).statements.map fun statement =>
            Code.indented options.indent (statement.write (finalScope document options)) := by
  have lines : (Code.ofDocument document options).subviews =
      (Plan.ofDocument document options).subviews.map fun line =>
        Code.indented options.indent (line.statement.write (finalScope document options)) := rfl
  rw [lines, subviews_eq_passLines, passLines_eq_declared, List.map_flatMap]
  apply List.flatMap_congr
  intro index _
  rw [blockAt, List.map_map]
  rfl

theorem code_warnings_eq :
    (Code.ofDocument document options).warnings =
      (settled document options).2 ++
        ((finalScope document options).declared.flatMap fun index =>
          (yieldAt (finalScope document options) (subviews (finalScope document options))
            index).warnings) ++
        (pass (finalScope document options) (constraints (finalScope document options))
          document.generationOrder).2 := by
  have warnings : (Code.ofDocument document options).warnings =
      (Plan.ofDocument document options).warnings := rfl
  have wiring := passWarnings_eq_declared (finalScope document options)
    (subviews (finalScope document options))
  rw [finalScope_document] at wiring
  rw [warnings, warnings_eq, configuration_pass_succeeds, List.append_nil, wiring]

end Plan

/-- In a document built from any text, the second group of lines adds to every declared object its
declared subviews and settles its outlet collections, and does nothing else. No object is made a
subview twice; roots and embedded objects never are. -/
theorem subviews_follow_hierarchy (registry : Registry) (source : String) (document : Document)
    (built : Document.ofText registry source = .ok document) (options : Options) :
    let scope := (settled document options).1
    let code := Code.ofDocument document options
    let plan := Plan.ofDocument document options
    (∃ yields : Nat → Yield,
      (∀ index ∈ scope.declared, ∃ object, document.object? index = some object ∧
        IsWired scope index object (yields index)) ∧
      code.subviews = scope.declared.flatMap (fun index => (yields index).statements.map
        fun statement => Code.indented options.indent (statement.write scope)) ∧
      code.warnings = (settled document options).2 ++
        scope.declared.flatMap (fun index => (yields index).warnings) ++
        (pass scope (constraints scope) document.generationOrder).2) ∧
    (∀ index object connection, ∃! outcome, Collected scope index object connection outcome) ∧
    code.lines = plan.lines.map (fun line =>
      Code.indented options.indent (line.statement.write scope)) ∧
    plan.adopted.Nodup ∧
    (∀ child, child ∈ plan.adopted ↔ ∃ parent object, document.object? parent = some object ∧
      child ∈ object.children ∧ scope.isExcluded parent = false ∧
      scope.isExcluded child = false) ∧
    (∀ root ∈ document.roots, root ∉ plan.adopted) ∧
    ∀ holder object key child, document.object? holder = some object →
      .embedded key child ∈ object.auxiliaries → child ∉ plan.adopted := by
  intro scope code plan
  obtain ⟨root, _, made⟩ := Document.ofText_ok built
  obtain ⟨forest, tables⟩ := Document.ofElement_forest made
  have preorder := Document.isPreorder_of_forest forest tables
  refine ⟨⟨yieldAt scope (subviews scope), ?_, code_subviews_eq document options,
    code_warnings_eq document options⟩, ?_, ofDocument_lines document options,
    adopted_nodup preorder, fun child => mem_adopted, ?_, ?_⟩
  · intro index member
    have declared := Scope.mem_declared.mp member
    obtain ⟨object, found⟩ := exists_of_declared declared
    rw [yieldAt_declared found declared]
    rw [finalScope_document] at found
    exact ⟨object, found, subviews_isWired scope index object⟩
  · intro index object connection
    exact ⟨_, collectionYield_collected scope index object connection, fun other collected =>
      collected.unique (collectionYield_collected scope index object connection)⟩
  -- A subview has its parent as parent, and a root has none.
  · intro root top adopted
    obtain ⟨parent, owner, held, child, _, declared⟩ := mem_adopted.mp adopted
    obtain ⟨object, found⟩ := exists_of_declared declared
    rw [finalScope_document] at found
    have orphan := (preorder.mem_roots root object found).mp top
    rw [preorder.parent_eq held found (List.mem_append_left _ child)] at orphan
    cases orphan
  -- Who embeds a subview is its parent, but then it would be owned twice.
  · intro holder owner key child held embedded adopted
    obtain ⟨parent, other, otherHeld, inside, _, declared⟩ := mem_adopted.mp adopted
    obtain ⟨object, found⟩ := exists_of_declared declared
    rw [finalScope_document] at found
    have value : child ∈ owner.embedded := List.mem_filterMap.mpr ⟨_, embedded, rfl⟩
    have holderEq := preorder.parent_eq held found (List.mem_append_right _ value)
    have parentEq := preorder.parent_eq otherHeld found (List.mem_append_left _ inside)
    rw [holderEq] at parentEq
    cases parentEq
    rw [held] at otherHeld
    cases otherHeld
    exact preorder.not_mem_embedded held found inside value

/-- A stack of a label, a label that cannot be configured and a view, with a collection of gesture
recognizers that leads to the owner. -/
def stackSource : String :=
  "<stackView><subviews><label/><label hidden='x'/><view/></subviews><connections>" ++
    "<outletCollection property='gestureRecognizers' destination='-1'/></connections></stackView>"

theorem stack_follows_hierarchy :
    ∃ document, Document.ofText .cocoaTouch stackSource = .ok document ∧
      (Code.ofDocument document .standard).subviews =
        ["stackView.addArrangedSubview(label)", "stackView.addArrangedSubview(view)",
          "stackView.addGestureRecognizer(fileOwner)"] ∧
      (Plan.ofDocument document .standard).adopted = [1, 3] ∧
      (Plan.ofDocument document .standard).adopted.Nodup ∧
      0 ∉ (Plan.ofDocument document .standard).adopted := by
  have facts : (Document.ofText .cocoaTouch stackSource).toOption.map (fun document =>
      ((Code.ofDocument document .standard).subviews, (Plan.ofDocument document .standard).adopted,
        document.roots)) =
      some (["stackView.addArrangedSubview(label)", "stackView.addArrangedSubview(view)",
        "stackView.addGestureRecognizer(fileOwner)"], [1, 3], [0]) := by
    decide +kernel
  cases built : Document.ofText .cocoaTouch stackSource with
  | error reason =>
      rw [built] at facts
      cases facts
  | ok document =>
      rw [built] at facts
      obtain ⟨subviews, adopted, roots⟩ :
          (Code.ofDocument document .standard).subviews =
            ["stackView.addArrangedSubview(label)", "stackView.addArrangedSubview(view)",
              "stackView.addGestureRecognizer(fileOwner)"] ∧
          (Plan.ofDocument document .standard).adopted = [1, 3] ∧ document.roots = [0] := by
        simpa [Except.toOption] using facts
      obtain ⟨_, _, _, distinct, _, rootless, _⟩ :=
        subviews_follow_hierarchy .cocoaTouch stackSource document built .standard
      exact ⟨document, rfl, subviews, adopted, distinct, rootless 0 (by simp [roots])⟩

end Swift

end Xib
