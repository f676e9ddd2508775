import Mathlib.Data.List.Forall2
import Xib.Proofs.References

/-!
# Documents that give the same code

A run reads an object through its kind, its names, and what it yields in the three passes; it reads
a document through its objects and the two tables of identifiers. Documents that match in these
respects give the same code, whatever else they hold. What is skipped is settled by configuration
alone, so for that the other two passes need not match.
-/

namespace Xib

set_option autoImplicit false

/-- Objects that match one by one, under the same identifiers and guides. -/
structure Document.Matches (related : Object → Object → Prop) (first second : Document) : Prop where
  objects : List.Forall₂ related first.objects second.objects
  identifiers : second.identifiers = first.identifiers
  guides : second.guides = first.guides

namespace Document.Matches

variable {related : Object → Object → Prop} {first second : Document}

theorem mono {wider : Object → Object → Prop} (same : Document.Matches related first second)
    (weaker : ∀ object other, related object other → wider object other) :
    Document.Matches wider first second :=
  ⟨same.objects.imp weaker, same.identifiers, same.guides⟩

theorem object?_cases (same : Document.Matches related first second) (index : Nat) :
    (first.object? index = none ∧ second.object? index = none) ∨
      ∃ object other, first.object? index = some object ∧ second.object? index = some other ∧
        related object other := by
  unfold Document.object?
  have objects := same.objects
  generalize first.objects = former at objects
  generalize second.objects = latter at objects
  induction objects generalizing index with
  | nil => exact .inl ⟨rfl, rfl⟩
  | cons alike _ ih =>
      cases index with
      | zero => exact .inr ⟨_, _, rfl, rfl, alike⟩
      | succ index => exact ih index

theorem generationOrder_eq (same : Document.Matches related first second) :
    second.generationOrder = first.generationOrder := by
  rw [generationOrder, generationOrder, size, size, same.objects.length_eq]

end Document.Matches

namespace Swift

/-- Scopes that exclude the same objects and in which identifiers lead to the same targets. -/
structure Scope.Agrees (scope other : Scope) : Prop where
  isExcluded : ∀ index, other.isExcluded index = scope.isExcluded index
  reference : ∀ identifier, other.reference identifier = scope.reference identifier

section Scopes

variable {scope other : Scope}

theorem gather_congr {α β : Type} {step next : α → Except GenerationError (List β)}
    {items : List α} (each : ∀ item ∈ items, next item = step item) :
    gather next items = gather step items := by
  induction items with
  | nil => rfl
  | cons item rest ih =>
      rw [gather, gather, each item List.mem_cons_self,
        ih fun later member => each later (List.mem_cons_of_mem _ member)]

theorem valueStatements_congr (agrees : scope.Agrees other) (index : Nat) (kind : Kind)
    (value : Auxiliary) :
    valueStatements other index kind value = valueStatements scope index kind value := by
  cases value with
  | embedded key child => rw [valueStatements, valueStatements, agrees.isExcluded child]
  | _ => rfl

theorem outletStatements_congr (agrees : scope.Agrees other) (index : Nat)
    (connection : Connection) :
    outletStatements other index connection = outletStatements scope index connection := by
  simp only [outletStatements, agrees.reference]

/-- What configures an object depends on a scope only through what it excludes and refers to. -/
theorem configuration_congr (agrees : scope.Agrees other) (index : Nat) (object : Object) :
    configuration other index object = configuration scope index object := by
  have values := funext (valueStatements_congr agrees index object.kind)
  have outlets := funext (outletStatements_congr agrees index)
  rw [configuration, configuration, values, outlets]

theorem subviews_congr (agrees : scope.Agrees other) (index : Nat) (object : Object) :
    subviews other index object = subviews scope index object := by
  have collections : collectionYield other index object = collectionYield scope index object := by
    funext connection
    simp only [collectionYield, agrees.reference]
  simp only [subviews, agrees.isExcluded, collections]

theorem activation_congr (agrees : scope.Agrees other) (index : Nat) (constraint : Constraint) :
    activation other index constraint = activation scope index constraint := by
  simp only [activation, firstTarget, bound?, agrees.reference]

theorem constraints_congr (agrees : scope.Agrees other) (index : Nat) (object : Object) :
    constraints other index object = constraints scope index object := by
  have each : constraintYield other index object = constraintYield scope index object := by
    funext constraint
    rw [constraintYield, constraintYield, activation_congr agrees]
  rw [constraints, constraints, each]

end Scopes

/-- Objects that get the same name and are skipped, if at all, for the same reason. -/
structure SettlesLike (object other : Object) : Prop where
  tag : other.tag = object.tag
  kind : other.kind = object.kind
  identifier : other.identifier = object.identifier
  userLabel : other.userLabel = object.userLabel
  configuration : ∀ scope index, configuration scope index other = configuration scope index object

/-- Objects that no run can tell apart. -/
structure WritesLike (object other : Object) : Prop extends SettlesLike object other where
  subviews : ∀ scope index, subviews scope index other = subviews scope index object
  constraints : ∀ scope index, constraints scope index other = constraints scope index object

theorem SettlesLike.describe_eq {object other : Object} (alike : SettlesLike object other) :
    other.describe = object.describe := by
  rw [Object.describe, Object.describe, alike.tag, alike.userLabel, alike.identifier]

theorem SettlesLike.baseName_eq {object other : Object} (alike : SettlesLike object other) :
    baseName other = baseName object := by
  rw [baseName, baseName, alike.tag, alike.userLabel]

section Settling

variable {first second : Document}

theorem assignNames_congr (ownerName : String) {former latter : List Object}
    (alike : List.Forall₂ SettlesLike former latter) (taken : List String) :
    assignNames ownerName taken latter = assignNames ownerName taken former := by
  induction alike generalizing taken with
  | nil => rfl
  | @cons object other _ _ same _ ih =>
      have fixed : fixedName? ownerName other = fixedName? ownerName object := by
        rw [fixedName?, fixedName?, same.identifier]
      rw [assignNames, assignNames, fixed, same.baseName_eq]
      cases fixedName? ownerName object with
      | some name => simp only [ih]
      | none => simp only [ih]

theorem names_congr (same : Document.Matches SettlesLike first second) (ownerName : String) :
    names second ownerName = names first ownerName :=
  assignNames_congr ownerName same.objects _

/-- As long as the same objects are skipped, it makes no difference which document is read. -/
theorem skipping_agrees (same : Document.Matches SettlesLike first second) (options : Options)
    (skipped : List Nat) :
    ((Scope.initial first options).skipping skipped).Agrees
      ((Scope.initial second options).skipping skipped) := by
  have excluded : ∀ index, ((Scope.initial second options).skipping skipped).isExcluded index =
      ((Scope.initial first options).skipping skipped).isExcluded index := by
    intro index
    simp only [Scope.isExcluded, Scope.skipping, Scope.initial]
    rcases same.object?_cases index with ⟨absent, alsoAbsent⟩ | ⟨object, other, found, also, alike⟩
    · rw [absent, alsoAbsent]
    · simp only [found, also, alike.kind]
  refine ⟨excluded, fun identifier => ?_⟩
  have identifiers : ((Scope.initial second options).skipping skipped).document.find? identifier =
      ((Scope.initial first options).skipping skipped).document.find? identifier := by
    simp only [Scope.skipping, Scope.initial, Document.find?, same.identifiers]
  have guides : ((Scope.initial second options).skipping skipped).document.guide? identifier =
      ((Scope.initial first options).skipping skipped).document.guide? identifier := by
    simp only [Scope.skipping, Scope.initial, Document.guide?, same.guides]
  simp only [Scope.reference_eq, identifiers, guides, excluded]

theorem skip?_congr (same : Document.Matches SettlesLike first second) (options : Options)
    (index : Nat) :
    (Scope.initial second options).skip? index = (Scope.initial first options).skip? index := by
  have agrees := skipping_agrees same options []
  have excluded : (Scope.initial second options).isExcluded index =
      (Scope.initial first options).isExcluded index := agrees.isExcluded index
  unfold Scope.skip?
  rcases same.object?_cases index with ⟨absent, alsoAbsent⟩ | ⟨object, other, found, also, alike⟩
  · simp only [Scope.initial, absent, alsoAbsent]
  · have configured : configuration (Scope.initial second options) index other =
        configuration (Scope.initial first options) index object := by
      rw [alike.configuration]
      exact configuration_congr agrees index object
    have known : (Scope.initial first options).document.object? index = some object := found
    have alsoKnown : (Scope.initial second options).document.object? index = some other := also
    simp only [known, alsoKnown, excluded, configured, alike.describe_eq]

theorem settled_congr (same : Document.Matches SettlesLike first second) (options : Options) :
    settled second options =
      ((Scope.initial second options).skipping (failing first options),
        (settled first options).2) := by
  have skips : (Scope.initial second options).skip? = (Scope.initial first options).skip? :=
    funext (skip?_congr same options)
  rw [settled_eq, settled_eq, failing, failing, skips, same.generationOrder_eq]

theorem skipped_congr (same : Document.Matches SettlesLike first second) (options : Options) :
    (finalScope second options).skipped = (finalScope first options).skipped := by
  rw [finalScope, settled_congr same, finalScope, settled_eq]
  rfl

theorem finalScope_agrees (same : Document.Matches SettlesLike first second) (options : Options) :
    (finalScope first options).Agrees (finalScope second options) := by
  rw [finalScope, finalScope, settled_congr same, settled_eq]
  exact skipping_agrees same options _

theorem declared_congr (same : Document.Matches SettlesLike first second) (options : Options) :
    (finalScope second options).declared = (finalScope first options).declared := by
  have agrees := finalScope_agrees same options
  simp only [Scope.declared, finalScope_document, agrees.isExcluded, same.generationOrder_eq]

theorem write_finalScope_congr (same : Document.Matches SettlesLike first second)
    (options : Options) (statement : Statement) :
    statement.write (finalScope second options) = statement.write (finalScope first options) := by
  apply write_congr
  · rw [finalScope_ownerName, finalScope_ownerName]
  · intro index _
    rw [finalScope_nameOf, finalScope_nameOf]
    simp only [Scope.nameOf, Scope.initial, names_congr same]

end Settling

section Code

variable {first second : Document}

theorem pass_congr {related : Object → Object → Prop} {scope other : Scope}
    (agrees : scope.Agrees other)
    (same : Document.Matches related scope.document other.document)
    (yield next : Nat → Object → Yield)
    (each : ∀ index object twin, related object twin → next index twin = yield index object)
    (order : List Nat) : pass other next order = pass scope yield order := by
  have yields : yieldAt other next = yieldAt scope yield := by
    funext index
    unfold yieldAt
    rw [agrees.isExcluded]
    rcases same.object?_cases index with ⟨absent, alsoAbsent⟩ | ⟨object, twin, found, also, alike⟩
    · rw [absent, alsoAbsent]
    · simp only [found, also, each index object twin alike]
  have blocks : blockAt other next = blockAt scope yield := by
    funext index
    rw [blockAt, blockAt, yields]
  rw [pass_eq, pass_eq, yields, blocks]

theorem plan_congr (same : Document.Matches WritesLike first second) (options : Options) :
    Plan.ofDocument second options = Plan.ofDocument first options := by
  have settles := same.mono fun _ _ alike => alike.toSettlesLike
  have agrees := finalScope_agrees settles options
  have matched : Document.Matches WritesLike (finalScope first options).document
      (finalScope second options).document := by
    rw [finalScope_document, finalScope_document]
    exact same
  have order : (finalScope second options).document.generationOrder =
      (finalScope first options).document.generationOrder := matched.generationOrder_eq
  have configured := pass_congr agrees matched (configurationYield (finalScope first options))
    (configurationYield (finalScope second options)) (by
      intro index object twin alike
      rw [configurationYield, configurationYield, alike.configuration,
        configuration_congr agrees, alike.describe_eq])
  have wired := pass_congr agrees matched (subviews (finalScope first options))
    (subviews (finalScope second options)) (by
      intro index object twin alike
      rw [alike.subviews, subviews_congr agrees])
  have constrained := pass_congr agrees matched (constraints (finalScope first options))
    (constraints (finalScope second options)) (by
      intro index object twin alike
      rw [alike.constraints, constraints_congr agrees])
  have warnings : (settled second options).2 = (settled first options).2 := by
    rw [settled_congr settles]
  simp only [Plan.ofDocument, Plan.ofScope, order, configured, wired, constrained, warnings]

theorem code_congr (same : Document.Matches WritesLike first second) (options : Options) :
    Code.ofDocument second options = Code.ofDocument first options := by
  have settles := same.mono fun _ _ alike => alike.toSettlesLike
  rw [ofDocument_eq_ofPlan, ofDocument_eq_ofPlan, plan_congr same]
  simp only [Code.ofPlan, write_finalScope_congr settles]

/-- Documents whose objects no run can tell apart give the same code, and the same objects are
skipped for the same reasons. -/
theorem run_congr (same : Document.Matches WritesLike first second) (options : Options) :
    Code.ofDocument second options = Code.ofDocument first options ∧
      (settled second options).1.skipped = (settled first options).1.skipped ∧
      (settled second options).2 = (settled first options).2 := by
  have settles := same.mono fun _ _ alike => alike.toSettlesLike
  refine ⟨code_congr same options, skipped_congr settles options, ?_⟩
  rw [settled_congr settles options]

end Code

end Swift

end Xib
