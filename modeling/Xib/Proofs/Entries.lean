import Mathlib.Data.List.Forall2
import Xib.Proofs.Outline

/-!
# The entries of an element

The entries of an element are its children, with the children of four kinds of containers in place
of the containers. `Contributes` says what every entry adds to the object of the element: one piece
of it, with or without warnings, or no piece. Without a piece there is one warning, for a button
state or a runtime attribute that is not understood, or there is nothing to say.
-/

namespace Xib

set_option autoImplicit false

open Xml (Element)

inductive Container where
  | subviews
  | constraints
  | connections
  | runtimeAttributes
  deriving Repr, DecidableEq

def Container.ofName? : String → Option Container
  | "subviews" => some .subviews
  | "constraints" => some .constraints
  | "connections" => some .connections
  | "userDefinedRuntimeAttributes" => some .runtimeAttributes
  | _ => none

structure Entry where
  container : Option Container
  element : Element

namespace Entry

def ofChild (child : Element) : List Entry :=
  match Container.ofName? child.name with
  | some container => child.children.map (Entry.mk (some container))
  | none => [⟨none, child⟩]

def ofElement (element : Element) : List Entry :=
  element.children.flatMap ofChild

end Entry

def Unclaimed (element : Element) : Prop :=
  element.name ∉ "subviews" :: "viewLayoutGuide" :: reservedNames

/-- An unclaimed element that only describes the canvas. -/
def IsDesignTime (element : Element) : Prop :=
  Unclaimed element ∧ ∃ key ∈ designTimeKeys, element.attribute? "key" = some key

namespace Entry

/-- Entries that leave neither a piece nor a warning. -/
def IsSilent (entry : Entry) : Prop :=
  entry.container = none ∧ (entry.element.name = "nil" ∨ IsDesignTime entry.element)

/-- Entries that leave nothing but a warning: states with an unknown key, and what is no runtime
attribute, or one of an unknown type, among the runtime attributes. -/
def IsDropped (entry : Entry) : Prop :=
  entry.container = none ∧ entry.element.name = "state" ∧
      (entry.element.attribute? "key").bind ControlState.ofName? = none ∨
    entry.container = some .runtimeAttributes ∧
      (entry.element.name ≠ "userDefinedRuntimeAttribute" ∨
        RuntimeValue.ofElement? entry.element = none)

end Entry

inductive Piece where
  | child (index : Nat)
  | constraint (constraint : Constraint)
  | auxiliary (auxiliary : Auxiliary)

structure Contribution where
  piece : Option Piece
  warnings : List Warning

namespace Contribution

def child? (contribution : Contribution) : Option Nat :=
  match contribution.piece with
  | some (.child index) => some index
  | _ => none

def constraint? (contribution : Contribution) : Option Constraint :=
  match contribution.piece with
  | some (.constraint constraint) => some constraint
  | _ => none

def auxiliary? (contribution : Contribution) : Option Auxiliary :=
  match contribution.piece with
  | some (.auxiliary auxiliary) => some auxiliary
  | _ => none

def silent : Contribution := ⟨none, []⟩

def value (auxiliary : Auxiliary) : Contribution := ⟨some (.auxiliary auxiliary), []⟩

def dropped (label : String) (element : Element) : Contribution :=
  ⟨none, [Contents.complaint label element]⟩

def unsupported (label : String) (element : Element) : Contribution :=
  ⟨some (.auxiliary (.unsupported element.name (element.attribute? "key"))),
    [Contents.complaint label element]⟩

end Contribution

/-- What an entry of an object with a label contributes. The listed elements are those that objects
are built from, by position. -/
inductive Contributes (registry : Registry) (label : String) (elements : List Element) :
    Entry → Contribution → Prop where
  | subview {element : Element} {index : Nat} (stands : elements[index]? = some element) :
      Contributes registry label elements ⟨some .subviews, element⟩ ⟨some (.child index), []⟩
  | constraint {element : Element} (named : element.name = "constraint")
      (known : ∀ relation, element.attribute? "relation" = some relation →
        (Relation.ofName? relation).isSome = true) :
      Contributes registry label elements ⟨some .constraints, element⟩
        ⟨some (.constraint (.ofElement element)), []⟩
  | unknownRelation {element : Element} {relation : String} (named : element.name = "constraint")
      (given : element.attribute? "relation" = some relation)
      (unknown : Relation.ofName? relation = none) :
      Contributes registry label elements ⟨some .constraints, element⟩
        ⟨some (.constraint (.ofElement element)),
          [.unsupported label ("constraint relation=" ++ relation)]⟩
  | noConstraint {element : Element} (other : element.name ≠ "constraint") :
      Contributes registry label elements ⟨some .constraints, element⟩ (.unsupported label element)
  | connection {element : Element} {connection : Connection}
      (read : Connection.ofElement? element = some connection) :
      Contributes registry label elements ⟨some .connections, element⟩
        (.value (.connection connection))
  | noConnection {element : Element} (other : Connection.ofElement? element = none) :
      Contributes registry label elements ⟨some .connections, element⟩ (.unsupported label element)
  | runtime {element : Element} {value : RuntimeValue}
      (named : element.name = "userDefinedRuntimeAttribute")
      (read : RuntimeValue.ofElement? element = some value) :
      Contributes registry label elements ⟨some .runtimeAttributes, element⟩
        (.value (.runtime ⟨element.attribute? "keyPath", value⟩))
  | unknownType {element : Element} (named : element.name = "userDefinedRuntimeAttribute")
      (unknown : RuntimeValue.ofElement? element = none) :
      Contributes registry label elements ⟨some .runtimeAttributes, element⟩
        (.dropped label element)
  | noRuntime {element : Element} (other : element.name ≠ "userDefinedRuntimeAttribute") :
      Contributes registry label elements ⟨some .runtimeAttributes, element⟩
        (.dropped label element)
  | state {element : Element} {state : ControlState} (named : element.name = "state")
      (known : (element.attribute? "key").bind ControlState.ofName? = some state) :
      Contributes registry label elements ⟨none, element⟩
        ⟨some (.auxiliary (.state
          { state
            title := element.attribute? "title"
            image := element.attribute? "image"
            backgroundImage := element.attribute? "backgroundImage"
            titleColor := Contents.lastColor .title element.children
            titleShadowColor := Contents.lastColor .shadow element.children })),
          (element.children.filter fun child => (Contents.stateColor? child).isNone).map
            (Contents.complaint label)⟩
  | unknownState {element : Element} (named : element.name = "state")
      (unknown : (element.attribute? "key").bind ControlState.ofName? = none) :
      Contributes registry label elements ⟨none, element⟩ (.dropped label element)
  | guide {element : Element} (named : element.name = "viewLayoutGuide") :
      Contributes registry label elements ⟨none, element⟩
        (.value (.guide ((element.attribute? "key").getD "layoutGuide") (element.attribute? "id")))
  | nil {element : Element} (named : element.name = "nil") :
      Contributes registry label elements ⟨none, element⟩ .silent
  | designTime {element : Element} (designTime : IsDesignTime element) :
      Contributes registry label elements ⟨none, element⟩ .silent
  | value {element : Element} {value : Auxiliary} (unclaimed : Unclaimed element)
      (shown : ¬IsDesignTime element) (read : Auxiliary.ofElement? element = some value) :
      Contributes registry label elements ⟨none, element⟩ (.value value)
  | embedded {element : Element} {key : String} {index : Nat}
      (embedded : IsEmbedded registry element) (keyed : element.attribute? "key" = some key)
      (stands : elements[index]? = some element) :
      Contributes registry label elements ⟨none, element⟩ (.value (.embedded key index))
  | other {element : Element} (unclaimed : Unclaimed element) (shown : ¬IsDesignTime element)
      (valueless : Auxiliary.ofElement? element = none) (plain : ¬IsEmbedded registry element) :
      Contributes registry label elements ⟨none, element⟩ (.unsupported label element)

section

variable {registry : Registry} {label : String} {elements : List Element} {entry : Entry}
  {contribution : Contribution}

theorem Contributes.mono {wider : List Element}
    (contributes : Contributes registry label elements entry contribution)
    (stands : ∀ (index : Nat) (element : Element), elements[index]? = some element →
      wider[index]? = some element) :
    Contributes registry label wider entry contribution := by
  cases contributes with
  | subview here => exact .subview (stands _ _ here)
  | embedded embedded keyed here => exact .embedded embedded keyed (stands _ _ here)
  | constraint named known => exact .constraint named known
  | unknownRelation named given unknown => exact .unknownRelation named given unknown
  | noConstraint other => exact .noConstraint other
  | connection read => exact .connection read
  | noConnection other => exact .noConnection other
  | runtime named read => exact .runtime named read
  | unknownType named unknown => exact .unknownType named unknown
  | noRuntime other => exact .noRuntime other
  | state named known => exact .state named known
  | unknownState named unknown => exact .unknownState named unknown
  | guide named => exact .guide named
  | nil named => exact .nil named
  | designTime designTime => exact .designTime designTime
  | value unclaimed shown read => exact .value unclaimed shown read
  | other unclaimed shown valueless plain => exact .other unclaimed shown valueless plain

theorem Unclaimed.name_ne {element : Element} (unclaimed : Unclaimed element) {name : String}
    (claimed : name ∈ "subviews" :: "viewLayoutGuide" :: reservedNames) : element.name ≠ name := by
  rintro rfl
  exact unclaimed claimed

theorem Unclaimed.direct {element : Element} (unclaimed : Unclaimed element) :
    Container.ofName? element.name = none := by
  unfold Container.ofName?
  split
  · rename_i named
    exact absurd named (unclaimed.name_ne (by decide))
  · rename_i named
    exact absurd named (unclaimed.name_ne (by decide))
  · rename_i named
    exact absurd named (unclaimed.name_ne (by decide))
  · rename_i named
    exact absurd named (unclaimed.name_ne (by decide))
  · rfl

theorem IsEmbedded.shown {element : Element} (embedded : IsEmbedded registry element) :
    ¬IsDesignTime element := by
  rintro ⟨_, key, hidden, keyed⟩
  obtain ⟨other, property, otherKeyed⟩ := embedded.keyed
  rw [keyed] at otherKeyed
  cases otherKeyed
  exact designTimeKeys_disjoint key property hidden

/-- An unclaimed element that is shown is neither silent nor dropped. -/
theorem Unclaimed.kept {element : Element} (unclaimed : Unclaimed element)
    (shown : ¬IsDesignTime element) :
    ¬(Entry.IsSilent ⟨none, element⟩ ∨ Entry.IsDropped ⟨none, element⟩) := by
  have noNil : element.name ≠ "nil" := unclaimed.name_ne (by decide)
  have noState : element.name ≠ "state" := unclaimed.name_ne (by decide)
  simp [Entry.IsSilent, Entry.IsDropped, shown, noNil, noState]

end

namespace Contents

/-- Contents that hold exactly what contributions add, none of them a child. -/
structure Sums (contents : Contents) (contributions : List Contribution) : Prop where
  children : contributions.filterMap Contribution.child? = []
  constraints : contents.constraints = contributions.filterMap Contribution.constraint?
  auxiliaries : contents.auxiliaries = contributions.filterMap Contribution.auxiliary?
  warnings : contents.warnings = contributions.flatMap Contribution.warnings

theorem Sums.append {first second : Contents} {former latter : List Contribution}
    (sums : first.Sums former) (others : second.Sums latter) :
    (first.append second).Sums (former ++ latter) where
  children := by rw [List.filterMap_append, sums.children, others.children, List.nil_append]
  constraints := by
    rw [List.filterMap_append, ← sums.constraints, ← others.constraints]
    rfl
  auxiliaries := by
    rw [List.filterMap_append, ← sums.auxiliaries, ← others.auxiliaries]
    rfl
  warnings := by
    rw [List.flatMap_append, ← sums.warnings, ← others.warnings]
    rfl

variable (registry : Registry) (label : String) (elements : List Element)

def Single (entry : Entry) (contents : Contents) : Prop :=
  ∃ contribution, Contributes registry label elements entry contribution ∧
    contents.Sums [contribution]

variable {registry label elements}

theorem concat_sums {container : Container} {contents : Element → Contents}
    (each : ∀ element, (contents element).Single registry label elements ⟨some container, element⟩)
    (children : List Element) :
    ∃ contributions, List.Forall₂ (Contributes registry label elements)
        (children.map (Entry.mk (some container))) contributions ∧
      (concat children contents).Sums contributions := by
  induction children with
  | nil => exact ⟨[], .nil, rfl, rfl, rfl, rfl⟩
  | cons child rest ih =>
      obtain ⟨contribution, contributes, sums⟩ := each child
      obtain ⟨others, contribute, sumsRest⟩ := ih
      exact ⟨contribution :: others, .cons contributes contribute, sums.append sumsRest⟩

variable (registry label elements) (element : Element)

theorem ofConstraint_single :
    (ofConstraint label element).Single registry label elements ⟨some .constraints, element⟩ := by
  unfold ofConstraint
  by_cases named : element.name = "constraint"
  · rw [if_pos named]
    cases given : element.attribute? "relation" with
    | none => exact ⟨_, .constraint named (by simp [given]), rfl, rfl, rfl, rfl⟩
    | some relation =>
        cases known : Relation.ofName? relation with
        | none =>
            refine ⟨_, .unknownRelation named given known, rfl, rfl, rfl, ?_⟩
            simp [known, toString]
        | some value =>
            refine ⟨_, .constraint named ?_, rfl, rfl, rfl, ?_⟩
            · intro other same
              rw [given] at same
              cases same
              rw [known]
              rfl
            · simp [known]
  · rw [if_neg named]
    exact ⟨_, .noConstraint named, rfl, rfl, rfl, rfl⟩

theorem ofConnection_single :
    (ofConnection label element).Single registry label elements ⟨some .connections, element⟩ := by
  unfold ofConnection
  cases read : Connection.ofElement? element with
  | none => exact ⟨_, .noConnection read, rfl, rfl, rfl, rfl⟩
  | some connection => exact ⟨_, .connection read, rfl, rfl, rfl, rfl⟩

theorem ofRuntimeAttribute_single :
    (ofRuntimeAttribute label element).Single registry label elements
      ⟨some .runtimeAttributes, element⟩ := by
  unfold ofRuntimeAttribute
  by_cases named : element.name = "userDefinedRuntimeAttribute"
  · rw [if_pos named]
    cases read : RuntimeValue.ofElement? element with
    | none => exact ⟨_, .unknownType named read, rfl, rfl, rfl, rfl⟩
    | some value => exact ⟨_, .runtime named read, rfl, rfl, rfl, rfl⟩
  · rw [if_neg named]
    exact ⟨_, .noRuntime named, rfl, rfl, rfl, rfl⟩

variable {element}

theorem ofState_single (named : element.name = "state") :
    (ofState label element).Single registry label elements ⟨none, element⟩ := by
  unfold ofState
  cases known : (element.attribute? "key").bind ControlState.ofName? with
  | none => exact ⟨_, .unknownState named known, rfl, rfl, rfl, rfl⟩
  | some state => exact ⟨_, .state named known, rfl, rfl, rfl, by simp⟩

/-- An element that nothing claims is hidden, a value, or recorded as unsupported. -/
theorem unclaimed_single (unclaimed : Unclaimed element) (plain : ¬IsEmbedded registry element) :
    Single registry label elements ⟨none, element⟩
      (if ((element.attribute? "key").map designTimeKeys.contains).getD false then .nothing
      else
        match Auxiliary.ofElement? element with
        | some value => .value value
        | none => .unsupported label element) := by
  have hidden_iff : ((element.attribute? "key").map designTimeKeys.contains).getD false = true ↔
      IsDesignTime element := by
    cases keyed : element.attribute? "key" <;> simp [IsDesignTime, unclaimed, keyed]
  split
  · rename_i hidden
    exact ⟨_, .designTime (hidden_iff.mp hidden), rfl, rfl, rfl, rfl⟩
  · rename_i visible
    have shown : ¬IsDesignTime element := fun hidden => visible (hidden_iff.mpr hidden)
    cases read : Auxiliary.ofElement? element with
    | some value => exact ⟨_, .value unclaimed shown read, rfl, rfl, rfl, rfl⟩
    | none => exact ⟨_, .other unclaimed shown read plain, rfl, rfl, rfl, rfl⟩

theorem Single.sums {contents : Contents} (direct : Container.ofName? element.name = none)
    (single : contents.Single registry label elements ⟨none, element⟩) :
    ∃ contributions, List.Forall₂ (Contributes registry label elements) (Entry.ofChild element)
      contributions ∧ contents.Sums contributions := by
  obtain ⟨contribution, contributes, sums⟩ := single
  rw [Entry.ofChild, direct]
  exact ⟨[contribution], .cons contributes .nil, sums⟩

/-- Every entry of contents contributes to them, and they hold nothing else. -/
theorem of_sums (place : Place.of registry element = .contents) :
    ∃ contributions, List.Forall₂ (Contributes registry label elements) (Entry.ofChild element)
      contributions ∧ (Contents.of label element).Sums contributions := by
  have fits := placed registry element
  rw [place] at fits
  cases fits with
  | contents list guide plain =>
      unfold Contents.of
      split
      · rename_i named
        rw [Entry.ofChild, named]
        exact concat_sums (ofConstraint_single registry label elements) element.children
      · rename_i named
        rw [Entry.ofChild, named]
        exact concat_sums (ofConnection_single registry label elements) element.children
      · rename_i named
        rw [Entry.ofChild, named]
        exact concat_sums (ofRuntimeAttribute_single registry label elements) element.children
      · rename_i named
        exact (ofState_single registry label elements named).sums _ _ _ (by rw [named]; rfl)
      · rename_i named
        have silent : nothing.Single registry label elements ⟨none, element⟩ :=
          ⟨_, .nil named, rfl, rfl, rfl, rfl⟩
        exact silent.sums _ _ _ (by rw [named]; rfl)
      · rename_i noConstraints noConnections noRuntime noState noNil
        have unclaimed : Unclaimed element := by
          simp only [Unclaimed, reservedNames, List.mem_cons, List.not_mem_nil, not_or, or_false]
          exact ⟨list, guide, noConstraints, noConnections, noRuntime, noState, noNil⟩
        exact (unclaimed_single registry label elements unclaimed plain).sums _ _ _ unclaimed.direct

end Contents

end Xib
