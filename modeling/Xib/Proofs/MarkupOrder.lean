import Xib.Proofs.Agreement

/-!
# What the order of markup does not change

Attributes are looked up by the tables of a kind, never gone through. Values are gone through group
by group, and no group looks at what belongs to another. So neither the order of attributes nor the
order between groups of values can be seen in the code, not even in which error is reported first.
-/

namespace Xib.Swift

set_option autoImplicit false

section Attributes

def initializerKeys : Kind → List String
  | .tableView | .activityIndicatorView => ["style"]
  | .button => ["buttonType"]
  | .tableViewCell => ["style", "reuseIdentifier"]
  | _ => []

def readKeys (kind : Kind) : List String :=
  (Property.ofKind kind).map Property.key ++ initializerKeys kind

/-- The other object has the same attributes as far as they are read, in any order and among any
others. -/
inductive SameRead (object : Object) : Object → Prop where
  | attributes (attributes : Table Scalar)
      (read : ∀ key ∈ readKeys object.kind, attributes.get? key = object.attribute? key) :
      SameRead object { object with attributes }

theorem attributeStatement_congr {object other : Object} {property : Property}
    (found : other.attribute? property.key = object.attribute? property.key) (index : Nat) :
    attributeStatement index other property = attributeStatement index object property := by
  rw [attributeStatement, attributeStatement, found]

theorem initializer_congr {object other : Object} (kind : other.kind = object.kind)
    (found : ∀ key ∈ initializerKeys object.kind, other.attribute? key = object.attribute? key) :
    initializer other = initializer object := by
  unfold initializer
  rw [kind]
  cases known : object.kind with
  | tableView =>
      have style := found "style" (by simp [known, initializerKeys])
      simp only [style]
  | button =>
      have type := found "buttonType" (by simp [known, initializerKeys])
      simp only [type]
  | activityIndicatorView =>
      have style := found "style" (by simp [known, initializerKeys])
      simp only [style]
  | tableViewCell =>
      have style := found "style" (by simp [known, initializerKeys])
      have identifier := found "reuseIdentifier" (by simp [known, initializerKeys])
      simp only [style, identifier]
  | _ => rfl

theorem SameRead.writesLike {object other : Object} (same : SameRead object other) :
    WritesLike object other := by
  obtain ⟨attributes, read⟩ := same
  refine ⟨⟨rfl, rfl, rfl, rfl, fun scope index => ?_⟩, fun _ _ => rfl, fun _ _ => rfl⟩
  have statements : gather (attributeStatement index { object with attributes })
      (Property.ofKind object.kind) =
        gather (attributeStatement index object) (Property.ofKind object.kind) := by
    apply gather_congr
    intro property recognized
    apply attributeStatement_congr
    exact read property.key (List.mem_append_left _ (List.mem_map_of_mem recognized))
  have declared : initializer { object with attributes } = initializer object :=
    initializer_congr rfl fun key member => read key (List.mem_append_right _ member)
  unfold configuration
  rw [statements, declared]
  rfl

/-- Two documents whose objects have the same attributes, as far as any are read, give the same
code: the same lines, skipped objects and warnings. -/
theorem code_independent_of_attribute_order (first second : Document)
    (same : Document.Matches SameRead first second) (options : Options) :
    Code.ofDocument second options = Code.ofDocument first options ∧
      (settled second options).1.skipped = (settled first options).1.skipped ∧
      (settled second options).2 = (settled first options).2 := by
  have alike : Document.Matches WritesLike first second :=
    same.mono fun _ _ related => related.writesLike
  exact run_congr alike options

/-- A cell with two attributes that nothing reads, and a label that fails for two reasons. -/
def cellDocument : Document where
  objects :=
    [{ Object.bare "tableViewCell" .tableViewCell with
        attributes := .ofList
          [("opaque", .flag true), ("style", .text "IBUITableViewCellStyleValue1"),
            ("fixedFrame", .flag true), ("alpha", .number "0.5"), ("reuseIdentifier", .text "cell")]
        children := [1] },
      { Object.bare "label" .label with
        index := 1
        parent := some 0
        attributes := .ofList [("hidden", .text "maybe"), ("alpha", .text "half")] }]
  roots := [0]
  identifiers := .empty
  guides := .empty
  warnings := []

def reorderedCellDocument : Document where
  objects :=
    [{ Object.bare "tableViewCell" .tableViewCell with
        attributes := .ofList
          [("reuseIdentifier", .text "cell"), ("alpha", .number "0.5"),
            ("style", .text "IBUITableViewCellStyleValue1"), ("opaque", .flag true)]
        children := [1] },
      { Object.bare "label" .label with
        index := 1
        parent := some 0
        attributes := .ofList
          [("alpha", .text "half"), ("misplaced", .flag true), ("hidden", .text "maybe")] }]
  roots := [0]
  identifiers := .empty
  guides := .empty
  warnings := []

theorem reorderedCellDocument_same_code :
    Document.Matches SameRead cellDocument reorderedCellDocument ∧
      Code.ofDocument reorderedCellDocument .standard = Code.ofDocument cellDocument .standard ∧
      (Code.ofDocument cellDocument .standard).lines =
        ["let tableViewCell = UITableViewCell(style: .value1, reuseIdentifier: \"cell\")",
          "tableViewCell.alpha = 0.5", "tableViewCell.isOpaque = true"] ∧
      (Code.ofDocument cellDocument .standard).warnings =
        [.skipped "<label>" (.invalidValue "alpha" "half")] := by
  have same : Document.Matches SameRead cellDocument reorderedCellDocument :=
    ⟨.cons (.attributes _ (by decide)) (.cons (.attributes _ (by decide)) .nil), rfl, rfl⟩
  exact ⟨same, (code_independent_of_attribute_order _ _ same .standard).1, by decide +kernel,
    by decide +kernel⟩

end Attributes

section Groups

/-- The groups in which the values of an object are written. -/
inductive ValueGroup where
  | frame
  | value
  | runtime
  | state
  | outlet
  | collection
  deriving Repr, DecidableEq

namespace ValueGroup

def ofConnection? : ConnectionKind → Option ValueGroup
  | .outlet => some outlet
  | .outletCollection => some collection
  | .action => none

/-- Guides, actions and markup without a generated form belong to no group. -/
def of? : Auxiliary → Option ValueGroup
  | .rect key _ => some (if key = "frame" then frame else value)
  | .color .. | .size .. | .point .. | .inset .. | .font .. | .text .. | .autoresizing ..
  | .inputTraits _ | .embedded .. => some value
  | .runtime _ => some runtime
  | .state _ => some state
  | .connection connection => ofConnection? connection.kind
  | .guide .. | .unsupported .. => none

def among (group : ValueGroup) (values : List Auxiliary) : List Auxiliary :=
  values.filter fun value => of? value = some group

variable {group : ValueGroup}

/-- What is only found in values of a group can be looked for in the group. -/
theorem filterMap_among {α : Type} {find : Auxiliary → Option α}
    (only : ∀ value, of? value ≠ some group → find value = none) (values : List Auxiliary) :
    (group.among values).filterMap find = values.filterMap find := by
  rw [among, List.filterMap_filter]
  apply List.filterMap_congr
  intro value _
  by_cases inside : of? value = some group
  · simp [inside]
  · simp [inside, only value inside]

theorem gather_among {α : Type} {step : Auxiliary → Except GenerationError (List α)}
    (only : ∀ value, of? value ≠ some group → step value = .ok []) (values : List Auxiliary) :
    gather step (group.among values) = gather step values := by
  induction values with
  | nil => rfl
  | cons value rest ih =>
      rw [among] at ih
      by_cases inside : of? value = some group
      · simp only [among, List.filter_cons, inside, decide_true, if_true, gather, ih]
      · simp only [among, List.filter_cons, inside, decide_false, Bool.false_eq_true, if_false, ih,
          gather, only value inside]
        cases gather step rest <;> rfl

end ValueGroup

/-- The other object has the same values in each group, however the groups are mixed, and any
values of no group. -/
inductive SameGroups (object : Object) : Object → Prop where
  | auxiliaries (auxiliaries : List Auxiliary)
      (groups : ∀ group : ValueGroup, group.among auxiliaries = group.among object.auxiliaries) :
      SameGroups object { object with auxiliaries }

variable {auxiliaries others : List Auxiliary}

theorem filterMap_congr_group {α : Type} {find : Auxiliary → Option α} (group : ValueGroup)
    (same : group.among others = group.among auxiliaries)
    (only : ∀ value, ValueGroup.of? value ≠ some group → find value = none) :
    others.filterMap find = auxiliaries.filterMap find := by
  rw [← ValueGroup.filterMap_among only others, same, ValueGroup.filterMap_among only]

theorem gather_congr_group {α : Type} {step : Auxiliary → Except GenerationError (List α)}
    (group : ValueGroup) (same : group.among others = group.among auxiliaries)
    (only : ∀ value, ValueGroup.of? value ≠ some group → step value = .ok []) :
    gather step others = gather step auxiliaries := by
  rw [← ValueGroup.gather_among only others, same, ValueGroup.gather_among only]

section Object

variable {object other : Object}

theorem frameStatement_congr
    (same : ValueGroup.frame.among other.auxiliaries = ValueGroup.frame.among object.auxiliaries)
    (index : Nat) : frameStatement index other = frameStatement index object := by
  unfold frameStatement
  rw [← List.head?_filterMap, ← List.head?_filterMap, filterMap_congr_group .frame same]
  intro value outside
  cases value with
  | rect key rect =>
      have different : key ≠ "frame" := by
        rintro rfl
        exact outside rfl
      simp [different]
  | _ => rfl

theorem gather_valueStatements_congr
    (same : ValueGroup.value.among other.auxiliaries = ValueGroup.value.among object.auxiliaries)
    (scope : Scope) (index : Nat) (kind : Kind) :
    gather (valueStatements scope index kind) other.auxiliaries =
      gather (valueStatements scope index kind) object.auxiliaries := by
  apply gather_congr_group .value same
  intro value outside
  cases value with
  | rect key rect =>
      have frame : key = "frame" := by
        by_contra different
        exact outside (by simp [ValueGroup.of?, different])
      simp [valueStatements, frame]
  | guide key identifier => rfl
  | runtime assignment => rfl
  | state state => rfl
  | connection connection => rfl
  | unsupported tag key => rfl
  | _ => exact absurd rfl outside

theorem gather_runtimeStatements_congr
    (same : ValueGroup.runtime.among other.auxiliaries =
      ValueGroup.runtime.among object.auxiliaries)
    (index : Nat) :
    gather (runtimeStatements index) other.auxiliaries =
      gather (runtimeStatements index) object.auxiliaries := by
  apply gather_congr_group .runtime same
  intro value outside
  cases value with
  | runtime assignment => exact absurd rfl outside
  | _ => rfl

theorem states_congr
    (same : ValueGroup.state.among other.auxiliaries = ValueGroup.state.among object.auxiliaries) :
    other.states = object.states := by
  apply filterMap_congr_group .state same
  intro value outside
  cases value with
  | state state => exact absurd rfl outside
  | _ => rfl

theorem connections_congr {group : ValueGroup} {kind : ConnectionKind}
    (grouped : ValueGroup.ofConnection? kind = some group)
    (same : group.among other.auxiliaries = group.among object.auxiliaries) :
    (other.connections.filter fun connection => connection.kind = kind) =
      object.connections.filter fun connection => connection.kind = kind := by
  unfold Object.connections
  rw [List.filter_filterMap, List.filter_filterMap]
  apply filterMap_congr_group group same
  intro value outside
  cases value with
  | connection connection =>
      have different : connection.kind ≠ kind := by
        rintro rfl
        exact outside grouped
      simp [Option.filter, different]
  | _ => rfl

end Object

theorem SameGroups.writesLike {object other : Object} (same : SameGroups object other) :
    WritesLike object other := by
  obtain ⟨auxiliaries, groups⟩ := same
  have groupsOf : ∀ group : ValueGroup,
      group.among (Object.auxiliaries { object with auxiliaries }) =
        group.among object.auxiliaries := groups
  refine ⟨⟨rfl, rfl, rfl, rfl, fun scope index => ?_⟩, fun scope index => ?_, fun _ _ => rfl⟩
  · unfold configuration
    rw [frameStatement_congr (groupsOf .frame), states_congr (groupsOf .state),
      connections_congr rfl (groupsOf .outlet), gather_valueStatements_congr (groupsOf .value),
      gather_runtimeStatements_congr (groupsOf .runtime)]
    rfl
  · unfold subviews
    rw [connections_congr rfl (groupsOf .collection)]
    rfl

/-- Two documents whose objects have the same values group by group give the same code: the same
lines, skipped objects and warnings. -/
theorem code_independent_of_group_order (first second : Document)
    (same : Document.Matches SameGroups first second) (options : Options) :
    Code.ofDocument second options = Code.ofDocument first options ∧
      (settled second options).1.skipped = (settled first options).1.skipped ∧
      (settled second options).2 = (settled first options).2 := by
  have alike : Document.Matches WritesLike first second :=
    same.mono fun _ _ related => related.writesLike
  exact run_congr alike options

/-- A button whose frame, states and outlet are mixed with a guide and an action, and a label that
fails in two groups. -/
def mixedDocument : Document where
  objects :=
    [{ Object.bare "button" .button with
        children := [1]
        auxiliaries :=
          [.connection ⟨.outlet, some "menu", some "-1", none, none⟩,
            .state ⟨.normal, some "Go", none, none, none, none⟩, .guide "safeArea" none,
            .rect "frame" ⟨some "0", some "0", some "8", some "8"⟩,
            .connection ⟨.action, some "go:", some "-1", none, some "touchUpInside"⟩,
            .state ⟨.selected, some "Stop", none, none, none, none⟩,
            .text "accessibilityLabel" "Go"] },
      { Object.bare "label" .label with
        index := 1
        parent := some 0
        auxiliaries :=
          [.connection ⟨.outlet, some "next", some "nowhere", none, none⟩,
            .size "shadowOffset" ⟨none, none⟩] }]
  roots := [0]
  identifiers := .empty
  guides := .empty
  warnings := []

/-- The same groups, mixed in another way, without the guide and the action. -/
def remixedDocument : Document where
  objects :=
    [{ Object.bare "button" .button with
        children := [1]
        auxiliaries :=
          [.text "accessibilityLabel" "Go", .state ⟨.normal, some "Go", none, none, none, none⟩,
            .state ⟨.selected, some "Stop", none, none, none, none⟩, .unsupported "box" none,
            .rect "frame" ⟨some "0", some "0", some "8", some "8"⟩,
            .connection ⟨.outlet, some "menu", some "-1", none, none⟩] },
      { Object.bare "label" .label with
        index := 1
        parent := some 0
        auxiliaries :=
          [.size "shadowOffset" ⟨none, none⟩,
            .connection ⟨.outlet, some "next", some "nowhere", none, none⟩] }]
  roots := [0]
  identifiers := .empty
  guides := .empty
  warnings := []

theorem remixedDocument_same_code :
    Document.Matches SameGroups mixedDocument remixedDocument ∧
      Code.ofDocument remixedDocument .standard = Code.ofDocument mixedDocument .standard ∧
      (Code.ofDocument mixedDocument .standard).lines =
        ["let button = UIButton()", "button.frame = CGRect(x: 0, y: 0, width: 8, height: 8)",
          "button.accessibilityLabel = \"Go\"", "button.setTitle(\"Go\", for: .normal)",
          "button.setTitle(\"Stop\", for: .selected)", "button.menu = fileOwner"] ∧
      (Code.ofDocument mixedDocument .standard).warnings =
        [.skipped "<label>" (.missingAttribute "size" "width")] := by
  have same : Document.Matches SameGroups mixedDocument remixedDocument := by
    refine ⟨.cons (.auxiliaries _ fun group => ?_) (.cons (.auxiliaries _ fun group => ?_) .nil),
      rfl, rfl⟩
    · cases group <;> rfl
    · cases group <;> rfl
  exact ⟨same, (code_independent_of_group_order _ _ same .standard).1, by decide +kernel,
    by decide +kernel⟩

end Groups

end Xib.Swift
