import Xib.Proofs.Lines

/-!
# References name declared objects

No line names an object without a declaration, whichever of the passes it comes from. The only
other name a line can hold is that of the owner, and only where the markup asks for the owner by
its identifier. What is named is read off the statements; the last part of the main statement says
that this overlooks nothing, since the written text depends on no other name.
-/

namespace Xib

set_option autoImplicit false

/-- The identifiers by which an object refers to others: destinations of its outlets and outlet
collections, and the items of its constraints. -/
def Object.named (object : Object) : List String :=
  (object.connections.filter (·.kind ≠ .action)).filterMap Connection.destination ++
    object.constraints.flatMap fun constraint =>
      constraint.firstItem.toList ++ constraint.secondItem.toList

namespace Object

variable {object : Object} {identifier : String}

theorem named_of_connection {connection : Connection} (member : connection ∈ object.connections)
    (kind : connection.kind ≠ .action) (leads : connection.destination = some identifier) :
    identifier ∈ object.named := by
  apply List.mem_append_left
  refine List.mem_filterMap.mpr ⟨connection, List.mem_filter.mpr ⟨member, ?_⟩, leads⟩
  simp [kind]

theorem named_of_constraint {constraint : Constraint} (member : constraint ∈ object.constraints)
    (names : constraint.firstItem = some identifier ∨ constraint.secondItem = some identifier) :
    identifier ∈ object.named := by
  apply List.mem_append_right
  refine List.mem_flatMap.mpr ⟨constraint, member, ?_⟩
  simpa using names

end Object

namespace Swift

/-- The objects a statement names: the one it starts with and those of its targets. -/
def Statement.mentions (statement : Statement) : List Nat :=
  statement.receiver?.toList ++ statement.targets.filterMap Target.object?

/-- Where a target may come from: an object that is declared, or the owner by its identifier. -/
inductive Permitted (scope : Scope) (object : Object) : Target → Prop where
  | declared {target : Target} {index : Nat} (concerned : target.object? = some index)
      (declared : scope.isExcluded index = false) : Permitted scope object target
  | owner (asked : ownerIdentifier ∈ object.named) : Permitted scope object .owner

section

variable {scope : Scope} {index : Nat} {object : Object} {statement : Statement}

theorem permitted_of_reference {identifier : String} {target : Target}
    (named : identifier ∈ object.named) (found : scope.reference identifier = .ok (some target)) :
    Permitted scope object target := by
  rcases Scope.reference_some found with ⟨rfl, rfl⟩ | ⟨index, concerned, declared⟩
  · exact .owner named
  · exact .declared concerned declared

theorem Configures.permitted (configures : Configures scope index object statement) :
    ∀ target ∈ statement.targets, Permitted scope object target := by
  intro target member
  cases configures with
  | plain plain =>
      rw [plain.targets_eq_nil] at member
      exact absurd member List.not_mem_nil
  | embedded _ declared =>
      rw [List.mem_singleton.mp member]
      exact .declared rfl declared
  | outlet connected kind _ leads found =>
      rw [List.mem_singleton.mp member]
      have asked := Object.named_of_connection connected (by simp [kind]) leads
      exact permitted_of_reference asked found

theorem Wires.permitted (wires : Wires scope index object statement) :
    ∀ target ∈ statement.targets, Permitted scope object target := by
  intro target member
  cases wires with
  | child _ declared =>
      rw [List.mem_singleton.mp member]
      exact .declared rfl declared
  | gesture connected kind _ leads found =>
      rw [List.mem_singleton.mp member]
      have asked := Object.named_of_connection connected (by simp [kind]) leads
      exact permitted_of_reference asked found

/-- The first item of a constraint is its own object unless it names another. -/
theorem firstTarget_permitted {constraint : Constraint} {target : Target}
    (declared : scope.isExcluded index = false) (member : constraint ∈ object.constraints)
    (start : firstTarget scope index constraint = .ok (some target)) :
    Permitted scope object target := by
  unfold firstTarget at start
  split at start
  · cases start
    exact .declared rfl declared
  · rename_i identifier names
    exact permitted_of_reference (Object.named_of_constraint member (.inl names)) start

theorem Activates.permitted (declared : scope.isExcluded index = false)
    (activates : Activates scope index object statement) :
    ∀ target ∈ statement.targets, Permitted scope object target := by
  intro target member
  cases activates with
  | fixed constrained start =>
      rw [List.mem_singleton.mp member]
      exact firstTarget_permitted declared constrained start
  | relative constrained start names found =>
      rcases List.mem_cons.mp member with first | second
      · rw [first]
        exact firstTarget_permitted declared constrained start
      · rw [List.mem_singleton.mp second]
        exact permitted_of_reference (Object.named_of_constraint constrained (.inr names)) found

theorem Written.permitted (declared : scope.isExcluded index = false)
    (written : Written scope index object statement) :
    ∀ target ∈ statement.targets, Permitted scope object target := by
  cases written with
  | declared => exact fun target member => absurd member List.not_mem_nil
  | configured configures => exact configures.permitted
  | wired wires => exact wires.permitted
  | activated activates => exact activates.permitted declared

theorem Written.receiver (written : Written scope index object statement) :
    ∀ receiver ∈ statement.receiver?, receiver = index := by
  intro receiver member
  cases written with
  | declared => exact (Option.some.inj member).symm
  | configured configures =>
      cases configures with
      | plain plain => cases plain <;> exact (Option.some.inj member).symm
      | embedded _ _ => exact (Option.some.inj member).symm
      | outlet _ _ _ _ _ => exact (Option.some.inj member).symm
  | wired wires => cases wires <;> exact (Option.some.inj member).symm
  | activated activates => cases activates <;> cases member

end

/-- The text of an expression depends on the names of its objects and of the owner only. -/
theorem express_congr {scope other : Scope} {target : Target}
    (owner : other.ownerName = scope.ownerName)
    (names : ∀ index ∈ target.object?, other.nameOf index = scope.nameOf index) :
    other.express target = scope.express target := by
  cases target with
  | owner => exact owner
  | object index => exact names index rfl
  | guide index key => rw [Scope.express, Scope.express, names index rfl]
  | firstResponder => rfl

theorem write_congr {scope other : Scope} {statement : Statement}
    (owner : other.ownerName = scope.ownerName)
    (names : ∀ index ∈ statement.mentions, other.nameOf index = scope.nameOf index) :
    statement.write other = statement.write scope := by
  have expressed : ∀ target ∈ statement.targets, other.express target = scope.express target := by
    intro target member
    refine express_congr owner fun index concerned => names index ?_
    exact List.mem_append_right _ (List.mem_filterMap.mpr ⟨target, member, concerned⟩)
  have received : ∀ receiver ∈ statement.receiver?, other.nameOf receiver = scope.nameOf receiver :=
    fun receiver member => names receiver (List.mem_append_left _ (Option.mem_toList.mpr member))
  cases statement with
  | declare object className arguments => rw [Statement.write, Statement.write, received object rfl]
  | call object method arguments => rw [Statement.write, Statement.write, received object rfl]
  | assign object property value =>
      rw [Statement.write, Statement.write, received object rfl]
      cases value with
      | literal code => rfl
      | reference target =>
          rw [Expression.write, Expression.write, expressed target List.mem_cons_self]
  | add object method argument =>
      rw [Statement.write, Statement.write, received object rfl,
        expressed argument List.mem_cons_self]
  | activate target anchor relation bound =>
      cases bound with
      | fixed value =>
          rw [Statement.write, Statement.write, expressed target List.mem_cons_self]
          rfl
      | relative second secondAnchor multiplier constant =>
          have secondExpressed := expressed second (List.mem_cons_of_mem _ List.mem_cons_self)
          rw [Statement.write, Statement.write, expressed target List.mem_cons_self,
            Bound.arguments, Bound.arguments, secondExpressed]

theorem mentions_declared {document : Document} {options : Options} {line : Line}
    (member : line ∈ (Plan.ofDocument document options).lines) :
    ∀ index ∈ line.statement.mentions, (finalScope document options).isExcluded index = false := by
  rcases mem_lines member with ⟨object, _, declared, written⟩
  intro index mentioned
  rcases List.mem_append.mp mentioned with receiver | targeted
  · rw [written.receiver index (Option.mem_toList.mp receiver)]
    exact declared
  · rcases List.mem_filterMap.mp targeted with ⟨target, named, concerned⟩
    cases written.permitted declared target named with
    | declared other otherDeclared =>
        rw [concerned] at other
        rw [Option.some.inj other]
        exact otherDeclared
    | owner asked => cases concerned

/-- Every line names only objects whose declaration is among the lines, and the owner where its
identifier is given. No other name enters the text of a line. -/
theorem lines_name_declared_objects (document : Document) (options : Options) :
    let scope := (settled document options).1
    let plan := Plan.ofDocument document options
    (Code.ofDocument document options).lines = plan.lines.map (fun line =>
      Code.indented options.indent (line.statement.write scope)) ∧
    ∀ line ∈ plan.lines,
      (∀ index ∈ line.statement.mentions, scope.isExcluded index = false ∧
        ∃ object, document.object? index = some object ∧
          declaration index object ∈ plan.configuration) ∧
      (∀ target ∈ line.statement.targets, target.object? = none →
        target = .owner ∧ ∃ object, document.object? line.owner = some object ∧
          ownerIdentifier ∈ object.named) ∧
      ∀ other : Scope, other.ownerName = scope.ownerName →
        (∀ index, scope.isExcluded index = false → other.nameOf index = scope.nameOf index) →
        line.statement.write other = line.statement.write scope := by
  intro scope plan
  refine ⟨ofDocument_lines document options, ?_⟩
  intro line member
  refine ⟨?_, ?_, ?_⟩
  · intro index mentioned
    have declared := mentions_declared member index mentioned
    rcases exists_of_declared declared with ⟨object, found⟩
    rw [finalScope_document] at found
    exact ⟨declared, object, found, declaration_mem found declared⟩
  · intro target named free
    rcases mem_lines member with ⟨object, found, declared, written⟩
    cases written.permitted declared target named with
    | declared concerned _ =>
        rw [free] at concerned
        cases concerned
    | owner asked => exact ⟨rfl, object, found, asked⟩
  · intro other owner names
    exact write_congr owner fun index mentioned =>
      names index (mentions_declared member index mentioned)

/-- A text field beside a label that cannot be configured, with outlets to the owner, to a guide of
the label and to a guide of the view around both. -/
def outletDocument : Document where
  objects :=
    [{ Object.bare "view" .view with children := [1, 2] },
      { Object.bare "label" .label with
        index := 1
        parent := some 0
        attributes := Table.empty.insert "hidden" (.text "maybe") },
      { Object.bare "textField" .textField with
        index := 2
        parent := some 0
        auxiliaries :=
          [.connection ⟨.outlet, some "delegate", some "-1", none, none⟩,
            .connection ⟨.outlet, some "margins", some "m", none, none⟩,
            .connection ⟨.outlet, some "area", some "s", none, none⟩] }]
  roots := [0]
  identifiers := .empty
  guides := (Table.empty.insert "m" ⟨1, "layoutMargins"⟩).insert "s" ⟨0, "safeArea"⟩
  warnings := []

theorem outletDocument_names_declared_objects :
    let plan := Plan.ofDocument outletDocument .standard
    let toOwner : Line := ⟨2, .assign 2 "delegate" (.reference .owner)⟩
    let toGuide : Line := ⟨2, .assign 2 "area" (.reference (.guide 0 "safeArea"))⟩
    plan.lines.filter (fun line => line.statement.targets ≠ []) =
      [toOwner, toGuide, ⟨0, .add 0 "addSubview" (.object 2)⟩] ∧
    (∃ object, outletDocument.object? 2 = some object ∧ ownerIdentifier ∈ object.named) ∧
    ∃ object, outletDocument.object? 0 = some object ∧
      declaration 0 object ∈ plan.configuration := by
  intro plan toOwner toGuide
  have wired : plan.lines.filter (fun line => line.statement.targets ≠ []) =
      [toOwner, toGuide, ⟨0, .add 0 "addSubview" (.object 2)⟩] := by decide +kernel
  have written : ∀ line ∈ [toOwner, toGuide], line ∈ plan.lines := by
    intro line member
    have kept : line ∈ plan.lines.filter fun line => line.statement.targets ≠ [] := by
      rw [wired]
      exact List.mem_append_left _ member
    exact (List.mem_filter.mp kept).1
  have names := (lines_name_declared_objects outletDocument .standard).2
  have owner := (names toOwner (written toOwner (by decide))).2.1 .owner List.mem_cons_self rfl
  have guide := (names toGuide (written toGuide (by decide))).1 0 (by decide)
  exact ⟨wired, owner.2, guide.2⟩

end Swift

end Xib
