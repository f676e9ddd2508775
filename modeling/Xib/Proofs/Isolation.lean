import Xib.Proofs.References

/-!
# Failure isolation

Two runs that differ in one excluded object differ, for every other object, exactly in the
statements that refer to it. `Cites` says from the markup when a statement does so; the passes only
ever test whether a target is excluded. Nothing is said of warnings here: a constraint that would
have failed is silent once its first item is excluded.
-/

namespace Xib

set_option autoImplicit false

/-- An identifier, other than that of the owner, of an object or of a guide that the object owns.
Objects come before guides. -/
def Document.LeadsTo (document : Document) (identifier : String) (index : Nat) : Prop :=
  identifier ≠ ownerIdentifier ∧
    (document.find? identifier = some index ∨
      document.find? identifier = none ∧
        ∃ guide, document.guide? identifier = some guide ∧ guide.owner = index)

namespace Swift

/-- How a statement that is written for an object comes to refer to another one: by its position,
or by an identifier that leads to it. -/
inductive Cites (scope : Scope) (index : Nat) (object : Object) (cited : Nat) : Statement → Prop
    where
  | embedded {key : String} (owned : .embedded key cited ∈ object.auxiliaries) :
      Cites scope index object cited (.assign index key (.reference (.object cited)))
  | outlet {connection : Connection} {property destination : String} {target : Target}
      (member : connection ∈ object.connections) (kind : connection.kind = .outlet)
      (named : connection.name = some property)
      (destined : connection.destination = some destination)
      (found : scope.reference destination = .ok (some target))
      (leads : scope.document.LeadsTo destination cited) :
      Cites scope index object cited (.assign index property (.reference target))
  | child (owned : cited ∈ object.children) :
      Cites scope index object cited (.add index (subviewMethod object.kind) (.object cited))
  | gesture {connection : Connection} {destination : String} {target : Target}
      (member : connection ∈ object.connections) (kind : connection.kind = .outletCollection)
      (named : connection.name = some "gestureRecognizers")
      (destined : connection.destination = some destination)
      (found : scope.reference destination = .ok (some target))
      (leads : scope.document.LeadsTo destination cited) :
      Cites scope index object cited (.add index "addGestureRecognizer" target)
  | firstItem {constraint : Constraint} {identifier : String} {target : Target} {anchor : Anchor}
      {bound : Bound} (member : constraint ∈ object.constraints)
      (names : constraint.firstItem = some identifier)
      (found : scope.reference identifier = .ok (some target))
      (leads : scope.document.LeadsTo identifier cited) :
      Cites scope index object cited (.activate target anchor constraint.relation bound)
  | secondItem {constraint : Constraint} {identifier : String} {target second : Target}
      {first anchor : Anchor} {multiplier : Option Number.Binary} {constant : Option String}
      (member : constraint ∈ object.constraints)
      (names : constraint.secondItem = some identifier)
      (found : scope.reference identifier = .ok (some second))
      (leads : scope.document.LeadsTo identifier cited) :
      Cites scope index object cited (.activate target first constraint.relation
        (.relative second anchor multiplier constant))

section Citing

variable {scope : Scope} {index cited : Nat} {object : Object} {statement : Statement}

theorem concerns_iff_leadsTo {identifier : String} {target : Target}
    (found : scope.reference identifier = .ok (some target)) :
    target.concerns cited = true ↔ scope.document.LeadsTo identifier cited := by
  rw [Scope.reference_eq] at found
  simp only [Target.concerns, decide_eq_true_eq, Document.LeadsTo]
  split at found
  · rename_i owner
    cases found
    simp [owner, Target.object?]
  · rename_i notOwner
    split at found
    · rename_i position known
      split at found <;> cases found
      simp [notOwner, known, Target.object?]
    · rename_i unknown
      split at found
      · cases found
      · split at found
        · rename_i guide registered
          split at found <;> cases found
          simp [notOwner, unknown, registered, Target.object?]
        · cases found

theorem Cites.refersTo (cites : Cites scope index object cited statement) :
    statement.refersTo cited = true := by
  cases cites with
  | embedded _ => simp [Statement.refersTo, Statement.targets, Target.concerns, Target.object?]
  | child _ => simp [Statement.refersTo, Statement.targets, Target.concerns, Target.object?]
  | outlet _ _ _ _ found leads =>
      simp [Statement.refersTo, Statement.targets, (concerns_iff_leadsTo found).mpr leads]
  | gesture _ _ _ _ found leads =>
      simp [Statement.refersTo, Statement.targets, (concerns_iff_leadsTo found).mpr leads]
  | @firstItem _ _ _ _ bound _ _ found leads =>
      have concerned := (concerns_iff_leadsTo found).mpr leads
      cases bound <;> simp [Statement.refersTo, Statement.targets, concerned]
  | secondItem _ _ found leads =>
      simp [Statement.refersTo, Statement.targets, (concerns_iff_leadsTo found).mpr leads]

theorem Configures.cites (configures : Configures scope index object statement)
    (refers : statement.refersTo cited = true) : Cites scope index object cited statement := by
  cases configures with
  | plain plain => simp [Statement.refersTo, plain.targets_eq_nil] at refers
  | @embedded key child owned _ =>
      have same : child = cited := by
        simpa [Statement.refersTo, Statement.targets, Target.concerns, Target.object?] using refers
      subst same
      exact .embedded owned
  | outlet member kind named destined found =>
      have concerned := List.any_eq_true.mp refers
      obtain ⟨target, own, concerned⟩ := concerned
      rw [List.mem_singleton.mp own] at concerned
      exact .outlet member kind named destined found ((concerns_iff_leadsTo found).mp concerned)

theorem Wires.cites (wires : Wires scope index object statement)
    (refers : statement.refersTo cited = true) : Cites scope index object cited statement := by
  cases wires with
  | @child child owned _ =>
      have same : child = cited := by
        simpa [Statement.refersTo, Statement.targets, Target.concerns, Target.object?] using refers
      subst same
      exact .child owned
  | gesture member kind named destined found =>
      obtain ⟨target, own, concerned⟩ := List.any_eq_true.mp refers
      rw [List.mem_singleton.mp own] at concerned
      exact .gesture member kind named destined found ((concerns_iff_leadsTo found).mp concerned)

/-- A first item that concerns another object was named by an identifier. -/
theorem firstItem_of_concerns {constraint : Constraint} {target : Target} (other : index ≠ cited)
    (start : firstTarget scope index constraint = .ok (some target))
    (concerned : target.concerns cited = true) :
    ∃ identifier, constraint.firstItem = some identifier ∧
      scope.reference identifier = .ok (some target) ∧
      scope.document.LeadsTo identifier cited := by
  unfold firstTarget at start
  split at start
  · cases start
    simp [Target.concerns, Target.object?, other] at concerned
  · rename_i identifier names
    exact ⟨identifier, names, start, (concerns_iff_leadsTo start).mp concerned⟩

theorem Activates.cites (activates : Activates scope index object statement)
    (other : index ≠ cited) (refers : statement.refersTo cited = true) :
    Cites scope index object cited statement := by
  obtain ⟨target, own, concerned⟩ := List.any_eq_true.mp refers
  cases activates with
  | fixed member start =>
      rw [List.mem_singleton.mp own] at concerned
      obtain ⟨identifier, names, found, leads⟩ := firstItem_of_concerns other start concerned
      exact .firstItem member names found leads
  | relative member start names found =>
      rcases List.mem_cons.mp own with rfl | second
      · obtain ⟨identifier, names, found, leads⟩ := firstItem_of_concerns other start concerned
        exact .firstItem member names found leads
      · rw [List.mem_singleton.mp second] at concerned
        exact .secondItem member names found ((concerns_iff_leadsTo found).mp concerned)

end Citing

/-- One by one, items lose the statements that refer to an object; so does the whole. -/
theorem Yield.concat_exclude {α : Type} {yield narrowed : α → Yield} {excluded : Nat}
    (each : ∀ item, (narrowed item).statements =
      (yield item).statements.filter fun statement => !statement.refersTo excluded)
    (items : List α) :
    (Yield.concat items narrowed).statements =
      (Yield.concat items yield).statements.filter fun statement =>
        !statement.refersTo excluded := by
  rw [Yield.concat_statements, Yield.concat_statements, List.filter_flatMap]
  congr 1
  funext item
  exact each item

section Passes

variable (scope : Scope) (excluded index : Nat)

theorem collectionYield_exclude (object : Object) (connection : Connection) :
    (collectionYield (scope.exclude excluded) index object connection).statements =
      (collectionYield scope index object connection).statements.filter fun statement =>
        !statement.refersTo excluded := by
  unfold collectionYield
  by_cases named : connection.name = some "gestureRecognizers"
  · simp only [named, if_true]
    cases required "outletCollection" "destination" connection.destination with
    | error reason => rfl
    | ok destination =>
        simp only [bind, Except.bind, scope.reference_exclude excluded destination]
        cases scope.reference destination with
        | error reason => rfl
        | ok target =>
            cases target with
            | none => rfl
            | some target =>
                cases hidden : target.concerns excluded <;>
                  simp [Except.map, Option.filter, hidden, Yield.nothing, Statement.refersTo,
                    Statement.targets]
  · simp [named]

theorem subviews_exclude (object : Object) :
    (subviews (scope.exclude excluded) index object).statements =
      (subviews scope index object).statements.filter fun statement =>
        !statement.refersTo excluded := by
  have children : (object.children.filter fun child =>
        !(scope.exclude excluded).isExcluded child).map (fun child =>
          Statement.add index (subviewMethod object.kind) (.object child)) =
      ((object.children.filter fun child => !scope.isExcluded child).map fun child =>
        Statement.add index (subviewMethod object.kind) (.object child)).filter fun statement =>
          !statement.refersTo excluded := by
    rw [List.filter_map, List.filter_filter]
    congr 2
    funext child
    simp [Statement.refersTo, Statement.targets, Target.concerns, Target.object?,
      Bool.beq_eq_decide_eq]
  simp only [subviews, Yield.append, List.filter_append, children]
  rw [Yield.concat_exclude (collectionYield_exclude scope excluded index object)]

theorem firstTarget_exclude (constraint : Constraint) (other : index ≠ excluded) :
    firstTarget (scope.exclude excluded) index constraint =
      (firstTarget scope index constraint).map
        (Option.filter fun target => !target.concerns excluded) := by
  unfold firstTarget
  split
  · simp [Except.map, Option.filter, Target.concerns, Target.object?, other]
  · exact scope.reference_exclude excluded _

/-- What comes of something that can fail or be left out. -/
def yielded {α : Type} (result : Except GenerationError (Option α)) : Option α :=
  result.toOption.join

theorem yielded_eq_some {α : Type} {result : Except GenerationError (Option α)} {value : α} :
    yielded result = some value ↔ result = .ok (some value) := by
  cases result with
  | error reason => simp [yielded, Except.toOption]
  | ok found => simp [yielded, Except.toOption]

theorem yielded_filter_eq_self {α : Type} {result : Except GenerationError (Option α)}
    {keep : α → Bool} (each : ∀ value, result = .ok (some value) → keep value = true) :
    (yielded result).filter keep = yielded result := by
  cases done : yielded result with
  | none => rfl
  | some value =>
      have kept := each value (yielded_eq_some.mp done)
      simp [Option.filter, kept]

theorem yielded_bind {α β : Type} {first : Except GenerationError β}
    {next narrowed : β → Except GenerationError (Option α)} {keep : α → Bool}
    (each : ∀ value, yielded (narrowed value) = (yielded (next value)).filter keep) :
    yielded (first >>= narrowed) = (yielded (first >>= next)).filter keep := by
  cases first with
  | error reason => rfl
  | ok value => exact each value

theorem yielded_bind_map {α β : Type} (result : Except GenerationError (Option β)) (image : β → α) :
    yielded (result >>= fun value => pure (value.map image)) = (yielded result).map image := by
  cases result with
  | error reason => rfl
  | ok value => cases value <;> rfl

/-- What depends on a target, and is left out with it. -/
def onTarget {α : Type} (reached : Except GenerationError (Option Target))
    (next : Target → Except GenerationError (Option α)) : Except GenerationError (Option α) :=
  reached >>= fun target =>
    match target with
    | none => .ok none
    | some target => next target

variable {excluded} in
/-- A target that is hidden takes with it what depends on it, errors included. -/
theorem onTarget_exclude {α : Type} {reached : Except GenerationError (Option Target)}
    {next narrowed : Target → Except GenerationError (Option α)} {concerns : α → Bool}
    (hidden : ∀ target, target.concerns excluded = true → ∀ value,
      next target = .ok (some value) → concerns value = true)
    (shown : ∀ target, target.concerns excluded = false →
      yielded (narrowed target) = (yielded (next target)).filter fun value => !concerns value) :
    yielded (onTarget (reached.map (Option.filter fun target => !target.concerns excluded))
        narrowed) =
      (yielded (onTarget reached next)).filter fun value => !concerns value := by
  cases reached with
  | error reason => rfl
  | ok found =>
      cases found with
      | none => rfl
      | some target =>
          cases concerned : target.concerns excluded with
          | true =>
              have silent :
                  (yielded (next target)).filter (fun value => !concerns value) = none := by
                rw [Option.filter_eq_none_iff]
                intro value done
                simp [hidden target concerned value (yielded_eq_some.mp done)]
              simp only [Except.map, Option.filter, concerned]
              exact silent.symm
          | false =>
              simp only [Except.map, Option.filter, concerned]
              exact shown target concerned

def Bound.concerns (excluded : Nat) : Bound → Bool
  | .fixed _ => false
  | .relative target _ _ _ => target.concerns excluded

def boundTo (constraint : Constraint) (name : String) (first : Anchor) (second : Target) :
    Except GenerationError (Option Bound) := do
  let secondAnchor ← anchor "secondAttribute" (constraint.secondAttribute.getD name)
  let multiplier ← multiplierArgument first constraint.multiplier
  let constant := constraint.constant.filter fun constant => !isZero constant
  return some (.relative second secondAnchor multiplier constant)

theorem boundTo_concerns {constraint : Constraint} {name : String} {first : Anchor}
    {second : Target} {bound : Bound}
    (done : boundTo constraint name first second = .ok (some bound)) :
    bound.concerns excluded = second.concerns excluded := by
  obtain ⟨secondAnchor, _, done⟩ := bind_ok done
  obtain ⟨multiplier, _, done⟩ := bind_ok done
  cases done
  rfl

theorem bound?_eq (constraint : Constraint) (name : String) (first : Anchor) {identifier : String}
    (names : constraint.secondItem = some identifier) :
    bound? scope constraint name first =
      onTarget (scope.reference identifier) (boundTo constraint name first) := by
  simp only [bound?, names]
  rfl

theorem bound?_exclude (constraint : Constraint) (name : String) (first : Anchor) :
    yielded (bound? (scope.exclude excluded) constraint name first) =
      (yielded (bound? scope constraint name first)).filter fun bound =>
        !bound.concerns excluded := by
  cases names : constraint.secondItem with
  | none =>
      simp only [bound?, names]
      cases first.dimension <;> rfl
  | some identifier =>
      rw [bound?_eq _ constraint name first names, bound?_eq _ constraint name first names,
        scope.reference_exclude excluded identifier]
      apply onTarget_exclude
      · intro second concerned bound done
        rw [boundTo_concerns excluded done]
        exact concerned
      · intro second apart
        rw [yielded_filter_eq_self]
        intro bound done
        rw [boundTo_concerns excluded done, apart]
        rfl

def activationOf (constraint : Constraint) (target : Target) :
    Except GenerationError (Option Statement) := do
  let name ← required "constraint" "firstAttribute" constraint.firstAttribute
  let first ← anchor "firstAttribute" name
  let bound ← bound? scope constraint name first
  return bound.map fun bound => .activate target first constraint.relation bound

theorem activation_eq (constraint : Constraint) :
    activation scope index constraint =
      onTarget (firstTarget scope index constraint) (activationOf scope constraint) := rfl

theorem activationOf_refersTo {constraint : Constraint} {target : Target} {statement : Statement}
    (done : activationOf scope constraint target = .ok (some statement))
    (concerned : target.concerns excluded = true) : statement.refersTo excluded = true := by
  obtain ⟨name, _, done⟩ := bind_ok done
  obtain ⟨first, _, done⟩ := bind_ok done
  obtain ⟨bound, _, done⟩ := bind_ok done
  cases bound with
  | none => cases done
  | some bound =>
      cases done
      cases bound <;> simp [Statement.refersTo, Statement.targets, concerned]

theorem activationOf_exclude (constraint : Constraint) {target : Target}
    (apart : target.concerns excluded = false) :
    yielded (activationOf (scope.exclude excluded) constraint target) =
      (yielded (activationOf scope constraint target)).filter fun statement =>
        !statement.refersTo excluded := by
  apply yielded_bind
  intro name
  apply yielded_bind
  intro first
  rw [yielded_bind_map, yielded_bind_map, bound?_exclude, Option.filter_map]
  congr 2
  funext bound
  cases bound <;> simp [Bound.concerns, Statement.refersTo, Statement.targets, apart]

theorem activation_exclude (constraint : Constraint) (other : index ≠ excluded) :
    yielded (activation (scope.exclude excluded) index constraint) =
      (yielded (activation scope index constraint)).filter fun statement =>
        !statement.refersTo excluded := by
  rw [activation_eq, activation_eq, firstTarget_exclude scope excluded index constraint other]
  apply onTarget_exclude
  · intro target concerned statement done
    exact activationOf_refersTo scope excluded done concerned
  · intro target apart
    exact activationOf_exclude scope excluded constraint apart

theorem constraintYield_statements (object : Object) (constraint : Constraint) :
    (constraintYield scope index object constraint).statements =
      (yielded (activation scope index constraint)).toList := by
  unfold constraintYield
  cases activation scope index constraint with
  | error reason => rfl
  | ok statement => rfl

theorem constraints_exclude (object : Object) (other : index ≠ excluded) :
    (constraints (scope.exclude excluded) index object).statements =
      (constraints scope index object).statements.filter fun statement =>
        !statement.refersTo excluded := by
  apply Yield.concat_exclude
  intro constraint
  rw [constraintYield_statements, constraintYield_statements,
    activation_exclude scope excluded index constraint other, Option.toList_filter]

end Passes

section Settling

theorem Scope.skipped_exclude (scope : Scope) (index : Nat) :
    (scope.exclude index).skipped = index :: scope.skipped := rfl

theorem settle_cons (scope : Scope) (index : Nat) (rest : List Nat) :
    settle scope (index :: rest) =
      match scope.skip? index with
      | none => settle scope rest
      | some warning =>
          ((settle (scope.exclude index) rest).1,
            warning :: (settle (scope.exclude index) rest).2) := by
  rw [settle]
  unfold Scope.skip?
  cases scope.document.object? index with
  | none => rfl
  | some object =>
      cases scope.isExcluded index with
      | true => rfl
      | false =>
          simp only [Bool.false_eq_true, if_false]
          cases configuration scope index object with
          | ok statements => rfl
          | error reason => rfl

/-- Whatever the order of a pre-pass, it skips what cannot be configured at its start. -/
theorem mem_settle_skipped (scope : Scope) (order : List Nat) (index : Nat) :
    index ∈ (settle scope order).1.skipped ↔
      index ∈ scope.skipped ∨ index ∈ order ∧ (scope.skip? index).isSome = true := by
  induction order generalizing scope with
  | nil => simp [settle]
  | cons first rest ih =>
      rw [settle_cons]
      by_cases same : index = first
      · subst same
        cases skips : scope.skip? index with
        | none => simp [ih, skips]
        | some warning => simp [ih, Scope.skipped_exclude]
      · cases skips : scope.skip? first with
        | none => simp [ih, same]
        | some warning =>
            have unchanged := scope.skip?_exclude same
            simp [ih, unchanged, Scope.skipped_exclude, same]

end Settling

/-- What is left of statements once those that refer to an object are taken out. -/
def LessCited (scope : Scope) (index : Nat) (object : Object) (cited : Nat)
    (before after : List Statement) : Prop :=
  after = before.filter (fun statement => !statement.refersTo cited) ∧
    ∀ statement ∈ before,
      (statement.refersTo cited = true ↔ Cites scope index object cited statement)

/-- Excluding an object changes nothing for another one but that the statements that cite it are
gone: configuring fails as before, and in all three passes the other statements stay in their order,
with their text. So it does not matter in which order a pre-pass finds out what to skip. -/
theorem exclusion_only_removes_citations (scope : Scope) (excluded index : Nat) (object : Object)
    (other : index ≠ excluded) :
    let narrowed := scope.exclude excluded
    (∀ reason, configuration narrowed index object = .error reason ↔
      configuration scope index object = .error reason) ∧
    (∀ statements, configuration scope index object = .ok statements →
      ∃ kept, configuration narrowed index object = .ok kept ∧
        LessCited scope index object excluded statements kept) ∧
    LessCited scope index object excluded (subviews scope index object).statements
      (subviews narrowed index object).statements ∧
    LessCited scope index object excluded (constraints scope index object).statements
      (constraints narrowed index object).statements ∧
    (∀ statement : Statement, statement.write narrowed = statement.write scope) ∧
    ∀ first second : List Nat, first.Perm second → ∀ position,
      position ∈ (settle scope first).1.skipped ↔ position ∈ (settle scope second).1.skipped := by
  intro narrowed
  have configured : configuration narrowed index object =
      without excluded (configuration scope index object) :=
    configuration_exclude scope excluded index object
  refine ⟨?_, ?_, ⟨subviews_exclude scope excluded index object, ?_⟩,
    ⟨constraints_exclude scope excluded index object other, ?_⟩, ?_, ?_⟩
  · intro reason
    rw [configured, ← failure?_eq_some, ← failure?_eq_some, failure?_without]
  · intro statements done
    rw [configured, done]
    refine ⟨_, rfl, rfl, ?_⟩
    intro statement member
    refine ⟨fun refers => ?_, Cites.refersTo⟩
    obtain ⟨rest, rfl, configures⟩ := configuration_ok done
    rcases List.mem_cons.mp member with declares | later
    · rw [declares] at refers
      cases refers
    · exact (configures statement later).cites refers
  · intro statement member
    exact ⟨fun refers => (subviews_wires member).cites refers, Cites.refersTo⟩
  · intro statement member
    exact ⟨fun refers => (constraints_activates member).cites other refers, Cites.refersTo⟩
  · intro statement
    exact write_congr rfl fun _ _ => rfl
  · intro first second permuted position
    rw [mem_settle_skipped, mem_settle_skipped, permuted.mem_iff]

/-- Refers in every way to the second object of its document, to itself and to the owner. -/
def citingView : Object :=
  { Object.bare "view" .view with
    identifier := some "v"
    children := [1]
    auxiliaries :=
      [.embedded "backgroundView" 1,
        .connection ⟨.outlet, some "area", some "g", none, none⟩,
        .connection ⟨.outlet, some "delegate", some "-1", none, none⟩,
        .connection ⟨.outletCollection, some "gestureRecognizers", some "l", none, none⟩]
    constraints :=
      [⟨none, some "l", some "width", .equal, none, none, none, none, none⟩,
        ⟨none, none, some "top", .equal, some "g", none, none, none, none⟩,
        ⟨none, none, some "width", .equal, some "v", none, none, none, none⟩] }

/-- A view around a label that cannot be configured. -/
def citingDocument : Document where
  objects :=
    [citingView,
      { Object.bare "label" .label with
        index := 1
        identifier := some "l"
        parent := some 0
        attributes := Table.empty.insert "hidden" (.text "maybe") }]
  roots := [0]
  identifiers := (Table.empty.insert "v" 0).insert "l" 1
  guides := Table.empty.insert "g" ⟨1, "safeArea"⟩
  warnings := []

theorem citingDocument_loses_citations :
    let scope := Scope.initial citingDocument .standard
    let width : Anchor := ⟨"widthAnchor", true⟩
    (∃ statements, configuration scope 0 citingView = .ok statements ∧ statements.length = 4 ∧
      LessCited scope 0 citingView 1 statements
        [.declare 0 "UIView" "", .assign 0 "delegate" (.reference .owner)]) ∧
    (subviews scope 0 citingView).statements.length = 2 ∧
    LessCited scope 0 citingView 1 (subviews scope 0 citingView).statements [] ∧
    (constraints scope 0 citingView).statements.length = 3 ∧
    LessCited scope 0 citingView 1 (constraints scope 0 citingView).statements
      [.activate (.object 0) width .equal (.relative (.object 0) width none none)] ∧
    1 ∈ (settle scope [1, 0]).1.skipped ∧ 1 ∈ (settle scope [0, 1]).1.skipped := by
  intro scope width
  obtain ⟨_, configured, wired, activated, _, ordered⟩ :=
    exclusion_only_removes_citations scope 1 0 citingView (by decide)
  have narrowed : configuration (scope.exclude 1) 0 citingView =
      .ok [.declare 0 "UIView" "", .assign 0 "delegate" (.reference .owner)] := by
    decide +kernel
  have unwired : (subviews (scope.exclude 1) 0 citingView).statements = [] := by decide +kernel
  have remaining : (constraints (scope.exclude 1) 0 citingView).statements =
      [.activate (.object 0) width .equal (.relative (.object 0) width none none)] := by
    decide +kernel
  have skipped : 1 ∈ (settle scope [1, 0]).1.skipped := by decide +kernel
  rw [unwired] at wired
  rw [remaining] at activated
  refine ⟨?_, by decide +kernel, wired, by decide +kernel, activated, skipped,
    (ordered _ _ (List.Perm.swap 0 1 []) 1).mp skipped⟩
  have succeeds : (configuration scope 0 citingView).toOption.map List.length = some 4 := by
    decide +kernel
  cases done : configuration scope 0 citingView with
  | error reason =>
      rw [done] at succeeds
      cases succeeds
  | ok statements =>
      rw [done] at succeeds
      obtain ⟨kept, same, less⟩ := configured statements done
      rw [narrowed] at same
      cases same
      exact ⟨statements, rfl, Option.some.inj succeeds, less⟩

end Swift

end Xib
