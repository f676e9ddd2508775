import Xib.Proofs.Forest
import Xib.Swift.Plan

/-!
# What statements can be written

Says once, for each of the three passes, which statements an object can give rise to and where the
targets in them come from. What holds of every line of a plan is derived from this, without looking
at the passes again.
-/

namespace Xib.Swift

set_option autoImplicit false

theorem bind_ok {α β : Type} {first : Except GenerationError α}
    {next : α → Except GenerationError β} {result : β} (done : (first >>= next) = .ok result) :
    ∃ value, first = .ok value ∧ next value = .ok result := by
  cases first with
  | error reason => cases done
  | ok value => exact ⟨value, rfl, done⟩

theorem gather_cons_ok {α β : Type} {step : α → Except GenerationError (List β)} {item : α}
    {rest : List α} {all : List β} (done : gather step (item :: rest) = .ok all) :
    ∃ found others, step item = .ok found ∧ gather step rest = .ok others ∧
      all = found ++ others := by
  rcases bind_ok done with ⟨found, stepped, continued⟩
  rcases bind_ok continued with ⟨others, gathered, joined⟩
  cases joined
  exact ⟨found, others, stepped, gathered, rfl⟩

theorem gather_ok {α β : Type} {step : α → Except GenerationError (List β)} {item : α}
    {items : List α} {all : List β} (done : gather step items = .ok all) (member : item ∈ items) :
    ∃ found, step item = .ok found ∧ found ⊆ all := by
  induction items generalizing all with
  | nil => exact absurd member List.not_mem_nil
  | cons first rest ih =>
      rcases gather_cons_ok done with ⟨found, others, stepped, gathered, rfl⟩
      rcases List.mem_cons.mp member with rfl | later
      · exact ⟨found, stepped, List.subset_append_left found others⟩
      · rcases ih gathered later with ⟨own, ownStepped, inside⟩
        exact ⟨own, ownStepped, List.subset_append_of_subset_right found inside⟩

theorem gather_each {α β : Type} {step : α → Except GenerationError (List β)} {write : α → List β}
    {items : List α} (each : ∀ item ∈ items, step item = .ok (write item)) :
    gather step items = .ok (items.flatMap write) := by
  induction items with
  | nil => rfl
  | cons item rest ih =>
      obtain ⟨first, later⟩ := List.forall_mem_cons.mp each
      rw [gather, first, ih later]
      rfl

def Writes (result : Except GenerationError (List Statement)) (allowed : Statement → Prop) : Prop :=
  ∀ statements, result = .ok statements → ∀ statement ∈ statements, allowed statement

namespace Writes

variable {allowed : Statement → Prop}

theorem nothing : Writes (.ok []) allowed := by
  intro statements done
  cases done
  exact fun statement member => absurd member List.not_mem_nil

theorem map {α : Type} {result : Except GenerationError α} {write : α → List Statement}
    (each : ∀ value, ∀ statement ∈ write value, allowed statement) :
    Writes (result.map write) allowed := by
  intro statements done
  cases result with
  | error reason => cases done
  | ok value =>
      cases done
      exact each value

theorem bind {α : Type} {first : Except GenerationError α}
    {next : α → Except GenerationError (List Statement)}
    (each : ∀ value, first = .ok value → Writes (next value) allowed) :
    Writes (first >>= next) allowed := by
  intro statements done
  rcases bind_ok done with ⟨value, found, continued⟩
  exact each value found statements continued

theorem gather {α : Type} {step : α → Except GenerationError (List Statement)} {items : List α}
    (each : ∀ item ∈ items, Writes (step item) allowed) : Writes (gather step items) allowed := by
  induction items with
  | nil => exact nothing
  | cons item rest ih =>
      intro statements done statement member
      rcases gather_cons_ok done with ⟨found, others, stepped, gathered, rfl⟩
      rcases List.mem_append.mp member with own | later
      · exact each item List.mem_cons_self found stepped statement own
      · have remaining := ih fun item inside => each item (List.mem_cons_of_mem _ inside)
        exact remaining others gathered statement later

theorem mono {result : Except GenerationError (List Statement)} {wider : Statement → Prop}
    (written : Writes result allowed) (weaker : ∀ statement, allowed statement → wider statement) :
    Writes result wider :=
  fun statements done statement member =>
    weaker statement (written statements done statement member)

end Writes

inductive Plain (index : Nat) : Statement → Prop where
  | literal (property code : String) : Plain index (.assign index property (.literal code))
  | call (method arguments : String) : Plain index (.call index method arguments)

/-- What configures an object after its declaration. -/
inductive Configures (scope : Scope) (index : Nat) (object : Object) : Statement → Prop where
  | plain {statement : Statement} (plain : Plain index statement) :
      Configures scope index object statement
  | embedded {key : String} {child : Nat} (owned : .embedded key child ∈ object.auxiliaries)
      (declared : scope.isExcluded child = false) :
      Configures scope index object (.assign index key (.reference (.object child)))
  | outlet {connection : Connection} {property destination : String} {target : Target}
      (member : connection ∈ object.connections) (kind : connection.kind = .outlet)
      (named : connection.name = some property)
      (leads : connection.destination = some destination)
      (found : scope.reference destination = .ok (some target)) :
      Configures scope index object (.assign index property (.reference target))

section Configuration

variable {scope : Scope} {index : Nat} {object : Object}

private theorem literal_plain (property code : String) :
    ∀ statement ∈ [Statement.assign index property (.literal code)], Plain index statement := by
  intro statement member
  rw [List.mem_singleton.mp member]
  exact .literal property code

theorem attributeStatement_plain (property : Property) :
    Writes (attributeStatement index object property) (Plain index) := by
  unfold attributeStatement
  split
  · exact .nothing
  · split
    · exact .nothing
    · apply Writes.bind
      intro code _ statements done
      cases done
      exact literal_plain property.name code

theorem frameStatement_plain : Writes (frameStatement index object) (Plain index) := by
  unfold frameStatement
  simp only
  split
  · exact .nothing
  · apply Writes.bind
    intro code _ statements done
    cases done
    exact literal_plain "frame" code

/-- A value is written without naming an object, unless it is one. -/
theorem valueStatements_plain (kind : Kind) {value : Auxiliary} (single : value.embedded? = none) :
    Writes (valueStatements scope index kind value) (Plain index) := by
  cases value with
  | color key value => exact .map (literal_plain key)
  | rect key value =>
      simp only [valueStatements]
      split
      · exact .nothing
      · exact .map (literal_plain key)
  | size key value => exact .map (literal_plain key)
  | point key value => exact .map (literal_plain key)
  | inset key value => exact .map (literal_plain key)
  | font key value => exact .map (literal_plain (fontProperty kind key))
  | text key text =>
      intro statements done
      cases done
      exact literal_plain key (string text)
  | autoresizing key flags => exact .map (literal_plain key)
  | inputTraits traits =>
      intro statements done statement written
      cases done
      rcases List.mem_flatMap.mp written with ⟨⟨key, value⟩, _, own⟩
      exact literal_plain (inputTrait key) (traitCode key value) statement own
  | embedded key child => cases single
  | guide _ _ => exact .nothing
  | runtime _ => exact .nothing
  | state _ => exact .nothing
  | connection _ => exact .nothing
  | unsupported _ _ => exact .nothing

theorem valueStatements_configures {value : Auxiliary} (member : value ∈ object.auxiliaries) :
    Writes (valueStatements scope index object.kind value) (Configures scope index object) := by
  cases found : value.embedded? with
  | none => exact (valueStatements_plain object.kind found).mono fun _ => .plain
  | some child =>
      cases value <;> cases found
      rename_i key
      simp only [valueStatements]
      split
      · exact .nothing
      · rename_i declared
        intro statements done statement own
        cases done
        rw [List.mem_singleton.mp own]
        exact .embedded member (Bool.eq_false_iff.mpr declared)

theorem runtimeStatements_plain (value : Auxiliary) :
    Writes (runtimeStatements index value) (Plain index) := by
  unfold runtimeStatements
  split
  · apply Writes.bind
    intro property _
    apply Writes.bind
    intro code _ statements done
    cases done
    exact literal_plain property code
  · exact .nothing

private theorem calls_plain {texts : List String} {method : String} {arguments : String → String} :
    ∀ statement ∈ texts.map fun text => Statement.call index method (arguments text),
      Plain index statement := by
  intro statement member
  rcases List.mem_map.mp member with ⟨text, _, rfl⟩
  exact .call method (arguments text)

private theorem colored_plain {value : Option Color} {method : String}
    {arguments : String → String} :
    Writes (match value with
      | none => .ok []
      | some value => (color value).map fun code => [.call index method (arguments code)])
      (Plain index) := by
  split
  · exact .nothing
  · apply Writes.map
    intro code statement member
    rw [List.mem_singleton.mp member]
    exact .call method (arguments code)

theorem stateStatements_plain (state : ButtonState) :
    Writes (stateStatements index state) (Plain index) := by
  apply Writes.bind
  intro colors colored
  apply Writes.bind
  intro shadows shadowed statements done statement member
  cases done
  simp only [List.mem_append] at member
  rcases member with (((title | image) | background) | color) | shadow
  · exact calls_plain statement title
  · exact calls_plain statement image
  · exact calls_plain statement background
  · exact colored_plain colors colored statement color
  · exact colored_plain shadows shadowed statement shadow

theorem required_ok {tag name : String} {value : Option String} {result : String}
    (done : required tag name value = .ok result) : value = some result := by
  unfold required at done
  split at done
  · cases done
    rfl
  · cases done

theorem outletStatements_configures {connection : Connection}
    (member : connection ∈ object.connections)
    (kind : connection.kind = .outlet) :
    Writes (outletStatements scope index connection) (Configures scope index object) := by
  apply Writes.bind
  intro property named
  apply Writes.bind
  intro destination leads
  apply Writes.bind
  intro target found statements done statement written
  cases done
  rcases List.mem_map.mp written with ⟨reached, here, rfl⟩
  rw [Option.mem_toList.mp here] at found
  exact .outlet member kind (required_ok named) (required_ok leads) found

theorem configuration_parts {statements : List Statement}
    (done : configuration scope index object = .ok statements) :
    ∃ attributes frame values runtime states outlets,
      gather (attributeStatement index object) (Property.ofKind object.kind) = .ok attributes ∧
      frameStatement index object = .ok frame ∧
      gather (valueStatements scope index object.kind) object.auxiliaries = .ok values ∧
      gather (runtimeStatements index) object.auxiliaries = .ok runtime ∧
      gather (stateStatements index) (if object.kind = .button then object.states else []) =
        .ok states ∧
      gather (outletStatements scope index)
        (object.connections.filter fun connection => connection.kind = .outlet) = .ok outlets ∧
      statements = .declare index object.className (initializer object) ::
        (attributes ++ frame ++ values ++ runtime ++ states ++ outlets) := by
  rcases bind_ok done with ⟨attributes, attributesDone, done⟩
  rcases bind_ok done with ⟨frame, frameDone, done⟩
  rcases bind_ok done with ⟨values, valuesDone, done⟩
  rcases bind_ok done with ⟨runtime, runtimeDone, done⟩
  rcases bind_ok done with ⟨states, statesDone, done⟩
  rcases bind_ok done with ⟨outlets, outletsDone, done⟩
  cases done
  exact ⟨attributes, frame, values, runtime, states, outlets, attributesDone, frameDone, valuesDone,
    runtimeDone, statesDone, outletsDone, rfl⟩

theorem configuration_ok {statements : List Statement}
    (done : configuration scope index object = .ok statements) :
    ∃ rest, statements = .declare index object.className (initializer object) :: rest ∧
      ∀ statement ∈ rest, Configures scope index object statement := by
  obtain ⟨attributes, frame, values, runtime, states, outlets, attributesDone, frameDone,
    valuesDone, runtimeDone, statesDone, outletsDone, rfl⟩ := configuration_parts done
  refine ⟨_, rfl, ?_⟩
  intro statement member
  simp only [List.mem_append] at member
  rcases member with ((((plain | framed) | value) | assigned) | state) | outlet
  · exact .plain (Writes.gather (fun property _ => attributeStatement_plain property)
      attributes attributesDone statement plain)
  · exact .plain (frameStatement_plain frame frameDone statement framed)
  · exact Writes.gather (fun value inside => valueStatements_configures inside)
      values valuesDone statement value
  · exact .plain (Writes.gather (fun value _ => runtimeStatements_plain value)
      runtime runtimeDone statement assigned)
  · exact .plain (Writes.gather (fun state _ => stateStatements_plain state)
      states statesDone statement state)
  · refine Writes.gather (fun connection inside => ?_) outlets outletsDone statement outlet
    rcases List.mem_filter.mp inside with ⟨connected, kind⟩
    exact outletStatements_configures connected (of_decide_eq_true kind)

/-- No outlet whose destination is declared is left out of a configuration. -/
theorem configuration_outlet {statements : List Statement}
    (done : configuration scope index object = .ok statements) {connection : Connection}
    {property destination : String} {target : Target} (member : connection ∈ object.connections)
    (kind : connection.kind = .outlet) (named : connection.name = some property)
    (leads : connection.destination = some destination)
    (found : scope.reference destination = .ok (some target)) :
    .assign index property (.reference target) ∈ statements := by
  rcases configuration_parts done with ⟨_, _, _, _, _, outlets, _, _, _, _, _, outletsDone, rfl⟩
  have outlet :
      connection ∈ object.connections.filter fun connection => connection.kind = .outlet :=
    List.mem_filter.mpr ⟨member, decide_eq_true kind⟩
  rcases gather_ok outletsDone outlet with ⟨own, written, inside⟩
  have assigned : outletStatements scope index connection =
      .ok [.assign index property (.reference target)] := by
    simp only [outletStatements, named, leads, required]
    change (scope.reference destination >>= _) = _
    rw [found]
    rfl
  rw [assigned] at written
  cases written
  exact List.mem_cons_of_mem _ (List.mem_append_right _ (inside List.mem_cons_self))

end Configuration

/-- What adds subviews and gesture recognizers to an object. -/
inductive Wires (scope : Scope) (index : Nat) (object : Object) : Statement → Prop where
  | child {child : Nat} (owned : child ∈ object.children)
      (declared : scope.isExcluded child = false) :
      Wires scope index object (.add index (subviewMethod object.kind) (.object child))
  | gesture {connection : Connection} {destination : String} {target : Target}
      (member : connection ∈ object.connections) (kind : connection.kind = .outletCollection)
      (named : connection.name = some "gestureRecognizers")
      (leads : connection.destination = some destination)
      (found : scope.reference destination = .ok (some target)) :
      Wires scope index object (.add index "addGestureRecognizer" target)

/-- What activates the constraints of an object. -/
inductive Activates (scope : Scope) (index : Nat) (object : Object) : Statement → Prop where
  | fixed {constraint : Constraint} {target : Target} {first : Anchor} {value : String}
      (member : constraint ∈ object.constraints)
      (start : firstTarget scope index constraint = .ok (some target)) :
      Activates scope index object (.activate target first constraint.relation (.fixed value))
  | relative {constraint : Constraint} {target second : Target} {identifier : String}
      {first secondAnchor : Anchor} {multiplier : Option Number.Binary} {constant : Option String}
      (member : constraint ∈ object.constraints)
      (start : firstTarget scope index constraint = .ok (some target))
      (names : constraint.secondItem = some identifier)
      (found : scope.reference identifier = .ok (some second)) :
      Activates scope index object (.activate target first constraint.relation
        (.relative second secondAnchor multiplier constant))

section Wiring

variable {scope : Scope} {index : Nat} {object : Object} {statement : Statement}

theorem Yield.concat_statements {α : Type} (items : List α) (yield : α → Yield) :
    (Yield.concat items yield).statements = items.flatMap fun item => (yield item).statements := by
  induction items with
  | nil => rfl
  | cons item rest ih =>
      rw [List.flatMap_cons, ← ih]
      rfl

theorem Yield.concat_warnings {α : Type} (items : List α) (yield : α → Yield) :
    (Yield.concat items yield).warnings = items.flatMap fun item => (yield item).warnings := by
  induction items with
  | nil => rfl
  | cons item rest ih =>
      rw [List.flatMap_cons, ← ih]
      rfl

theorem Yield.mem_concat {α : Type} {items : List α} {yield : α → Yield} :
    statement ∈ (Yield.concat items yield).statements ↔
      ∃ item ∈ items, statement ∈ (yield item).statements := by
  rw [Yield.concat_statements, List.mem_flatMap]

theorem collectionYield_wires {connection : Connection} (member : connection ∈ object.connections)
    (kind : connection.kind = .outletCollection)
    (written : statement ∈ (collectionYield scope index object connection).statements) :
    Wires scope index object statement := by
  unfold collectionYield at written
  split at written
  · rename_i named
    simp only at written
    split at written
    · rename_i target reached
      rw [List.mem_singleton.mp written]
      rcases bind_ok reached with ⟨destination, leads, found⟩
      exact .gesture member kind named (required_ok leads) found
    · exact absurd written List.not_mem_nil
    · exact absurd written List.not_mem_nil
  · exact absurd written List.not_mem_nil

theorem subviews_wires (written : statement ∈ (subviews scope index object).statements) :
    Wires scope index object statement := by
  rcases List.mem_append.mp written with added | collected
  · rcases List.mem_map.mp added with ⟨child, declared, rfl⟩
    rcases List.mem_filter.mp declared with ⟨owned, included⟩
    exact .child owned (by simpa using included)
  · rcases Yield.mem_concat.mp collected with ⟨connection, inside, own⟩
    rcases List.mem_filter.mp inside with ⟨member, kind⟩
    exact collectionYield_wires member (of_decide_eq_true kind) own

theorem bound?_relative {constraint : Constraint} {name : String} {first : Anchor} {bound : Bound}
    (done : bound? scope constraint name first = .ok (some bound)) :
    (∃ value, bound = .fixed value) ∨
      ∃ identifier second anchor multiplier constant,
        constraint.secondItem = some identifier ∧
        scope.reference identifier = .ok (some second) ∧
        bound = .relative second anchor multiplier constant := by
  unfold bound? at done
  split at done
  · split at done
    · cases done
      exact .inl ⟨_, rfl⟩
    · cases done
  · rename_i identifier names
    rcases bind_ok done with ⟨reached, found, done⟩
    split at done
    · cases done
    · rename_i second
      rcases bind_ok done with ⟨anchor, _, done⟩
      rcases bind_ok done with ⟨multiplier, _, done⟩
      cases done
      exact .inr ⟨identifier, second, anchor, multiplier, _, names, found, rfl⟩

theorem activation_activates {constraint : Constraint} (member : constraint ∈ object.constraints)
    (done : activation scope index constraint = .ok (some statement)) :
    Activates scope index object statement := by
  rcases bind_ok done with ⟨reached, start, done⟩
  split at done
  · cases done
  · rename_i target
    rcases bind_ok done with ⟨name, _, done⟩
    rcases bind_ok done with ⟨first, _, done⟩
    rcases bind_ok done with ⟨bound, bounded, done⟩
    cases bound with
    | none => cases done
    | some bound =>
        cases done
        rcases bound?_relative bounded with ⟨value, rfl⟩ | ⟨_, _, _, _, _, names, found, rfl⟩
        · exact .fixed member start
        · exact .relative member start names found

theorem constraints_activates (written : statement ∈ (constraints scope index object).statements) :
    Activates scope index object statement := by
  rcases Yield.mem_concat.mp written with ⟨constraint, member, own⟩
  simp only [constraintYield, Yield.append, List.nil_append] at own
  split at own
  · rename_i activated done
    rw [Option.mem_toList.mp own] at done
    exact activation_activates member done
  · exact absurd own List.not_mem_nil

end Wiring

end Xib.Swift
