import Xib.Proofs.Encoding
import Xib.Proofs.Hierarchy
import Xib.Proofs.Isolation

/-!
# Texts taken over verbatim

Which texts of the markup stand in the lines of an object as they were written: its class name,
keys and key paths, keys of guides, and the texts that expressions take over. Each step of a pass
is on single lines exactly if the texts it takes over are, and so are all lines of the object.
-/

namespace Xib.Swift

set_option autoImplicit false

open Text (SingleLine AllSingle)

/-- The key of a guide is all that a target takes from the markup. -/
def Target.verbatim : Target → List String
  | .guide _ key => [key]
  | .owner | .object _ | .firstResponder => []

structure Scope.SingleNames (scope : Scope) : Prop where
  owner : SingleLine scope.ownerName
  object : ∀ index, SingleLine (scope.nameOf index)

/-- Statements are on single lines exactly if some texts are. -/
def Carries (scope : Scope) (statements : List Statement) (texts : List String) : Prop :=
  AllSingle (statements.map (Statement.write scope)) ↔ AllSingle texts

namespace Carries

variable {scope : Scope}

theorem nothing : Carries scope [] [] := by
  simp [Carries]

theorem one {statement : Statement} {texts : List String}
    (same : SingleLine (statement.write scope) ↔ AllSingle texts) :
    Carries scope [statement] texts := by
  simpa [Carries] using same

theorem append {first second : List Statement} {texts more : List String}
    (former : Carries scope first texts) (latter : Carries scope second more) :
    Carries scope (first ++ second) (texts ++ more) := by
  rw [Carries, List.map_append, Text.allSingle_append, Text.allSingle_append]
  exact and_congr former latter

theorem flatMap {α : Type} {items : List α} {write : α → List Statement} {texts : α → List String}
    (each : ∀ item ∈ items, Carries scope (write item) (texts item)) :
    Carries scope (items.flatMap write) (items.flatMap texts) := by
  induction items with
  | nil => exact nothing
  | cons item rest ih =>
      rw [List.flatMap_cons, List.flatMap_cons]
      exact (each item List.mem_cons_self).append
        (ih fun other member => each other (List.mem_cons_of_mem _ member))

theorem concat {α : Type} {items : List α} {yield : α → Yield} {texts : α → List String}
    (each : ∀ item ∈ items, Carries scope (yield item).statements (texts item)) :
    Carries scope (Yield.concat items yield).statements (items.flatMap texts) := by
  rw [Yield.concat_statements]
  exact flatMap each

theorem gather {α : Type} {step : α → Except GenerationError (List Statement)} {items : List α}
    {texts : α → List String} {all : List Statement}
    (each : ∀ item ∈ items, ∀ found, step item = .ok found → Carries scope found (texts item))
    (done : gather step items = .ok all) : Carries scope all (items.flatMap texts) := by
  induction items generalizing all with
  | nil =>
      cases done
      exact nothing
  | cons item rest ih =>
      obtain ⟨found, others, stepped, gathered, rfl⟩ := gather_cons_ok done
      rw [List.flatMap_cons]
      exact (each item List.mem_cons_self found stepped).append
        (ih (fun other member => each other (List.mem_cons_of_mem _ member)) gathered)

end Carries

section Writing

variable {scope : Scope} (names : scope.SingleNames)
include names

theorem singleLine_express (target : Target) :
    SingleLine (scope.express target) ↔ AllSingle target.verbatim := by
  cases target with
  | owner => simp [Scope.express, Target.verbatim, names.owner]
  | object index => simp [Scope.express, Target.verbatim, names.object]
  | guide index key =>
      simp +decide [Scope.express, Target.verbatim, names.object, singleLine_guideProperty]
  | firstResponder => simp +decide [Scope.express, Target.verbatim]

theorem singleLine_literal (index : Nat) (property code : String) :
    SingleLine ((Statement.assign index property (.literal code)).write scope) ↔
      SingleLine property ∧ SingleLine code := by
  simp +decide [Statement.write, Expression.write, names.object]

theorem singleLine_reference (index : Nat) (property : String) (target : Target) :
    SingleLine ((Statement.assign index property (.reference target)).write scope) ↔
      SingleLine property ∧ AllSingle target.verbatim := by
  simp +decide [Statement.write, Expression.write, names.object, singleLine_express names]

theorem singleLine_declare (index : Nat) (className arguments : String) :
    SingleLine ((Statement.declare index className arguments).write scope) ↔
      SingleLine className ∧ SingleLine arguments := by
  simp +decide [Statement.write, names.object]

theorem singleLine_call (index : Nat) (method arguments : String) :
    SingleLine ((Statement.call index method arguments).write scope) ↔
      SingleLine method ∧ SingleLine arguments := by
  simp +decide [Statement.write, names.object]

theorem singleLine_add (index : Nat) (method : String) (argument : Target) :
    SingleLine ((Statement.add index method argument).write scope) ↔
      SingleLine method ∧ AllSingle argument.verbatim := by
  simp +decide [Statement.write, names.object, singleLine_express names]

theorem singleLine_activate (target : Target) (first : Anchor) (relation : Relation)
    (bound : Bound) (plain : SingleLine first.path) :
    SingleLine ((Statement.activate target first relation bound).write scope) ↔
      AllSingle target.verbatim ∧ AllSingle (bound.arguments scope relation) := by
  simp +decide [Statement.write, singleLine_express names, plain, Text.singleLine_intercalate]

theorem relative_singleLine (relation : Relation) (target : Target) {anchor : Anchor}
    (multiplier : Option Number.Binary) (constant : Option String)
    (plain : SingleLine anchor.path) :
    AllSingle ((Bound.relative target anchor multiplier constant).arguments scope relation) ↔
      AllSingle target.verbatim ∧ AllSingle constant.toList := by
  have label : SingleLine (relationLabel relation) := by cases relation <;> decide
  cases multiplier <;> cases constant <;>
    simp +decide [Bound.arguments, label, plain, singleLine_express names]

end Writing

theorem fixed_singleLine (scope : Scope) (relation : Relation) (value : String) :
    AllSingle ((Bound.fixed value).arguments scope relation) ↔ SingleLine value := by
  have label : SingleLine (relationLabel relation) := by cases relation <;> decide
  simp +decide [Bound.arguments, label]

def attributeTexts (object : Object) (property : Property) : List String :=
  match object.attribute? property.key with
  | none => []
  | some value =>
      if property.default = some value.raw then [] else property.kind.verbatim value

def frame? : Auxiliary → Option Rect
  | .rect key rect => if key = "frame" then some rect else none
  | _ => none

/-- Only the first frame is written. -/
def frameTexts (object : Object) : List String :=
  (object.auxiliaries.findSome? frame?).toList.flatMap Rect.verbatim

def valueTexts (scope : Scope) : Auxiliary → List String
  | .color key value => key :: value.verbatim
  | .rect key value => if key = "frame" then [] else key :: value.verbatim
  | .size key value => key :: value.verbatim
  | .point key value => key :: value.verbatim
  | .font key value => key :: value.verbatim
  | .inset key _ | .text key _ | .autoresizing key _ => [key]
  | .inputTraits traits => traits.entries.flatMap fun (key, value) => [key, value.raw]
  | .embedded key object => if scope.isExcluded object then [] else [key]
  | .guide .. | .runtime _ | .state _ | .connection _ | .unsupported .. => []

def runtimeTexts : Auxiliary → List String
  | .runtime ⟨keyPath, value⟩ => keyPath.toList ++ value.verbatim
  | _ => []

def Scope.cited? (scope : Scope) (identifier : Option String) : Option Target :=
  identifier.bind fun identifier => yielded (scope.reference identifier)

def Scope.citedTexts (scope : Scope) (identifier : Option String) : List String :=
  (scope.cited? identifier).toList.flatMap Target.verbatim

def outletTexts (scope : Scope) (connection : Connection) : List String :=
  match scope.cited? connection.destination with
  | none => []
  | some target => connection.name.toList ++ target.verbatim

def collectionTexts (scope : Scope) (connection : Connection) : List String :=
  if connection.name = some "gestureRecognizers" then scope.citedTexts connection.destination
  else []

/-- A constant alone is always written, a shift only if it is not zero. -/
def boundTexts (scope : Scope) (constraint : Constraint) : List String :=
  match constraint.secondItem with
  | none => constraint.constant.toList
  | some second =>
      scope.citedTexts second ++
        (constraint.constant.filter fun constant => !isZero constant).toList

def constraintTexts (scope : Scope) (index : Nat) (constraint : Constraint) : List String :=
  if (yielded (activation scope index constraint)).isSome then
    scope.citedTexts constraint.firstItem ++ boundTexts scope constraint
  else []

theorem cited?_eq {scope : Scope} {destination : String} {reached : Option Target}
    (found : scope.reference destination = .ok reached) :
    scope.cited? (some destination) = reached := by
  rw [Scope.cited?, Option.bind_some, found]
  rfl

theorem citedTexts_eq {scope : Scope} {destination : String} {target : Target}
    (found : scope.reference destination = .ok (some target)) :
    scope.citedTexts (some destination) = target.verbatim := by
  simp [Scope.citedTexts, cited?_eq found]

section Passing

variable {scope : Scope} {index : Nat} {object : Object} {statements : List Statement}
  (names : scope.SingleNames)
include names

theorem attributeStatement_carries {property : Property}
    (member : property ∈ Property.ofKind object.kind)
    (done : attributeStatement index object property = .ok statements) :
    Carries scope statements (attributeTexts object property) := by
  unfold attributeStatement at done
  unfold attributeTexts
  cases present : object.attribute? property.key with
  | none =>
      simp only [present] at done
      cases done
      exact .nothing
  | some value =>
      simp only [present] at done
      by_cases default : property.default = some value.raw
      · simp only [if_pos default] at done ⊢
        cases done
        exact .nothing
      · simp only [if_neg default] at done ⊢
        obtain ⟨code, coded, done⟩ := bind_ok done
        cases done
        apply Carries.one
        rw [singleLine_literal names, and_iff_right (Property.singleLine_name member)]
        exact scalar_singleLine coded

theorem frameStatement_carries (done : frameStatement index object = .ok statements) :
    Carries scope statements (frameTexts object) := by
  unfold frameStatement at done
  simp only at done
  split at done
  -- The search for the first frame is the one by `frame?`, up to unfolding.
  · rename_i absent
    have first : object.auxiliaries.findSome? frame? = none := absent
    cases done
    rw [frameTexts, first]
    exact .nothing
  · rename_i frame present
    have first : object.auxiliaries.findSome? frame? = some frame := present
    obtain ⟨code, coded, done⟩ := bind_ok done
    cases done
    rw [frameTexts, first]
    apply Carries.one
    rw [singleLine_literal names, rect_singleLine coded]
    simp +decide

theorem assigned_carries {result : Except GenerationError String} {property key : String}
    {texts : List String} (named : SingleLine property ↔ SingleLine key)
    (encoded : ∀ code, result = .ok code → (SingleLine code ↔ AllSingle texts))
    (done : (result.map fun code => [Statement.assign index property (.literal code)]) =
      .ok statements) :
    Carries scope statements (key :: texts) := by
  obtain ⟨code, found, rfl⟩ := map_ok done
  apply Carries.one
  rw [singleLine_literal names, named, encoded code found, Text.allSingle_cons]

theorem valueStatements_carries {kind : Kind} {value : Auxiliary}
    (done : valueStatements scope index kind value = .ok statements) :
    Carries scope statements (valueTexts scope value) := by
  have always : ∀ {code : String}, SingleLine code → (SingleLine code ↔ AllSingle []) :=
    fun single => iff_of_true single Text.allSingle_nil
  cases value with
  | color key value =>
      exact assigned_carries names Iff.rfl (fun code coded => color_singleLine coded) done
  | rect key value =>
      simp only [valueStatements] at done
      simp only [valueTexts]
      split at done
      · rename_i frame
        cases done
        rw [if_pos frame]
        exact .nothing
      · rename_i other
        rw [if_neg other]
        exact assigned_carries names Iff.rfl (fun code coded => rect_singleLine coded) done
  | size key value =>
      exact assigned_carries names Iff.rfl (fun code coded => size_singleLine coded) done
  | point key value =>
      exact assigned_carries names Iff.rfl (fun code coded => point_singleLine coded) done
  | inset key value =>
      exact assigned_carries names Iff.rfl
        (fun code coded => always (inset_singleLine coded)) done
  | font key value =>
      exact assigned_carries names (singleLine_fontProperty kind key)
        (fun code coded => font_singleLine coded) done
  | text key text =>
      cases done
      apply Carries.one
      simp [singleLine_literal names, valueTexts]
  | autoresizing key flags =>
      exact assigned_carries names Iff.rfl
        (fun code coded => always (autoresizing_singleLine coded)) done
  | inputTraits traits =>
      -- One assignment for each trait, flags and numbers among them.
      cases done
      apply Carries.flatMap
      intro entry _
      apply Carries.one
      simp [singleLine_literal names, singleLine_inputTrait, traitCode_singleLine]
  | embedded key child =>
      simp only [valueStatements] at done
      simp only [valueTexts]
      split at done
      · rename_i excluded
        cases done
        rw [if_pos excluded]
        exact .nothing
      · rename_i declared
        cases done
        rw [if_neg declared]
        apply Carries.one
        simp [singleLine_reference names, Target.verbatim]
  | guide key identifier =>
      cases done
      exact .nothing
  | runtime assignment =>
      cases done
      exact .nothing
  | state state =>
      cases done
      exact .nothing
  | connection connection =>
      cases done
      exact .nothing
  | unsupported tag key =>
      cases done
      exact .nothing

theorem runtimeStatements_carries {value : Auxiliary}
    (done : runtimeStatements index value = .ok statements) :
    Carries scope statements (runtimeTexts value) := by
  unfold runtimeStatements at done
  split at done
  · rename_i keyPath value
    obtain ⟨property, named, done⟩ := bind_ok done
    obtain ⟨code, coded, done⟩ := bind_ok done
    cases done
    apply Carries.one
    simp [runtimeTexts, singleLine_literal names, required_ok named, runtimeCode_singleLine coded]
  · rename_i other
    cases done
    cases value
    case runtime assignment => exact absurd rfl (other assignment.keyPath assignment.value)
    all_goals exact .nothing

theorem call_singleLine (state : ControlState) {method : String} (code : String)
    (single : SingleLine method) :
    SingleLine ((Statement.call index method (code ++ ", for: ." ++ state.name)).write scope) ↔
      SingleLine code := by
  have named : SingleLine state.name := by cases state <;> decide
  simp +decide [singleLine_call names, single, named]

/-- Calls that pass literals take nothing over. -/
theorem calls_carry (state : ControlState) {texts : List String} {method : String}
    {quote : String → String} (single : SingleLine method)
    (quoted : ∀ text, SingleLine (quote text)) :
    Carries scope (texts.map fun text =>
      .call index method (quote text ++ ", for: ." ++ state.name)) [] := by
  apply iff_of_true _ Text.allSingle_nil
  intro line member
  simp only [List.map_map, List.mem_map, Function.comp_apply] at member
  obtain ⟨text, _, rfl⟩ := member
  exact (call_singleLine names state (quote text) single).mpr (quoted text)

theorem colored_carries (state : ControlState) {value : Option Color} {method : String}
    (single : SingleLine method)
    (done : (match value with
      | none => .ok []
      | some value => (color value).map fun code =>
          [.call index method (code ++ ", for: ." ++ state.name)]) = Except.ok statements) :
    Carries scope statements (value.toList.flatMap Color.verbatim) := by
  cases value with
  | none =>
      cases done
      exact .nothing
  | some value =>
      obtain ⟨code, coded, rfl⟩ := map_ok done
      apply Carries.one
      rw [call_singleLine names state code single, color_singleLine coded]
      simp

theorem stateStatements_carries {state : ButtonState}
    (done : stateStatements index state = .ok statements) :
    Carries scope statements state.verbatim := by
  obtain ⟨colors, colored, done⟩ := bind_ok done
  obtain ⟨shadows, shadowed, done⟩ := bind_ok done
  cases done
  have titles : Carries scope (state.title.toList.map fun title =>
      .call index "setTitle" (string title ++ ", for: ." ++ state.state.name)) [] :=
    calls_carry names state.state (by decide) singleLine_string
  have images : Carries scope (state.image.toList.map fun name =>
      .call index "setImage" (image name ++ ", for: ." ++ state.state.name)) [] :=
    calls_carry names state.state (by decide) singleLine_image
  have backgrounds : Carries scope (state.backgroundImage.toList.map fun name =>
      .call index "setBackgroundImage" (image name ++ ", for: ." ++ state.state.name)) [] :=
    calls_carry names state.state (by decide) singleLine_image
  rw [ButtonState.verbatim, List.flatMap_append]
  exact (((titles.append images).append backgrounds).append
    (colored_carries names state.state (by decide) colored)).append
    (colored_carries names state.state (by decide) shadowed)

theorem outletStatements_carries {connection : Connection}
    (done : outletStatements scope index connection = .ok statements) :
    Carries scope statements (outletTexts scope connection) := by
  obtain ⟨property, named, done⟩ := bind_ok done
  obtain ⟨destination, leads, done⟩ := bind_ok done
  obtain ⟨reached, found, done⟩ := bind_ok done
  cases done
  rw [outletTexts, required_ok leads, cited?_eq found]
  cases reached with
  | none => exact .nothing
  | some target =>
      apply Carries.one
      simp [singleLine_reference names, required_ok named]

end Passing

section Objects

variable (scope : Scope) (index : Nat) (object : Object)

def configurationTexts : List String :=
  object.className :: (initializerTexts object ++
    ((Property.ofKind object.kind).flatMap (attributeTexts object) ++ frameTexts object ++
      object.auxiliaries.flatMap (valueTexts scope) ++ object.auxiliaries.flatMap runtimeTexts ++
      (if object.kind = .button then object.states else []).flatMap ButtonState.verbatim ++
      (object.connections.filter fun connection => connection.kind = .outlet).flatMap
        (outletTexts scope)))

def subviewTexts : List String :=
  (object.connections.filter fun connection => connection.kind = .outletCollection).flatMap
    (collectionTexts scope)

def verbatim : List String :=
  configurationTexts scope object ++ subviewTexts scope object ++
    object.constraints.flatMap (constraintTexts scope index)

variable {scope index object}

theorem firstTarget_carries {constraint : Constraint} {target : Target}
    (start : firstTarget scope index constraint = .ok (some target)) :
    AllSingle target.verbatim ↔ AllSingle (scope.citedTexts constraint.firstItem) := by
  unfold firstTarget at start
  split at start
  · rename_i own
    cases start
    rw [own]
    rfl
  · rename_i identifier named
    rw [named, citedTexts_eq start]

variable (names : scope.SingleNames)
include names

theorem configuration_carries {statements : List Statement}
    (done : configuration scope index object = .ok statements) :
    Carries scope statements (configurationTexts scope object) := by
  obtain ⟨attributes, frame, values, runtime, states, outlets, attributesDone, frameDone,
    valuesDone, runtimeDone, statesDone, outletsDone, rfl⟩ := configuration_parts done
  have declared : Carries scope [.declare index object.className (initializer object)]
      (object.className :: initializerTexts object) := by
    apply Carries.one
    rw [singleLine_declare names, initializer_singleLine, Text.allSingle_cons]
  have attributesCarry := Carries.gather
    (fun property member _ => attributeStatement_carries names member) attributesDone
  have valuesCarry := Carries.gather (fun _ _ _ => valueStatements_carries names) valuesDone
  have runtimeCarry := Carries.gather (fun _ _ _ => runtimeStatements_carries names) runtimeDone
  have statesCarry := Carries.gather (fun _ _ _ => stateStatements_carries names) statesDone
  have outletsCarry := Carries.gather (fun _ _ _ => outletStatements_carries names) outletsDone
  -- Texts stand in the order of the parts they go into.
  exact declared.append (((((attributesCarry.append (frameStatement_carries names frameDone)).append
    valuesCarry).append runtimeCarry).append statesCarry).append outletsCarry)

theorem collectionYield_carries (connection : Connection) :
    Carries scope (collectionYield scope index object connection).statements
      (collectionTexts scope connection) := by
  have collected := collectionYield_collected scope index object connection
  generalize collectionYield scope index object connection = outcome at collected
  unfold collectionTexts
  cases collected with
  | added named leads found =>
      apply Carries.one
      rw [if_pos named, leads, citedTexts_eq found, singleLine_add names]
      exact and_iff_right (by decide)
  | silent named leads undeclared =>
      rw [if_pos named, leads, Scope.citedTexts, cited?_eq undeclared]
      exact .nothing
  | missing named nowhere =>
      rw [if_pos named, nowhere]
      exact .nothing
  | dangling named leads unknown =>
      rw [if_pos named, leads, Scope.citedTexts, Scope.cited?, Option.bind_some, unknown]
      exact .nothing
  | unsupported other =>
      rw [if_neg other]
      exact .nothing

theorem subviews_carries :
    Carries scope (subviews scope index object).statements (subviewTexts scope object) := by
  have added : Carries scope (adoptions scope index object) [] := by
    apply iff_of_true _ Text.allSingle_nil
    intro line member
    simp only [adoptions, List.map_map, List.mem_map, Function.comp_apply] at member
    obtain ⟨child, _, rfl⟩ := member
    rw [singleLine_add names]
    exact ⟨by split <;> decide, Text.allSingle_nil⟩
  exact added.append (Carries.concat fun connection _ => collectionYield_carries names connection)

theorem bound?_carries {constraint : Constraint} {name : String} {first : Anchor} {bound : Bound}
    (done : bound? scope constraint name first = .ok (some bound)) :
    AllSingle (bound.arguments scope constraint.relation) ↔
      AllSingle (boundTexts scope constraint) := by
  unfold bound? at done
  split at done
  · rename_i alone
    split at done
    · cases done
      rw [boundTexts, alone, fixed_singleLine]
      cases constraint.constant with
      | none => simp +decide
      | some constant => simp
    · cases done
  · rename_i identifier named
    obtain ⟨reached, found, done⟩ := bind_ok done
    split at done
    · cases done
    · obtain ⟨secondAnchor, anchored, done⟩ := bind_ok done
      obtain ⟨multiplier, _, done⟩ := bind_ok done
      cases done
      rw [boundTexts, named, relative_singleLine names _ _ _ _ (anchor_singleLine anchored)]
      simp only [citedTexts_eq found, Text.allSingle_append]

theorem activation_carries {constraint : Constraint} {statement : Statement}
    (done : activation scope index constraint = .ok (some statement)) :
    SingleLine (statement.write scope) ↔ AllSingle (constraintTexts scope index constraint) := by
  have active : (yielded (activation scope index constraint)).isSome = true := by
    rw [yielded_eq_some.mpr done]
    rfl
  rw [constraintTexts, if_pos active, Text.allSingle_append]
  obtain ⟨reached, start, done⟩ := bind_ok done
  split at done
  · cases done
  · obtain ⟨name, _, done⟩ := bind_ok done
    obtain ⟨first, anchored, done⟩ := bind_ok done
    obtain ⟨bound, bounded, done⟩ := bind_ok done
    cases bound with
    | none => cases done
    | some bound =>
        cases done
        rw [singleLine_activate names _ _ _ _ (anchor_singleLine anchored)]
        exact and_congr (firstTarget_carries start) (bound?_carries names bounded)

theorem constraints_carries :
    Carries scope (constraints scope index object).statements
      (object.constraints.flatMap (constraintTexts scope index)) := by
  apply Carries.concat
  intro constraint _
  rw [constraintYield_statements]
  cases found : yielded (activation scope index constraint) with
  | none =>
      rw [constraintTexts, found]
      exact .nothing
  | some statement => exact .one (activation_carries names (yielded_eq_some.mp found))

end Objects

end Xib.Swift
