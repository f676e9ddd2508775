import Xib.Proofs.Build
import Xib.Proofs.References

/-!
# The order of declarations

What an object contains is declared before the object, and subviews, gesture recognizers and
constraints are written after all declarations. An outlet is different: it is written with the
object that has it, but leads anywhere in the document. If it leads to an object discovered earlier
it names a variable that is declared only further down, and this is the only way to such a line.
-/

namespace Xib.Swift

set_option autoImplicit false

def DeclaredAbove (lines : List Line) (position index : Nat) : Prop :=
  ∃ above line, above < position ∧ lines[above]? = some line ∧
    line.statement.declared? = some index

def InDependencyOrder (lines : List Line) : Prop :=
  ∀ position line, lines[position]? = some line →
    ∀ index ∈ line.statement.mentions, index ≠ line.owner → DeclaredAbove lines position index

/-- A declared object has an outlet that sets a property to a target. -/
def Scope.HasOutlet (scope : Scope) (owner : Nat) (property : String) (target : Target) : Prop :=
  ∃ object connection destination,
    scope.document.object? owner = some object ∧ scope.isExcluded owner = false ∧
    connection ∈ object.connections ∧ connection.kind = .outlet ∧
    connection.name = some property ∧ connection.destination = some destination ∧
    scope.reference destination = .ok (some target)

/-- A line sets an outlet to an object, or to a guide of one, that was discovered before its own. -/
def Line.LeadsBack (scope : Scope) (line : Line) (index : Nat) : Prop :=
  ∃ property target, scope.HasOutlet line.owner property target ∧
    line.statement = .assign line.owner property (.reference target) ∧
    target.object? = some index ∧ index < line.owner

namespace Plan

variable {plan : Plan} {position : Nat} {line : Line}

theorem getElem?_lines (here : plan.lines[position]? = some line) :
    plan.configuration[position]? = some line ∨
      plan.configuration.length ≤ position ∧ line ∈ plan.subviews ++ plan.constraints := by
  rw [lines, List.append_assoc] at here
  rcases Nat.lt_or_ge position plan.configuration.length with inside | beyond
  · rw [List.getElem?_append_left inside] at here
    exact .inl here
  · rw [List.getElem?_append_right beyond] at here
    exact .inr ⟨beyond, List.mem_of_getElem? here⟩

theorem getElem?_lines_of_configuration (here : plan.configuration[position]? = some line) :
    plan.lines[position]? = some line := by
  rcases List.getElem?_eq_some_iff.mp here with ⟨bounded, _⟩
  rw [lines, List.append_assoc, List.getElem?_append_left bounded]
  exact here

end Plan

section

variable {document : Document} {options : Options} {position index : Nat} {line : Line}

theorem exists_declaration (declared : (finalScope document options).isExcluded index = false) :
    ∃ (above : Nat) (object : Object),
      (Plan.ofDocument document options).configuration[above]? =
        some (declaration index object) := by
  rcases exists_of_declared declared with ⟨object, found⟩
  rw [finalScope_document] at found
  rcases List.mem_iff_getElem?.mp (declaration_mem found declared) with ⟨above, there⟩
  exact ⟨above, object, there⟩

theorem declaredAbove_of_later (declared : (finalScope document options).isExcluded index = false)
    (beyond : (Plan.ofDocument document options).configuration.length ≤ position) :
    DeclaredAbove (Plan.ofDocument document options).lines position index := by
  rcases exists_declaration declared with ⟨above, object, there⟩
  rcases List.getElem?_eq_some_iff.mp there with ⟨bounded, _⟩
  exact ⟨above, _, by omega, Plan.getElem?_lines_of_configuration there, rfl⟩

/-- Going down the configuration, owners were discovered earlier and earlier. -/
theorem owner_le_of_above {above : Nat} {other : Line}
    (there : (Plan.ofDocument document options).configuration[above]? = some other)
    (here : (Plan.ofDocument document options).configuration[position]? = some line)
    (before : above < position) : line.owner ≤ other.owner := by
  have owners := passLines_owners (finalScope document options)
    (configurationYield (finalScope document options))
  rw [← configuration_eq_passLines, List.pairwise_iff_getElem] at owners
  rcases List.getElem?_eq_some_iff.mp there with ⟨otherBounded, rfl⟩
  rcases List.getElem?_eq_some_iff.mp here with ⟨bounded, rfl⟩
  exact owners above position otherBounded bounded before

/-- Within the configuration exactly the objects discovered later are declared above a line. -/
theorem declaredAbove_iff
    (here : (Plan.ofDocument document options).configuration[position]? = some line)
    (declared : (finalScope document options).isExcluded index = false)
    (other : index ≠ line.owner) :
    DeclaredAbove (Plan.ofDocument document options).lines position index ↔ line.owner < index := by
  rcases List.getElem?_eq_some_iff.mp here with ⟨bounded, _⟩
  constructor
  · rintro ⟨above, declaring, before, there, declares⟩
    rcases Plan.getElem?_lines there with configured | ⟨beyond, _⟩
    · have same := owner_of_declared (List.mem_of_getElem? configured) declares
      have order := owner_le_of_above configured here before
      omega
    · omega
  · intro later
    rcases exists_declaration declared with ⟨above, object, there⟩
    refine ⟨above, _, ?_, Plan.getElem?_lines_of_configuration there, rfl⟩
    rcases Nat.lt_trichotomy above position with before | same | after
    · exact before
    · rw [same, here] at there
      rw [Option.some.inj there] at other
      exact absurd rfl other
    · have order : index ≤ line.owner := owner_le_of_above here there after
      omega

theorem lt_of_embedded {registry : Registry} {source : String} {owner : Nat} {object : Object}
    {key : String} (built : Document.ofText registry source = .ok document)
    (found : document.object? owner = some object)
    (owned : .embedded key index ∈ object.auxiliaries) : owner < index := by
  rcases Document.ofText_ok built with ⟨root, _, made⟩
  rcases Document.ofElement_forest made with ⟨forest, _⟩
  have embedded : index ∈ object.owned :=
    List.mem_append_right _ (List.mem_filterMap.mpr ⟨.embedded key index, owned, rfl⟩)
  have member : (object, owner) ∈ document.objects.zipIdx 0 :=
    List.mem_zipIdx_iff_getElem?.mpr found
  exact (forest.owned_bounded member index embedded).1

/-- A configuration line that names another object has it embedded or sets an outlet. -/
theorem Configures.lt_or_outlet {scope : Scope} {owner : Nat} {object : Object}
    {statement : Statement} (configures : Configures scope owner object statement)
    (found : scope.document.object? owner = some object)
    (declared : scope.isExcluded owner = false)
    (embedded : ∀ key child, .embedded key child ∈ object.auxiliaries → owner < child)
    (mentioned : index ∈ statement.mentions) (other : index ≠ owner) :
    owner < index ∨ ∃ property target, scope.HasOutlet owner property target ∧
      statement = .assign owner property (.reference target) ∧ target.object? = some index := by
  cases configures with
  | plain plain =>
      cases plain <;> exact absurd (List.mem_singleton.mp mentioned) other
  | @embedded key child owned _ =>
      rcases List.mem_cons.mp mentioned with same | targeted
      · exact absurd same other
      · rw [List.mem_singleton.mp targeted]
        exact .inl (embedded key child owned)
  | @outlet connection property destination target connected kind named leads reached =>
      rcases List.mem_cons.mp mentioned with same | targeted
      · exact absurd same other
      · rcases List.mem_filterMap.mp targeted with ⟨reference, member, concerned⟩
        rw [List.mem_singleton.mp member] at concerned
        exact .inr ⟨property, target, ⟨object, connection, destination, found, declared, connected,
          kind, named, leads, reached⟩, rfl, concerned⟩

theorem not_leadsBack_of_later {scope : Scope}
    (later : line ∈ (Plan.ofDocument document options).subviews ++
      (Plan.ofDocument document options).constraints) : ¬line.LeadsBack scope index := by
  rintro ⟨property, target, _, assigns, _⟩
  rcases mem_later later with ⟨object, _, _, written⟩
  rw [assigns] at written
  rcases written with wires | activates
  · cases wires
  · cases activates

theorem outlet_mem {owner : Nat} {property : String} {target : Target}
    (outlet : (finalScope document options).HasOutlet owner property target) :
    ⟨owner, .assign owner property (.reference target)⟩ ∈
      (Plan.ofDocument document options).configuration := by
  obtain ⟨object, connection, destination, found, declared, connected, kind, named, leads,
    reached⟩ := outlet
  rw [configuration_eq_passLines]
  refine mem_passLines.mpr ⟨object, found, declared, ?_⟩
  rw [finalScope_document] at found
  rcases (declared_iff found).mp declared with ⟨_, statements, configured⟩
  rw [configurationYield, configured]
  exact configuration_outlet configured connected kind named leads reached

theorem declaredAbove_iff_not_leadsBack {registry : Registry} {source : String}
    (built : Document.ofText registry source = .ok document)
    (here : (Plan.ofDocument document options).lines[position]? = some line)
    (mentioned : index ∈ line.statement.mentions) (other : index ≠ line.owner) :
    DeclaredAbove (Plan.ofDocument document options).lines position index ↔
      ¬line.LeadsBack (finalScope document options) index := by
  have declared := mentions_declared (List.mem_of_getElem? here) index mentioned
  rcases Plan.getElem?_lines here with configured | ⟨beyond, later⟩
  · rw [declaredAbove_iff configured declared other]
    constructor
    · rintro after ⟨_, _, _, _, _, before⟩
      omega
    · intro forward
      obtain ⟨object, found, ownDeclared, first | configures⟩ :=
        mem_configuration (List.mem_of_getElem? configured)
      · rw [first] at mentioned
        exact absurd (List.mem_singleton.mp mentioned) other
      · have known : (finalScope document options).document.object? line.owner = some object := by
          rw [finalScope_document]
          exact found
        have embedded : ∀ key child, .embedded key child ∈ object.auxiliaries →
            line.owner < child :=
          fun key child owned => lt_of_embedded built found owned
        rcases configures.lt_or_outlet known ownDeclared embedded mentioned other with
          after | ⟨property, target, outlet, assigns, concerned⟩
        · exact after
        · by_contra before
          exact forward ⟨property, target, outlet, assigns, concerned, by omega⟩
  · constructor
    · exact fun _ => not_leadsBack_of_later later
    · exact fun _ => declaredAbove_of_later declared beyond

end

/-- For any text and any registry: what a line names is declared above the line, except where the
line sets an outlet to something discovered before its own object. So the lines are in order exactly
if no declared object has an outlet to an object discovered before it. -/
theorem declared_above_unless_outlet_leads_back (registry : Registry) (source : String)
    (document : Document) (built : Document.ofText registry source = .ok document)
    (options : Options) :
    let scope := (settled document options).1
    let lines := (Plan.ofDocument document options).lines
    (Code.ofDocument document options).lines = lines.map (fun line =>
      Code.indented options.indent (line.statement.write scope)) ∧
    (∀ position line, lines[position]? = some line →
      ∀ index ∈ line.statement.mentions, index ≠ line.owner →
        (DeclaredAbove lines position index ↔ ¬line.LeadsBack scope index)) ∧
    (InDependencyOrder lines ↔
      ∀ owner property target index, scope.HasOutlet owner property target →
        target.object? = some index → owner ≤ index) := by
  intro scope lines
  refine ⟨ofDocument_lines document options, ?_, ?_, ?_⟩
  · intro position line here index mentioned other
    exact declaredAbove_iff_not_leadsBack built here mentioned other
  · intro ordered owner property target index outlet concerned
    by_contra forward
    have before : index < owner := by omega
    rcases List.mem_iff_getElem?.mp (outlet_mem outlet) with ⟨position, configured⟩
    have here := Plan.getElem?_lines_of_configuration configured
    have mentioned : index ∈ Statement.mentions (.assign owner property (.reference target)) :=
      List.mem_append_right _ (List.mem_filterMap.mpr ⟨target, List.mem_cons_self, concerned⟩)
    have other : index ≠ owner := by omega
    have above := ordered position _ here index mentioned other
    refine (declaredAbove_iff_not_leadsBack built here mentioned other).mp above ?_
    exact ⟨property, target, outlet, rfl, concerned, before⟩
  · intro forward position line here index mentioned other
    rw [declaredAbove_iff_not_leadsBack built here mentioned other]
    rintro ⟨property, target, outlet, _, concerned, before⟩
    have after := forward line.owner property target index outlet concerned
    omega

def delegateSource : String :=
  "<view id='a'><subviews><textField id='t'><connections>" ++
    "<outlet property='delegate' destination='a' id='o'/>" ++
    "</connections></textField></subviews></view>"

def delegateLines : List Line :=
  [⟨1, .declare 1 "UITextField" ""⟩, ⟨1, .assign 1 "delegate" (.reference (.object 0))⟩,
    ⟨0, .declare 0 "UIView" ""⟩, ⟨0, .add 0 "addSubview" (.object 1)⟩]

theorem exists_delegateLines :
    ∃ document, Document.ofText .cocoaTouch delegateSource = .ok document ∧
      (Plan.ofDocument document .standard).lines = delegateLines := by
  have planned : (Document.ofText .cocoaTouch delegateSource).toOption.map
      (fun document => (Plan.ofDocument document .standard).lines) = some delegateLines := by
    decide +kernel
  cases built : Document.ofText .cocoaTouch delegateSource with
  | error reason =>
      rw [built] at planned
      cases planned
  | ok document =>
      rw [built] at planned
      exact ⟨document, rfl, Option.some.inj planned⟩

theorem delegate_not_declaredAbove : ¬DeclaredAbove delegateLines 1 0 := by
  rintro ⟨above, line, before, there, declares⟩
  have first : above = 0 := by omega
  subst first
  cases there
  cases declares

theorem delegate_leads_back :
    ∃ document, Document.ofText .cocoaTouch delegateSource = .ok document ∧
      (Plan.ofDocument document .standard).lines = delegateLines ∧
      (∃ line, delegateLines[1]? = some line ∧ line.LeadsBack (settled document .standard).1 0) ∧
      DeclaredAbove delegateLines 3 1 := by
  rcases exists_delegateLines with ⟨document, built, lines⟩
  have above := (declared_above_unless_outlet_leads_back _ _ _ built .standard).2.1
  rw [lines] at above
  refine ⟨document, built, lines, ⟨_, rfl, ?_⟩, ?_⟩
  · by_contra forward
    have declared := (above 1 _ rfl 0 (by decide) (by decide)).mpr forward
    exact delegate_not_declaredAbove declared
  · refine (above 3 _ rfl 1 (by decide) (by decide)).mpr ?_
    rintro ⟨_, _, _, assigns, _⟩
    cases assigns

theorem delegate_used_before_declaration :
    ¬∀ registry source document, Document.ofText registry source = .ok document →
      ∀ options, InDependencyOrder (Plan.ofDocument document options).lines := by
  intro ordered
  rcases exists_delegateLines with ⟨document, built, lines⟩
  have order := ordered .cocoaTouch delegateSource document built .standard
  rw [lines] at order
  exact delegate_not_declaredAbove (order 1 _ rfl 0 (by decide) (by decide))

end Xib.Swift
