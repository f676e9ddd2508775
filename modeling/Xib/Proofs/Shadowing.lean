import Xib.Proofs.Lines
import Xib.Proofs.Naming

/-!
# Declarations of reserved names

Reserved names are given out by identifier, while it is the kind of an object that decides whether
it is declared. The two agree on placeholders. Any other object that carries the identifier of the
owner or of the first responder declares a reserved name, and nothing else does: a name that is
searched for is never a reserved one.
-/

namespace Xib.Swift

set_option autoImplicit false

def Line.declaredName? (scope : Scope) (line : Line) : Option String :=
  line.statement.declared?.map scope.nameOf

/-- A line declares the name of the owner or of the first responder, or a keyword. -/
def Line.Shadows (scope : Scope) (line : Line) : Prop :=
  ∃ name, line.declaredName? scope = some name ∧ name ∈ reserved scope.ownerName

def FixesName (ownerName : String) (object : Object) (name : String) : Prop :=
  object.identifier = some ownerIdentifier ∧ name = ownerName ∨
    object.identifier = some firstResponderIdentifier ∧ name = firstResponderName

section

variable {document : Document} {options : Options} {index : Nat} {object : Object}

theorem nameOf_mem_reserved_iff (found : document.object? index = some object) :
    (Scope.initial document options).nameOf index ∈ reserved options.ownerName ↔
      FixesName options.ownerName object
        ((Scope.initial document options).nameOf index) := by
  by_cases free : object.IsUnreserved
  -- A name that was searched for is free, so neither side holds.
  · have outside := nameOf_not_reserved options found free
    constructor
    · intro taken
      exact absurd taken outside
    · rintro (⟨owner, _⟩ | ⟨responder, _⟩)
      · exact absurd owner free.1
      · exact absurd responder free.2
  · constructor
    · intro _
      obtain owner | responder := Object.reserved_cases free
      · exact .inl ⟨owner, nameOf_owner options found owner⟩
      · exact .inr ⟨responder, nameOf_firstResponder options found responder⟩
    · intro _
      exact nameOf_reserved options found free

theorem declaredName?_eq_some {line : Line} {name : String}
    (member : line ∈ (Plan.ofDocument document options).lines)
    (declares : line.declaredName? (finalScope document options) = some name) :
    ∃ object, document.object? line.owner = some object ∧
      (finalScope document options).isExcluded line.owner = false ∧
      line = declaration line.owner object ∧
      name = (Scope.initial document options).nameOf line.owner := by
  obtain ⟨owner, statement⟩ := line
  obtain ⟨object, found, declared, written⟩ := mem_lines member
  obtain ⟨index, declaring, named⟩ := Option.map_eq_some_iff.mp declares
  simp only at written
  cases written with
  | declared =>
      cases declaring
      exact ⟨object, found, declared, rfl, by rw [← finalScope_nameOf, named]⟩
  | configured configures =>
      rw [configures.declared?_eq_none] at declaring
      cases declaring
  | wired wires =>
      rw [wires.declared?_eq_none] at declaring
      cases declaring
  | activated activates =>
      rw [activates.declared?_eq_none] at declaring
      cases declaring

/-- The line that declares an object shadows exactly if the identifier of the object is reserved. -/
theorem declaration_shadows_iff (found : document.object? index = some object) :
    (declaration index object).Shadows (finalScope document options) ↔ ¬object.IsUnreserved := by
  have declares : (declaration index object).declaredName? (finalScope document options) =
      some ((Scope.initial document options).nameOf index) := by
    rw [← finalScope_nameOf]
    rfl
  unfold Line.Shadows
  rw [finalScope_ownerName, declares]
  constructor
  · rintro ⟨name, same, taken⟩ free
    cases same
    exact nameOf_not_reserved options found free taken
  · intro fixed
    exact ⟨_, rfl, nameOf_reserved options found fixed⟩

end

/-- A line declares a reserved name exactly if its object carries the identifier that fixes the
name. So no line does if and only if no declared object carries a reserved identifier. -/
theorem shadowing_iff_reserved_identifier (document : Document) (options : Options) :
    let scope := (settled document options).1
    let plan := Plan.ofDocument document options
    (Code.ofDocument document options).lines = plan.lines.map (fun line =>
      Code.indented options.indent (line.statement.write scope)) ∧
    (∀ line ∈ plan.lines, ∀ name, line.declaredName? scope = some name →
      (∃ rest, line.statement.write scope = "let " ++ name ++ " = " ++ rest) ∧
      ∃ object, document.object? line.owner = some object ∧
        (name ∈ reserved options.ownerName ↔
          FixesName options.ownerName object name)) ∧
    ((∀ line ∈ plan.lines, ¬line.Shadows scope) ↔
      ∀ index object, document.object? index = some object → scope.isExcluded index = false →
        object.IsUnreserved) := by
  intro scope plan
  refine ⟨ofDocument_lines document options, ?_, ?_, ?_⟩
  · intro line member name declares
    obtain ⟨object, found, _, first, named⟩ := declaredName?_eq_some member declares
    constructor
    · refine ⟨object.className ++ "(" ++ initializer object ++ ")", ?_⟩
      rw [first, named, ← finalScope_nameOf]
      simp only [declaration, Statement.write, String.append_assoc]
      rfl
    · rw [named]
      exact ⟨object, found, nameOf_mem_reserved_iff found⟩
  · intro clean index object found declared
    have member : declaration index object ∈ plan.lines :=
      List.mem_append_left _ (List.mem_append_left _ (declaration_mem found declared))
    by_contra fixed
    exact clean _ member ((declaration_shadows_iff found).mpr fixed)
  · rintro free line member ⟨name, declares, taken⟩
    obtain ⟨object, found, declared, first, _⟩ := declaredName?_eq_some member declares
    have shadows : (declaration line.owner object).Shadows scope := by
      rw [← first]
      exact ⟨name, declares, taken⟩
    exact (declaration_shadows_iff found).mp shadows (free line.owner object found declared)

def reservedSource : String :=
  "<view id='-1'><subviews><label id='-2'/></subviews></view>"

def reservedLines : List Line :=
  [⟨1, .declare 1 "UILabel" ""⟩, ⟨0, .declare 0 "UIView" ""⟩, ⟨0, .add 0 "addSubview" (.object 1)⟩]

theorem exists_reservedLines :
    ∃ document, Document.ofText .cocoaTouch reservedSource = .ok document ∧
      (Plan.ofDocument document .standard).lines = reservedLines ∧
      (settled document .standard).1.names = ["fileOwner", "firstResponder"] := by
  have facts : (Document.ofText .cocoaTouch reservedSource).toOption.map (fun document =>
      ((Plan.ofDocument document .standard).lines, (settled document .standard).1.names)) =
      some (reservedLines, ["fileOwner", "firstResponder"]) := by
    decide +kernel
  cases built : Document.ofText .cocoaTouch reservedSource with
  | error reason =>
      rw [built] at facts
      cases facts
  | ok document =>
      rw [built] at facts
      refine ⟨document, rfl, ?_⟩
      simpa [Except.toOption] using facts

/-- The label declares the name of the first responder because it carries the identifier. -/
theorem label_declares_first_responder :
    ∃ document, Document.ofText .cocoaTouch reservedSource = .ok document ∧
      ∃ line ∈ (Plan.ofDocument document .standard).lines,
        line.declaredName? (settled document .standard).1 = some "firstResponder" ∧
        "firstResponder" ∈ reserved "fileOwner" ∧
        ∃ object, document.object? line.owner = some object ∧
          FixesName "fileOwner" object "firstResponder" := by
  obtain ⟨document, built, lines, names⟩ := exists_reservedLines
  have member : ⟨1, .declare 1 "UILabel" ""⟩ ∈ (Plan.ofDocument document .standard).lines := by
    rw [lines]
    exact List.mem_cons_self
  have declares : Line.declaredName? (settled document .standard).1
      ⟨1, .declare 1 "UILabel" ""⟩ = some "firstResponder" := by
    simp [Line.declaredName?, Statement.declared?, Scope.nameOf, names]
  have taken : "firstResponder" ∈ reserved "fileOwner" := by decide
  obtain ⟨_, named, _⟩ := shadowing_iff_reserved_identifier document .standard
  obtain ⟨_, object, found, fixes⟩ := named _ member _ declares
  exact ⟨document, built, _, member, declares, taken, object, found, fixes.mp taken⟩

/-- Not every document that can be built keeps reserved names free. -/
theorem view_declares_owner_name :
    ¬∀ registry source document, Document.ofText registry source = .ok document →
      ∀ options, ∀ line ∈ (Plan.ofDocument document options).lines,
        ¬line.Shadows (settled document options).1 := by
  intro free
  obtain ⟨document, built, lines, names⟩ := exists_reservedLines
  have member : ⟨0, .declare 0 "UIView" ""⟩ ∈ (Plan.ofDocument document .standard).lines := by
    rw [lines]
    simp [reservedLines]
  apply free .cocoaTouch reservedSource document built .standard _ member
  refine ⟨"fileOwner", ?_, ?_⟩
  · simp [Line.declaredName?, Statement.declared?, Scope.nameOf, names]
  · rw [finalScope_ownerName]
    exact List.mem_cons_self

end Xib.Swift
