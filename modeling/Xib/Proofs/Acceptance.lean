import Xib.Proofs.Build
import Xib.Proofs.Outline

/-!
# What a build accepts

A build goes through the outline of an element tree from the front. After some marks it has either
stopped at the first one that violates something, or reached a document that has an object for every
element so far and whose taken identifiers are exactly those so far. Everything else about the
document is irrelevant for how the build goes on, so this is the invariant.
-/

namespace Xib

set_option autoImplicit false

open Xml (Element)

namespace Document

/-- A document that has been built from some marks, as far as building on is concerned. -/
structure Reached (registry : Registry) (marks : List Mark) (document : Document) : Prop where
  wellFormed : WellFormed registry marks
  taken : ∀ identifier, document.isTaken identifier = true ↔ identifier ∈ Mark.identifiers marks
  size : document.size = (Mark.elements marks).length

/-- What a build can come to after some marks; `view` finds the document in its result. -/
def Outcome {α : Type} (registry : Registry) (marks : List Mark) (view : α → Document) :
    Except BuildError α → Prop
  | .ok value => Reached registry marks (view value)
  | .error error => FirstViolation registry marks error

section Steps

variable {registry : Registry} {marks : List Mark} {document : Document}

theorem Reached.empty (registry : Registry) : Reached registry [] .empty :=
  ⟨.nil, fun _ => by simp [isTaken, Document.empty, Table.empty, Table.contains, Table.keys,
    Mark.identifiers], rfl⟩

theorem Reached.congr {other : Document} (reached : Reached registry marks document)
    (size : other.size = document.size) (identifiers : other.identifiers = document.identifiers)
    (guides : other.guides = document.guides) : Reached registry marks other := by
  refine ⟨reached.wellFormed, fun identifier => ?_, size.trans reached.size⟩
  rw [← reached.taken identifier, isTaken, isTaken, identifiers, guides]

theorem Reached.snoc {mark : Mark} {after : Document} (reached : Reached registry marks document)
    (known : ∀ element ∈ mark.element?, registry.contains element.name = true)
    (fresh : ∀ identifier ∈ mark.identifier?, document.isTaken identifier = false)
    (taken : ∀ identifier, after.isTaken identifier = true ↔
      document.isTaken identifier = true ∨ mark.identifier? = some identifier)
    (size : after.size = document.size + mark.element?.toList.length) :
    Reached registry (marks ++ [mark]) after := by
  refine ⟨reached.wellFormed.snoc known ?_, ?_, ?_⟩
  · intro identifier carried inside
    have repeated := (reached.taken identifier).mpr inside
    rw [fresh identifier carried] at repeated
    cases repeated
  · intro identifier
    rw [taken identifier, reached.taken identifier, Mark.identifiers_append,
      Mark.identifiers_cons]
    simp [Mark.identifiers]
  · rw [size, reached.size, Mark.elements_append, Mark.elements_cons]
    simp [Mark.elements]

theorem Reached.push (reached : Reached registry marks document) (kind : Kind)
    (parent : Option Nat) {element : Element} (known : registry.contains element.name = true) :
    Outcome registry (marks ++ [.object element]) id
      (document.push (.ofElement document.size kind parent element)) := by
  have registered : ∀ other ∈ (Mark.object element).element?,
      registry.contains other.name = true := by
    intro other same
    cases same
    exact known
  have identified : (Object.ofElement document.size kind parent element).identifier =
      (Mark.object element).identifier? := rfl
  unfold Document.push
  rw [identified]
  cases carried : (Mark.object element).identifier? with
  | none =>
      refine reached.snoc registered ?_ ?_ ?_
      · simp [carried]
      · intro identifier
        simp [carried, isTaken]
      · simp [Document.size, Mark.element?]
  | some identifier =>
      simp only
      split
      · rename_i taken
        exact ⟨marks, .object element, [], rfl, reached.wellFormed,
          .object known carried ((reached.taken identifier).mp taken)⟩
      · rename_i free
        refine reached.snoc registered ?_ ?_ ?_
        · simpa [carried] using free
        · intro other
          simp only [id, carried, isTaken, Table.contains_insert, Bool.or_eq_true, beq_iff_eq,
            Option.some.injEq]
          grind
        · simp [Document.size, Mark.element?]

theorem Reached.addGuide (reached : Reached registry marks document) (owner : Nat) (key : String)
    (identifier : Option String) :
    Outcome registry (marks ++ identifier.toList.map .guide) id
      (document.addGuide owner key identifier) := by
  cases identifier with
  | none =>
      rw [Option.toList_none, List.map_nil, List.append_nil]
      exact reached
  | some identifier =>
      simp only [Document.addGuide, registerGuide, Option.toList_some, List.map_cons, List.map_nil]
      split
      · rename_i taken
        exact ⟨marks, .guide identifier, [], rfl, reached.wellFormed,
          .guide ((reached.taken identifier).mp taken)⟩
      · rename_i free
        refine reached.snoc ?_ ?_ ?_ ?_
        · simp [Mark.element?]
        · simpa [Mark.identifier?] using free
        · intro other
          simp only [id, Mark.identifier?, isTaken, Table.contains_insert, Bool.or_eq_true,
            beq_iff_eq, Option.some.injEq]
          grind
        · simp [Document.size, Mark.element?]

section Outcome

variable {α : Type} {view : α → Document} {result : Except BuildError α}

theorem Outcome.ok {value : α} (outcome : Outcome registry marks view result)
    (done : result = .ok value) : Reached registry marks (view value) := by
  rw [done] at outcome
  exact outcome

theorem Outcome.error {error : BuildError} (outcome : Outcome registry marks view result)
    (failed : result = .error error) (more : List Mark) :
    FirstViolation registry (marks ++ more) error := by
  rw [failed] at outcome
  exact FirstViolation.append outcome more

end Outcome

theorem kind?_isSome (registry : Registry) (element : Element) :
    (registry.kind? element).isSome = registry.contains element.name := by
  rw [Registry.kind?, Option.isSome_map]
  exact Table.isSome_get? registry.rules element.name

mutual

theorem visit_outcome {marks : List Mark} {document : Document} (parent : Option Nat)
    (reached : Reached registry marks document) :
    (element : Element) →
      Outcome registry (marks ++ Mark.ofElement registry element) id
        (visit registry parent document element)
  | ⟨name, attributes, text, children⟩ => by
      have known := kind?_isSome registry ⟨name, attributes, text, children⟩
      simp only [visit, Mark.ofElement]
      split
      · rename_i unknown
        rw [unknown] at known
        exact ⟨marks, _, _, rfl, reached.wellFormed, .tag known.symm⟩
      · rename_i kind decided
        rw [decided] at known
        have started := reached.push kind parent known.symm
        rw [List.append_cons]
        split
        · rename_i error failed
          exact started.error failed _
        · rename_i pushed done
          have now : Reached registry _ pushed := started.ok done
          have inner := visitParts_outcome document.size
            (Object.ofElement document.size kind parent
              ⟨name, attributes, text, children⟩).describe .nothing now children
          split
          · rename_i error failed
            rw [failed] at inner
            exact inner
          · rename_i built gathered visited
            apply (inner.ok visited).congr
            · simp [Document.size, Document.modify]
            · rfl
            · rfl

theorem visitAll_outcome {marks : List Mark} {document : Document} (parent : Option Nat)
    (reached : Reached registry marks document) :
    (elements : List Element) →
      Outcome registry (marks ++ Mark.ofAll registry elements) Prod.fst
        (visitAll registry parent document elements)
  | [] => by
      rw [Mark.ofAll, List.append_nil]
      exact reached
  | element :: rest => by
      have first := visit_outcome parent reached element
      rw [Mark.ofAll, ← List.append_assoc, visitAll]
      split
      · rename_i error failed
        exact first.error failed _
      · rename_i middle built
        have now : Reached registry _ middle := first.ok built
        have remaining := visitAll_outcome parent now rest
        split
        · rename_i error failed
          rw [failed] at remaining
          exact remaining
        · rename_i final indices visited
          rw [visited] at remaining
          exact remaining

theorem visitParts_outcome {marks : List Mark} {document : Document} (owner : Nat) (label : String)
    (gathered : Gathered) (reached : Reached registry marks document) :
    (elements : List Element) →
      Outcome registry (marks ++ Mark.ofParts registry elements) Prod.fst
        (visitParts registry owner label document gathered elements)
  | [] => by
      rw [Mark.ofParts, List.append_nil]
      exact reached
  | ⟨name, attributes, text, children⟩ :: rest => by
      rw [Mark.ofParts, ← List.append_assoc, visitParts]
      simp only
      cases place : Place.of registry ⟨name, attributes, text, children⟩ with
      | subviews =>
          have listed := visitAll_outcome (some owner) reached children
          simp only
          split
          · rename_i error failed
            exact listed.error failed _
          · rename_i built indices visited
            exact visitParts_outcome owner label _ (listed.ok visited) rest
      | guide key identifier =>
          have guided := reached.addGuide owner key identifier
          simp only
          split
          · rename_i error failed
            exact guided.error failed _
          · rename_i built added
            exact visitParts_outcome owner label _ (guided.ok added) rest
      | embedded key =>
          have embedded := visit_outcome (some owner) reached ⟨name, attributes, text, children⟩
          simp only
          split
          · rename_i error failed
            exact embedded.error failed _
          · rename_i built visited
            exact visitParts_outcome owner label _ (embedded.ok visited) rest
      | contents =>
          have warned : Reached registry marks (document.warn (Contents.of label
              ⟨name, attributes, text, children⟩).warnings) := reached.congr rfl rfl rfl
          rw [List.append_nil]
          exact visitParts_outcome owner label _ warned rest

end

theorem ofElement_outcome (registry : Registry) (root : Element) :
    Outcome registry (outline registry root) id (ofElement registry root) := by
  have visited := visitAll_outcome none (Reached.empty registry) (topLevel root)
  rw [List.nil_append] at visited
  unfold ofElement
  split
  · rename_i error failed
    rw [failed] at visited
    exact visited
  · rename_i built indices done
    rw [foldl_addRoot]
    exact (visited.ok done).congr rfl rfl rfl

/-- Going through the outline ends with the error of the build, and has then looked at the elements
that the build made objects of. -/
theorem progress_reports (registry : Registry) (root : Element) :
    (∀ error, (progress registry root).error = some error ↔
      ofElement registry root = .error error) ∧
    (progress registry root).elements <+: Mark.elements (outline registry root) ∧
    ∀ document, ofElement registry root = .ok document →
      (progress registry root).elements.length = document.size := by
  have outcome := ofElement_outcome registry root
  have reports : Progress.Reports registry [] (outline registry root) (progress registry root) :=
    Progress.ofMarks_reports .nil (by simp [Mark.identifiers])
  refine ⟨?_, reports.elements, ?_⟩
  · intro error
    constructor
    · intro ended
      have violation := reports.violation error ended
      cases done : ofElement registry root with
      | ok document => exact absurd (outcome.ok done).wellFormed violation.not_wellFormed
      | error other =>
          have failed : FirstViolation registry (outline registry root) other := by
            simpa using outcome.error done []
          rw [violation.unique failed]
    · intro failed
      have violation : FirstViolation registry (outline registry root) error := by
        simpa using outcome.error failed []
      cases ended : (progress registry root).error with
      | none => exact absurd (reports.complete ended).1 violation.not_wellFormed
      | some other => rw [violation.unique (reports.violation other ended)]
  · intro document done
    have reached := outcome.ok done
    cases ended : (progress registry root).error with
    | none =>
        rw [(reports.complete ended).2]
        exact reached.size.symm
    | some error =>
        exact absurd reached.wellFormed (reports.violation error ended).not_wellFormed

end Steps

/-- For any registry and element tree, a build succeeds exactly if the outline of the tree is well
formed, with one object for each structural element, and fails with the error of the first
violation. -/
theorem build_accepts_exactly (registry : Registry) (root : Element) :
    let marks := outline registry root
    let result := ofElement registry root
    ((∃ document, result = .ok document) ↔ WellFormed registry marks) ∧
    (∀ document, result = .ok document → document.size = (Mark.elements marks).length) ∧
    (∀ error, result = .error error ↔ FirstViolation registry marks error) ∧
    (∀ element, element ∈ Mark.elements marks ↔ Structural registry root element) ∧
    (∀ identifier, .guide identifier ∈ marks ↔ GuideIdentifier registry root identifier) ∧
    ∀ source, Element.parse source = .ok root → ofText registry source = result := by
  intro marks result
  have outcome : Outcome registry marks id result := ofElement_outcome registry root
  refine ⟨⟨?_, ?_⟩, ?_, fun error => ⟨?_, ?_⟩, mem_outline_elements, guide_mem_outline, ?_⟩
  · rintro ⟨document, done⟩
    exact (outcome.ok done).wellFormed
  · intro good
    cases done : result with
    | ok document => exact ⟨document, rfl⟩
    | error error =>
        rw [done] at outcome
        exact absurd good outcome.not_wellFormed
  · intro document done
    exact (outcome.ok done).size
  · intro failed
    rw [failed] at outcome
    exact outcome
  · intro violation
    cases done : result with
    | ok document => exact absurd (outcome.ok done).wellFormed violation.not_wellFormed
    | error other =>
        rw [done] at outcome
        rw [violation.unique outcome]
  · intro source parsed
    simp only [ofText, parsed]
    rfl

def leaf (name key value : String) : Element :=
  ⟨name, Table.empty.insert key value, "", []⟩

def guidedView (subviews : List Element) : Element :=
  ⟨"view", Table.empty.insert "id" "a", "",
    [leaf "viewLayoutGuide" "id" "g", leaf "label" "key" "backgroundView",
      ⟨"subviews", .empty, "", subviews⟩]⟩

/-- A subview that repeats the identifier of the guide is refused before an unknown tag after it;
without these two the view is built. -/
theorem guidedView_accepted_or_refused :
    (∃ document, ofElement .cocoaTouch (guidedView [leaf "label" "id" "b"]) = .ok document ∧
      document.size = 3) ∧
    ofElement .cocoaTouch (guidedView [leaf "label" "id" "g", leaf "unknown" "id" "u"]) =
      .error (.duplicateIdentifier "g") := by
  constructor
  · obtain ⟨accepts, sized, _⟩ :=
      build_accepts_exactly .cocoaTouch (guidedView [leaf "label" "id" "b"])
    have good : WellFormed .cocoaTouch
        (outline .cocoaTouch (guidedView [leaf "label" "id" "b"])) :=
      ⟨by decide +kernel, by decide +kernel⟩
    obtain ⟨document, done⟩ := accepts.mpr good
    refine ⟨document, done, ?_⟩
    rw [sized document done]
    rfl
  · obtain ⟨_, _, fails, _⟩ := build_accepts_exactly .cocoaTouch
      (guidedView [leaf "label" "id" "g", leaf "unknown" "id" "u"])
    apply (fails _).mpr
    refine ⟨[.object (guidedView [leaf "label" "id" "g", leaf "unknown" "id" "u"]), .guide "g",
      .object (leaf "label" "key" "backgroundView")], .object (leaf "label" "id" "g"),
      [.object (leaf "unknown" "id" "u")], rfl, ⟨?_, ?_⟩, ?_⟩
    · decide +kernel
    · decide +kernel
    · exact .object (by decide +kernel) (by decide +kernel) (by decide +kernel)

end Document

end Xib
