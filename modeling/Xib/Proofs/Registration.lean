import Xib.Proofs.Build
import Xib.Proofs.Nesting

/-!
# Registering a tag

A build asks its registry in two roles: for the kind of an element that becomes an object, and
whether a keyed child is an object at all. Both times it asks for the tag of an element of the tree
it goes through, so registries that agree on the tags of a tree build the same from it, down to the
warnings and to the first error. Main statement: registering a tag, for the first time or anew,
changes nothing for texts that do not use it (`registration_affects_only_its_tag`).
-/

namespace Xib

set_option autoImplicit false

open Xml (Element)

namespace Registry

/-- The other registry has the same rule for the tag of each of some elements. -/
def AgreesOn (registry : Registry) (elements : List Element) (other : Registry) : Prop :=
  ∀ element ∈ elements, other.rules.get? element.name = registry.rules.get? element.name

variable {registry other : Registry}

theorem AgreesOn.mono {elements more : List Element} (agrees : registry.AgreesOn more other)
    (inside : elements ⊆ more) : registry.AgreesOn elements other := by
  intro element member
  exact agrees element (inside member)

section Tags

variable {element : Element}
  (same : other.rules.get? element.name = registry.rules.get? element.name)
include same

theorem kind?_congr : other.kind? element = registry.kind? element := by
  rw [kind?, kind?, same]

theorem contains_congr : other.contains element.name = registry.contains element.name := by
  rw [contains, contains, ← Table.isSome_get?, ← Table.isSome_get?, same]

/-- Whether a keyed child is embedded or left as contents is told by its own tag. -/
theorem place_congr : Place.of other element = Place.of registry element := by
  rw [Place.of, Place.of, contains_congr same]

end Tags

theorem kind?_register (registry : Registry) (tag : String) (rule : Rule) (element : Element) :
    (registry.register tag rule).kind? element =
      if element.name = tag then some (rule element) else registry.kind? element := by
  rw [kind?, register, Table.get?_insert]
  split <;> rfl

theorem agreesOn_register (registry : Registry) {tag : String} (rule : Rule)
    {elements : List Element} (unused : ∀ element ∈ elements, element.name ≠ tag) :
    registry.AgreesOn elements (registry.register tag rule) := by
  intro element member
  rw [register, Table.get?_insert, if_neg (unused element member)]

end Registry

namespace Document

variable {registry other : Registry}

mutual

/-- Building an element asks a registry for no tag outside of its tree. -/
theorem visit_congr (parent : Option Nat) (document : Document) :
    (element : Element) → registry.AgreesOn element.preorder other →
      visit other parent document element = visit registry parent document element
  | ⟨name, attributes, text, children⟩, agrees => by
      have own := agrees ⟨name, attributes, text, children⟩ List.mem_cons_self
      have inner : registry.AgreesOn (Element.preorderAll children) other :=
        agrees.mono (List.subset_cons_self _ _)
      have parts : ∀ label pushed,
          visitParts other document.size label pushed .nothing children =
            visitParts registry document.size label pushed .nothing children := by
        intro label pushed
        exact visitParts_congr document.size label pushed .nothing children inner
      simp only [visit, Registry.kind?_congr own, parts]

theorem visitAll_congr (parent : Option Nat) (document : Document) :
    (elements : List Element) → registry.AgreesOn (Element.preorderAll elements) other →
      visitAll other parent document elements = visitAll registry parent document elements
  | [], _ => rfl
  | element :: rest, agrees => by
      have first := visit_congr parent document element
        (agrees.mono (List.subset_append_left _ _))
      have later : ∀ built, visitAll other parent built rest =
          visitAll registry parent built rest := by
        intro built
        exact visitAll_congr parent built rest (agrees.mono (List.subset_append_right _ _))
      simp only [visitAll, first, later]

/-- The children of an object are told apart, and built, by their own tags. -/
theorem visitParts_congr (owner : Nat) (label : String) (document : Document)
    (gathered : Gathered) :
    (elements : List Element) → registry.AgreesOn (Element.preorderAll elements) other →
      visitParts other owner label document gathered elements =
        visitParts registry owner label document gathered elements
  | [], _ => rfl
  | ⟨name, attributes, text, children⟩ :: rest, agrees => by
      have tree : registry.AgreesOn
          (Element.preorder ⟨name, attributes, text, children⟩) other :=
        agrees.mono (List.subset_append_left _ _)
      have place := Registry.place_congr (tree _ List.mem_cons_self)
      have listed := visitAll_congr (some owner) document children
        (tree.mono (List.subset_cons_self _ _))
      have embedded := visit_congr (some owner) document ⟨name, attributes, text, children⟩ tree
      have later : ∀ built next, visitParts other owner label built next rest =
          visitParts registry owner label built next rest := by
        intro built next
        exact visitParts_congr owner label built next rest
          (agrees.mono (List.subset_append_right _ _))
      simp only [visitParts, place, listed, embedded, later]

end

end Document

namespace Xml.Element

theorem preorder_subset_all {element : Element} {elements : List Element}
    (member : element ∈ elements) : element.preorder ⊆ preorderAll elements := by
  induction elements with
  | nil => simp at member
  | cons first rest ih =>
      obtain rfl | later := List.mem_cons.mp member
      · exact List.subset_append_left _ _
      · exact List.Subset.trans (ih later) (List.subset_append_right _ _)

theorem preorderAll_children_subset (element : Element) :
    preorderAll element.children ⊆ element.preorder := by
  rw [preorder_eq]
  exact List.subset_cons_self _ _

end Xml.Element

theorem preorderAll_topLevel_subset (root : Element) :
    Element.preorderAll (topLevel root) ⊆ root.preorder := by
  unfold topLevel
  split
  · split
    · rename_i objects found
      have member : objects ∈ root.children := List.mem_of_find?_eq_some found
      exact List.Subset.trans (Element.preorderAll_children_subset objects)
        (List.Subset.trans (Element.preorder_subset_all member)
          (Element.preorderAll_children_subset root))
    · exact List.nil_subset _
  · simp [Element.preorderAll]

namespace Document

variable {registry other : Registry}

theorem ofElement_congr {root : Element} (agrees : registry.AgreesOn root.preorder other) :
    ofElement other root = ofElement registry root := by
  rw [ofElement, ofElement, visitAll_congr none .empty (topLevel root)
    (agrees.mono (preorderAll_topLevel_subset root))]

/-- The tag of some element of a text. A text that is not well formed uses none. -/
def Uses (source tag : String) : Prop :=
  ∃ root, Element.parse source = .ok root ∧ ∃ element ∈ root.preorder, element.name = tag

theorem ofText_register (registry : Registry) {source tag : String} (rule : Rule)
    (unused : ¬Uses source tag) :
    ofText (registry.register tag rule) source = ofText registry source := by
  unfold ofText
  cases parsed : Element.parse source with
  | error fault => rfl
  | ok root =>
      apply ofElement_congr
      apply Registry.agreesOn_register
      intro element member named
      exact unused ⟨root, parsed, element, member, named⟩

theorem ofBytes_register (registry : Registry) {bytes : List Nat} {tag : String} (rule : Rule)
    (unused : ∀ source, Text.Utf8.decode bytes = .ok source → ¬Uses source tag) :
    ofBytes (registry.register tag rule) bytes = ofBytes registry bytes := by
  unfold ofBytes
  cases decoded : Text.Utf8.decode bytes with
  | error fault => rfl
  | ok source => exact ofText_register registry rule (unused source decoded)

/-- Registering a tag changes the kind of the elements that have it, and no other; the result for a
text without such an element is the same document, warnings included, or the same error. -/
theorem registration_affects_only_its_tag (registry : Registry) (tag : String) (kind : Kind) :
    (∀ source, ¬Uses source tag →
      ofText (registry.registerKind tag kind) source = ofText registry source) ∧
    (∀ bytes, (∀ source, Text.Utf8.decode bytes = .ok source → ¬Uses source tag) →
      ofBytes (registry.registerKind tag kind) bytes = ofBytes registry bytes) ∧
    ∀ element, (registry.registerKind tag kind).kind? element =
      if element.name = tag then some kind else registry.kind? element := by
  refine ⟨?_, ?_, ?_⟩
  · intro source unused
    exact ofText_register registry (.fixed kind) unused
  · intro bytes unused
    exact ofBytes_register registry (.fixed kind) unused
  · intro element
    exact Registry.kind?_register registry tag (.fixed kind) element

def headedSource : String :=
  "<view><label key='backgroundView'/><stepper key='tableHeaderView'/></view>"

def headedBytes : List Nat :=
  headedSource.toList.map Char.toNat

theorem headedSource_tags :
    (Element.parse headedSource).toOption.map (fun root => root.preorder.map Element.name) =
      some ["view", "label", "stepper"] := by
  decide +kernel

theorem not_uses_headedSource {tag : String} (absent : tag ∉ ["view", "label", "stepper"]) :
    ¬Uses headedSource tag := by
  rintro ⟨root, parsed, element, member, named⟩
  have tags := headedSource_tags
  rw [parsed] at tags
  have names : root.preorder.map Element.name = ["view", "label", "stepper"] :=
    Option.some.inj tags
  apply absent
  rw [← names, ← named]
  exact List.mem_map_of_mem member

/-- Buttons made cards leave the view as it was, given as text or as bytes, with its unsupported
header; steppers made cards turn the header into an object. -/
theorem headedSource_unaffected_by_buttons :
    ¬Uses headedSource "button" ∧
    ofText (Registry.cocoaTouch.registerKind "button" (.custom "Card")) headedSource =
      ofText .cocoaTouch headedSource ∧
    Text.Utf8.decode headedBytes = .ok headedSource ∧
    ofBytes (Registry.cocoaTouch.registerKind "button" (.custom "Card")) headedBytes =
      ofBytes .cocoaTouch headedBytes ∧
    (ofText .cocoaTouch headedSource).toOption.map (fun document =>
      (document.size, document.warnings)) =
      some (2, [.unsupported "<view>" "stepper key=tableHeaderView"]) ∧
    (ofText (Registry.cocoaTouch.registerKind "stepper" (.custom "Card")) headedSource).toOption.map
      (fun document => (document.size, document.warnings)) = some (3, []) := by
  have unused : ¬Uses headedSource "button" := not_uses_headedSource (by decide)
  have decoded : Text.Utf8.decode headedBytes = .ok headedSource := by
    have read : (Text.Utf8.decode headedBytes).toOption = some headedSource := by decide +kernel
    cases result : Text.Utf8.decode headedBytes with
    | error fault =>
        rw [result] at read
        cases read
    | ok source =>
        rw [result] at read
        rw [Option.some.inj read]
  obtain ⟨onText, onBytes, _⟩ :=
    registration_affects_only_its_tag .cocoaTouch "button" (.custom "Card")
  refine ⟨unused, onText headedSource unused, decoded, ?_, by decide +kernel, by decide +kernel⟩
  apply onBytes
  intro source read
  have same : headedSource = source := Except.ok.inj (decoded.symm.trans read)
  rw [← same]
  exact unused

end Document

end Xib
