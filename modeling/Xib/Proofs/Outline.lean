import Xib.Document.Outline

/-!
# Outlines

An outline lists exactly the elements that a build makes objects of and the identifiers of their
layout guides; `Structural` says which these are without going through the tree. An outline is well
formed, or it has a first mark that violates something, and then the error is determined; going
through the outline reports which of the two it is.
-/

namespace Xib

set_option autoImplicit false

open Xml (Element)

namespace Mark

def identifier? : Mark → Option String
  | .object element => element.attribute? "id"
  | .guide identifier => some identifier

def element? : Mark → Option Element
  | .object element => some element
  | .guide _ => none

def identifiers (marks : List Mark) : List String :=
  marks.filterMap identifier?

def elements (marks : List Mark) : List Element :=
  marks.filterMap element?

theorem identifiers_append (marks more : List Mark) :
    identifiers (marks ++ more) = identifiers marks ++ identifiers more :=
  List.filterMap_append

theorem elements_append (marks more : List Mark) :
    elements (marks ++ more) = elements marks ++ elements more :=
  List.filterMap_append

theorem identifiers_cons (mark : Mark) (marks : List Mark) :
    identifiers (mark :: marks) = mark.identifier?.toList ++ identifiers marks := by
  rw [identifiers, List.filterMap_cons]
  cases mark.identifier? <;> rfl

theorem elements_cons (mark : Mark) (marks : List Mark) :
    elements (mark :: marks) = mark.element?.toList ++ elements marks := by
  rw [elements, List.filterMap_cons]
  cases mark.element? <;> rfl

theorem mem_elements {marks : List Mark} {element : Element} :
    element ∈ elements marks ↔ .object element ∈ marks := by
  rw [elements, List.mem_filterMap]
  constructor
  · rintro ⟨mark, member, same⟩
    cases mark with
    | object other =>
        cases same
        exact member
    | guide identifier => cases same
  · intro member
    exact ⟨.object element, member, rfl⟩

end Mark

/-- All tags are registered, and no identifier occurs twice. -/
structure WellFormed (registry : Registry) (marks : List Mark) : Prop where
  registered : ∀ element ∈ Mark.elements marks, registry.contains element.name = true
  distinct : (Mark.identifiers marks).Nodup

/-- What is wrong with a mark after others. The tag of an element is looked at first. -/
inductive Violates (registry : Registry) (before : List Mark) : Mark → BuildError → Prop where
  | tag {element : Element} (unknown : registry.contains element.name = false) :
      Violates registry before (.object element)
        (.unsupportedTag element.name (element.attribute? "id"))
  | object {element : Element} {identifier : String}
      (known : registry.contains element.name = true)
      (carried : element.attribute? "id" = some identifier)
      (taken : identifier ∈ Mark.identifiers before) :
      Violates registry before (.object element) (.duplicateIdentifier identifier)
  | guide {identifier : String} (taken : identifier ∈ Mark.identifiers before) :
      Violates registry before (.guide identifier) (.duplicateIdentifier identifier)

def FirstViolation (registry : Registry) (marks : List Mark) (error : BuildError) : Prop :=
  ∃ before mark after, marks = before ++ mark :: after ∧ WellFormed registry before ∧
    Violates registry before mark error

section Marks

variable {registry : Registry} {marks before more : List Mark} {mark : Mark} {error : BuildError}

theorem WellFormed.nil : WellFormed registry [] :=
  ⟨fun _ member => absurd member List.not_mem_nil, List.nodup_nil⟩

theorem WellFormed.snoc (good : WellFormed registry before)
    (known : ∀ element ∈ mark.element?, registry.contains element.name = true)
    (fresh : ∀ identifier ∈ mark.identifier?, identifier ∉ Mark.identifiers before) :
    WellFormed registry (before ++ [mark]) := by
  constructor
  · intro element member
    rw [Mark.elements_append, Mark.elements_cons] at member
    rcases List.mem_append.mp member with former | last
    · exact good.registered element former
    · exact known element (by simpa [Mark.elements] using last)
  · rw [Mark.identifiers_append, Mark.identifiers_cons, List.nodup_append]
    refine ⟨good.distinct, by cases mark.identifier? <;> simp [Mark.identifiers], ?_⟩
    rintro former inside last here rfl
    exact fresh former (by simpa [Mark.identifiers] using here) inside

theorem WellFormed.not_violates (good : WellFormed registry (before ++ mark :: more)) :
    ¬Violates registry before mark error := by
  -- A repeated identifier would occur on both sides of the seam.
  have apart : ∀ identifier, mark.identifier? = some identifier →
      identifier ∉ Mark.identifiers before := by
    intro identifier carried taken
    have distinct := good.distinct
    rw [Mark.identifiers_append, Mark.identifiers_cons, carried, List.nodup_append] at distinct
    exact distinct.2.2 identifier taken identifier List.mem_cons_self rfl
  intro violates
  cases violates with
  | @tag element unknown =>
      have known := good.registered element (Mark.mem_elements.mpr (by simp))
      rw [unknown] at known
      cases known
  | object _ carried taken => exact apart _ carried taken
  | guide taken => exact apart _ rfl taken

theorem FirstViolation.append (violation : FirstViolation registry marks error) (more : List Mark) :
    FirstViolation registry (marks ++ more) error := by
  obtain ⟨before, mark, after, rfl, good, violates⟩ := violation
  exact ⟨before, mark, after ++ more, by simp, good, violates⟩

theorem FirstViolation.not_wellFormed (violation : FirstViolation registry marks error) :
    ¬WellFormed registry marks := by
  obtain ⟨before, mark, after, rfl, _, violates⟩ := violation
  intro good
  exact good.not_violates violates

theorem Violates.unique {other : BuildError} (first : Violates registry before mark error)
    (second : Violates registry before mark other) : error = other := by
  cases first with
  | tag unknown =>
      cases second with
      | tag _ => rfl
      | object known _ _ =>
          rw [unknown] at known
          cases known
  | object known carried _ =>
      cases second with
      | tag unknown =>
          rw [unknown] at known
          cases known
      | object _ otherCarried _ =>
          rw [carried] at otherCarried
          cases otherCarried
          rfl
  | guide _ =>
      cases second
      rfl

/-- What comes first is determined: an earlier violation would spoil what is before a later one. -/
theorem FirstViolation.unique {other : BuildError} (first : FirstViolation registry marks error)
    (second : FirstViolation registry marks other) : error = other := by
  obtain ⟨before, mark, after, rfl, good, violates⟩ := first
  obtain ⟨otherBefore, otherMark, otherAfter, same, otherGood, otherViolates⟩ := second
  rcases List.append_eq_append_iff.mp same with ⟨middle, rfl, rest⟩ | ⟨middle, rfl, rest⟩
  · cases middle with
    | nil =>
        cases rest
        rw [List.append_nil] at otherViolates
        exact violates.unique otherViolates
    | cons first between =>
        cases rest
        exact absurd violates otherGood.not_violates
  · cases middle with
    | nil =>
        cases rest
        rw [List.append_nil] at violates
        exact violates.unique otherViolates
    | cons first between =>
        cases rest
        exact absurd otherViolates good.not_violates

/-- What a progress says of marks after others: it stops short at their first violation, or it goes
through all of them. -/
structure Progress.Reports (registry : Registry) (before marks : List Mark)
    (progress : Progress) : Prop where
  elements : progress.elements <+: Mark.elements marks
  complete : progress.error = none →
    WellFormed registry (before ++ marks) ∧ progress.elements = Mark.elements marks
  violation : ∀ error, progress.error = some error → FirstViolation registry (before ++ marks) error

namespace Progress

variable {progress : Progress}

theorem Reports.cons (reports : Reports registry (before ++ [mark]) more progress) :
    Reports registry before (mark :: more)
      { progress with elements := mark.element?.toList ++ progress.elements } where
  elements := by
    rw [Mark.elements_cons]
    exact (List.prefix_append_right_inj _).mpr reports.elements
  complete := by
    intro finished
    obtain ⟨good, all⟩ := reports.complete finished
    rw [← List.append_cons] at good
    refine ⟨good, ?_⟩
    rw [Mark.elements_cons, all]
  violation := by
    intro error failed
    rw [List.append_cons]
    exact reports.violation error failed

theorem reports_violation {elements : List Element} (good : WellFormed registry before)
    (violates : Violates registry before mark error) (decided : elements <+: mark.element?.toList) :
    Reports registry before (mark :: more) ⟨elements, some error⟩ where
  elements := by
    rw [Mark.elements_cons]
    exact decided.trans (List.prefix_append _ _)
  complete := nofun
  violation := by
    intro other same
    cases same
    exact ⟨before, mark, more, rfl, good, violates⟩

/-- The identifiers taken are those of the marks gone through. -/
theorem ofMarks_reports {before : List Mark} {taken : List String}
    (good : WellFormed registry before)
    (same : ∀ identifier, identifier ∈ taken ↔ identifier ∈ Mark.identifiers before) :
    Reports registry before marks (ofMarks registry taken marks) := by
  induction marks generalizing before taken with
  | nil =>
      refine ⟨List.prefix_refl _, ?_, nofun⟩
      intro _
      rw [List.append_nil]
      exact ⟨good, rfl⟩
  | cons mark rest ih =>
      -- A mark that violates nothing is gone past, and both hypotheses hold again behind it.
      have step (known : ∀ element ∈ mark.element?, registry.contains element.name = true)
          (fresh : ∀ identifier ∈ mark.identifier?, identifier ∉ taken) :
          Reports registry (before ++ [mark]) rest
            (ofMarks registry (mark.identifier?.toList ++ taken) rest) := by
        apply ih
        · apply good.snoc known
          intro identifier carried inside
          exact fresh identifier carried ((same identifier).mpr inside)
        · intro identifier
          rw [Mark.identifiers_append, Mark.identifiers_cons, List.mem_append, List.mem_append,
            same identifier, or_comm]
          simp [Mark.identifiers]
      cases mark with
      | guide identifier =>
          unfold ofMarks
          split
          · rename_i repeated
            have inside := (same identifier).mp (List.contains_iff_mem.mp repeated)
            exact reports_violation good (.guide inside) (List.prefix_refl _)
          · rename_i free
            apply (step nofun _).cons
            intro carried own inside
            cases own
            exact free (List.contains_iff_mem.mpr inside)
      | object element =>
          unfold ofMarks
          split
          · rename_i known
            have registered : ∀ other ∈ (Mark.object element).element?,
                registry.contains other.name = true := by
              intro other own
              cases own
              exact known
            cases carried : (Mark.object element).identifier? with
            | none =>
                have onward := step registered (by simp [carried])
                rw [carried] at onward
                rw [Mark.identifier?] at carried
                simp only [carried]
                exact onward.cons
            | some identifier =>
                have onward (free : identifier ∉ taken) := step registered (by simp [carried, free])
                rw [carried] at onward
                rw [Mark.identifier?] at carried
                simp only [carried]
                split
                · rename_i repeated
                  have inside := (same identifier).mp (List.contains_iff_mem.mp repeated)
                  exact reports_violation good (.object known carried inside) (List.prefix_refl _)
                · rename_i free
                  exact (onward (fun inside => free (List.contains_iff_mem.mpr inside))).cons
          · rename_i unknown
            exact reports_violation good (.tag (Bool.eq_false_iff.mpr unknown)) (List.nil_prefix)

end Progress

end Marks

/-- An element that stands for an object as the value of a property of the object around it: it has
the key of such a property, and neither its name nor a value it could be comes first. -/
structure IsEmbedded (registry : Registry) (element : Element) : Prop where
  unclaimed : element.name ∉ "subviews" :: "viewLayoutGuide" :: reservedNames
  keyed : ∃ key ∈ objectPropertyKeys, element.attribute? "key" = some key
  valueless : Auxiliary.ofElement? element = none
  registered : registry.contains element.name = true

inductive Structural (registry : Registry) (root : Element) : Element → Prop where
  | top {element : Element} (member : element ∈ topLevel root) : Structural registry root element
  | subview {owner container element : Element} (outer : Structural registry root owner)
      (listed : container ∈ owner.children) (subviews : container.name = "subviews")
      (member : element ∈ container.children) : Structural registry root element
  | embedded {owner element : Element} (outer : Structural registry root owner)
      (member : element ∈ owner.children) (embedded : IsEmbedded registry element) :
      Structural registry root element

/-- The identifiers of the layout guides directly inside structural elements. -/
def GuideIdentifier (registry : Registry) (root : Element) (identifier : String) : Prop :=
  ∃ owner guide, Structural registry root owner ∧ guide ∈ owner.children ∧
    guide.name = "viewLayoutGuide" ∧ guide.attribute? "id" = some identifier

/-- What an element must be like to have a place. -/
inductive Placed (registry : Registry) (element : Element) : Place → Prop where
  | subviews (named : element.name = "subviews") : Placed registry element .subviews
  | guide {key : String} (named : element.name = "viewLayoutGuide") :
      Placed registry element (.guide key (element.attribute? "id"))
  | embedded {key : String} (embedded : IsEmbedded registry element) :
      Placed registry element (.embedded key)
  | contents (list : element.name ≠ "subviews") (guide : element.name ≠ "viewLayoutGuide")
      (plain : ¬IsEmbedded registry element) : Placed registry element .contents

section Places

variable {registry : Registry} {element : Element}

theorem designTimeKeys_disjoint : ∀ key ∈ objectPropertyKeys, key ∉ designTimeKeys := by
  decide

theorem place_of_embedded (embedded : IsEmbedded registry element) :
    ∃ key, Place.of registry element = .embedded key := by
  obtain ⟨key, property, keyed⟩ := embedded.keyed
  have apart := designTimeKeys_disjoint key property
  have names := embedded.unclaimed
  simp only [List.mem_cons, not_or] at names
  refine ⟨key, ?_⟩
  simp [Place.of, names, keyed, apart, embedded.valueless, embedded.registered, property]

/-- An element that is neither a list nor a guide is an object if it is embedded. -/
theorem place_of_other (registry : Registry) (list : element.name ≠ "subviews")
    (guide : element.name ≠ "viewLayoutGuide") :
    Place.of registry element = .contents ∨
      IsEmbedded registry element ∧ ∃ key, Place.of registry element = .embedded key := by
  simp only [Place.of, list, guide, if_false]
  split
  · exact .inl rfl
  · rename_i unclaimed
    split
    · exact .inl rfl
    · rename_i key keyed
      split
      · exact .inl rfl
      · rename_i valueless
        split
        · rename_i registered
          simp only [Bool.or_eq_true, not_or, Bool.not_eq_true, Option.isSome_eq_false_iff,
            Option.isNone_iff_eq_none] at valueless
          simp only [Bool.and_eq_true, List.contains_eq_mem, decide_eq_true_eq] at registered
          refine .inr ⟨⟨?_, ⟨key, registered.2, keyed⟩, valueless.2, registered.1⟩, key, rfl⟩
          simp only [List.mem_cons, not_or]
          exact ⟨list, guide, by simpa using unclaimed⟩
        · exact .inl rfl

theorem placed (registry : Registry) (element : Element) :
    Placed registry element (Place.of registry element) := by
  by_cases list : element.name = "subviews"
  · rw [Place.of, if_pos list]
    exact .subviews list
  · by_cases guide : element.name = "viewLayoutGuide"
    · rw [Place.of, if_neg list, if_pos guide]
      exact .guide guide
    · obtain contents | ⟨embedded, key, place⟩ := place_of_other registry list guide
      · rw [contents]
        refine .contents list guide fun embedded => ?_
        obtain ⟨key, place⟩ := place_of_embedded embedded
        rw [contents] at place
        cases place
      · rw [place]
        exact .embedded embedded

end Places

namespace Mark

def ofPart (registry : Registry) (element : Element) : List Mark :=
  match Place.of registry element with
  | .subviews => ofAll registry element.children
  | .guide _ identifier => identifier.toList.map .guide
  | .embedded _ => ofElement registry element
  | .contents => []

theorem ofElement_eq (registry : Registry) (element : Element) :
    ofElement registry element = .object element :: ofParts registry element.children := by
  cases element
  rw [ofElement]

theorem ofAll_eq (registry : Registry) (elements : List Element) :
    ofAll registry elements = elements.flatMap (ofElement registry) := by
  induction elements with
  | nil => rw [ofAll, List.flatMap_nil]
  | cons element rest ih => rw [ofAll, ih, List.flatMap_cons]

theorem ofParts_eq (registry : Registry) (elements : List Element) :
    ofParts registry elements = elements.flatMap (ofPart registry) := by
  induction elements with
  | nil => rw [ofParts, List.flatMap_nil]
  | cons element rest ih =>
      cases element
      rw [ofParts, ih, List.flatMap_cons]
      rfl

end Mark

section Outline

variable {registry : Registry} {root : Element}

def Mark.Stands (registry : Registry) (root : Element) : Mark → Prop
  | .object element => Structural registry root element
  | .guide identifier => GuideIdentifier registry root identifier

mutual

theorem ofElement_stands :
    (element : Element) → Structural registry root element →
      ∀ mark ∈ Mark.ofElement registry element, mark.Stands registry root
  | ⟨name, attributes, text, children⟩, reached => by
      intro mark member
      rw [Mark.ofElement] at member
      rcases List.mem_cons.mp member with rfl | inside
      · exact reached
      · exact ofParts_stands children reached (fun child listed => listed) mark inside

theorem ofAll_stands :
    (elements : List Element) → (∀ element ∈ elements, Structural registry root element) →
      ∀ mark ∈ Mark.ofAll registry elements, mark.Stands registry root
  | [], _ => by
      intro mark member
      rw [Mark.ofAll] at member
      cases member
  | element :: rest, reached => by
      intro mark member
      rw [Mark.ofAll] at member
      rcases List.mem_append.mp member with first | later
      · exact ofElement_stands element (reached element List.mem_cons_self) mark first
      · exact ofAll_stands rest (fun other inside => reached other (List.mem_cons_of_mem _ inside))
          mark later

theorem ofParts_stands {owner : Element} :
    (elements : List Element) → Structural registry root owner →
      (∀ element ∈ elements, element ∈ owner.children) →
      ∀ mark ∈ Mark.ofParts registry elements, mark.Stands registry root
  | [], _, _ => by
      intro mark member
      rw [Mark.ofParts] at member
      cases member
  | ⟨name, attributes, text, children⟩ :: rest, reached, listed => by
      intro mark member
      have here := listed ⟨name, attributes, text, children⟩ List.mem_cons_self
      rw [Mark.ofParts] at member
      rcases List.mem_append.mp member with own | later
      · have place := placed registry ⟨name, attributes, text, children⟩
        cases found : Place.of registry ⟨name, attributes, text, children⟩ with
        | subviews =>
            rw [found] at place own
            cases place with
            | subviews named =>
                refine ofAll_stands children (fun element inside => ?_) mark own
                exact .subview reached here named inside
        | guide key identifier =>
            rw [found] at place own
            cases place with
            | guide named =>
                obtain ⟨identifier, carried, rfl⟩ := List.mem_map.mp own
                exact ⟨owner, _, reached, here, named, Option.mem_toList.mp carried⟩
        | embedded key =>
            rw [found] at place own
            cases place with
            | embedded embedded =>
                exact ofElement_stands ⟨name, attributes, text, children⟩
                  (.embedded reached here embedded) mark own
        | contents =>
            rw [found] at own
            cases own
      · exact ofParts_stands rest reached
          (fun other inside => listed other (List.mem_cons_of_mem _ inside)) mark later

end

theorem ofPart_subset {owner part : Element} (listed : part ∈ owner.children) :
    Mark.ofPart registry part ⊆ Mark.ofElement registry owner := by
  rw [Mark.ofElement_eq, Mark.ofParts_eq]
  intro mark member
  exact List.mem_cons_of_mem _ (List.mem_flatMap.mpr ⟨part, listed, member⟩)

theorem ofElement_subset_outline {element : Element} (reached : Structural registry root element) :
    Mark.ofElement registry element ⊆ outline registry root := by
  induction reached with
  | @top element member =>
      rw [outline, Mark.ofAll_eq]
      exact fun mark inside => List.mem_flatMap.mpr ⟨element, member, inside⟩
  | @subview owner container element _ listed subviews member ih =>
      have place : Place.of registry container = .subviews := by rw [Place.of, if_pos subviews]
      have whole : Mark.ofElement registry element ⊆ Mark.ofPart registry container := by
        rw [Mark.ofPart, place, Mark.ofAll_eq]
        exact fun mark inside => List.mem_flatMap.mpr ⟨element, member, inside⟩
      exact List.Subset.trans (List.Subset.trans whole (ofPart_subset listed)) ih
  | @embedded owner element _ member embedded ih =>
      obtain ⟨key, place⟩ := place_of_embedded embedded
      have whole : Mark.ofElement registry element ⊆ Mark.ofPart registry element := by
        rw [Mark.ofPart, place]
        exact List.Subset.refl _
      exact List.Subset.trans (List.Subset.trans whole (ofPart_subset member)) ih

theorem mem_outline_elements (element : Element) :
    element ∈ Mark.elements (outline registry root) ↔ Structural registry root element := by
  rw [Mark.mem_elements]
  constructor
  · intro member
    exact ofAll_stands (topLevel root) (fun top inside => .top inside) _ member
  · intro reached
    apply ofElement_subset_outline reached
    rw [Mark.ofElement_eq]
    exact List.mem_cons_self

theorem guide_mem_outline (identifier : String) :
    .guide identifier ∈ outline registry root ↔ GuideIdentifier registry root identifier := by
  constructor
  · intro member
    exact ofAll_stands (topLevel root) (fun top inside => .top inside) _ member
  · rintro ⟨owner, guide, reached, listed, named, carried⟩
    apply ofElement_subset_outline reached
    apply ofPart_subset listed
    have list : guide.name ≠ "subviews" := by
      rw [named]
      decide
    rw [Mark.ofPart, Place.of, if_neg list, if_pos named, carried]
    exact List.mem_singleton.mpr rfl

end Outline

end Xib
