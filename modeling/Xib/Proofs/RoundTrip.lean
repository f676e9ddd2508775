import Xib.Proofs.Reading
import Xib.Proofs.Tags

/-!
# Reading gives back what was printed

The written form of an element takes a run from where the element begins to right after it, with
the element added to the tree under construction. Text is read back through the pieces it falls
into: runs of plain characters and one reference for each escaped character. The tree is read back
by induction on the element. Main statement: `Element.parse_render`.
-/

namespace Xib.Xml

set_option autoImplicit false

namespace Element

def withText (element : Element) (text : String) : Element :=
  { element with text := element.text ++ text }

def withChildren (element : Element) (children : List Element) : Element :=
  { element with children := element.children ++ children }

@[simp] theorem withText_empty (element : Element) : element.withText "" = element := by
  cases element
  simp [withText]

@[simp] theorem withText_withText (element : Element) (first second : String) :
    (element.withText first).withText second = element.withText (first ++ second) := by
  simp [withText, String.append_assoc]

@[simp] theorem withChildren_nil (element : Element) : element.withChildren [] = element := by
  cases element
  simp [withChildren]

@[simp] theorem withChildren_withChildren (element : Element) (first second : List Element) :
    (element.withChildren first).withChildren second = element.withChildren (first ++ second) := by
  simp [withChildren]

theorem withText_withChildren_leaf (name : String) (attributes : Table String) (text : String)
    (children : List Element) :
    ((⟨name, attributes, "", []⟩ : Element).withText text).withChildren children =
      ⟨name, attributes, text, children⟩ := by
  simp [withText, withChildren]

end Element

namespace Reading

section Text

variable {names : List String} {others : List Element} {root : Option Element}

/-- Plain characters in front of markup are added to the innermost open element. -/
theorem run_plain (innermost : Element) {plain : List Char}
    (marks : ∀ mark ∈ plain, mark ≠ '&' ∧ mark ≠ '<') {stop : Char}
    (stops : stop = '<' ∨ stop = '&') (after : List Char) :
    Run ⟨names, ⟨innermost :: others, root⟩, plain ++ stop :: after⟩
      ⟨names, ⟨innermost.withText (String.ofList plain) :: others, root⟩, stop :: after⟩ := by
  cases plain with
  | nil =>
      rw [String.ofList_nil, Element.withText_empty]
      exact .refl
  | cons first rest => exact .single (.piece (readPiece_text marks stops after) rfl rfl)

theorem step_reference (innermost : Element) {mark : Char} {entity : List Char}
    (known : Reference.predefined? entity = some mark)
    (parts : ∀ part ∈ entity, isNameMark part = true) (after : List Char) :
    Step ⟨names, ⟨innermost :: others, root⟩, '&' :: (entity ++ ';' :: after)⟩
      ⟨names, ⟨innermost.withText (String.ofList [mark]) :: others, root⟩, after⟩ := by
  have inside : ∀ part ∈ entity, part ≠ ';' ∧ part ≠ '&' ∧ part ≠ '<' := fun part member =>
    ⟨ne_of_isNameMark (parts part member) ';' (by decide),
      ne_of_isNameMark (parts part member) '&' (by decide),
      ne_of_isNameMark (parts part member) '<' (by decide)⟩
  apply Step.piece (readPiece_reference inside after) rfl
  simp only [Assembly.feed, String.toList_ofList, inText?_entity known parts]
  rfl

/-- `plain` holds the characters passed over since the last reference: they are read in one piece
with the plain characters that follow. -/
theorem run_escaped (innermost : Element) {plain : List Char}
    (marks : ∀ mark ∈ plain, mark ≠ '&' ∧ mark ≠ '<') (text after : List Char) :
    Run ⟨names, ⟨innermost :: others, root⟩,
        plain ++ (text.flatMap escapeCharacter ++ '<' :: after)⟩
      ⟨names, ⟨innermost.withText (String.ofList (plain ++ text)) :: others, root⟩,
        '<' :: after⟩ := by
  induction text generalizing innermost plain with
  | nil => simpa using run_plain innermost marks (.inl rfl) after
  | cons mark text ih =>
      obtain ⟨itself, noAmpersand, noLess, -⟩ | ⟨entity, reference, known, parts⟩ :=
        escapeCharacter_cases mark
      · have longer : ∀ other ∈ plain ++ [mark], other ≠ '&' ∧ other ≠ '<' := by
          intro other member
          obtain earlier | last := List.mem_append.mp member
          · exact marks other earlier
          · exact List.mem_singleton.mp last ▸ ⟨noAmpersand, noLess⟩
        -- The character is not read yet: it waits with the others for the end of the piece.
        simpa [itself] using ih innermost longer
      · have written : plain ++ ((mark :: text).flatMap escapeCharacter ++ '<' :: after) =
            plain ++ '&' :: (entity ++ ';' :: (text.flatMap escapeCharacter ++ '<' :: after)) := by
          simp [reference]
        have whole : innermost.withText (String.ofList (plain ++ mark :: text)) =
            ((innermost.withText (String.ofList plain)).withText (String.ofList [mark])).withText
              (String.ofList text) := by
          rw [Element.withText_withText, Element.withText_withText, ← String.ofList_append,
            ← String.ofList_append]
          rfl
        rw [written, whole]
        apply (run_plain innermost marks (.inr rfl) _).trans
        apply Relation.ReflTransGen.head (step_reference _ known parts _)
        exact ih _ (List.forall_mem_nil _)

theorem run_text (innermost : Element) (text : String) (after : List Char) :
    Run ⟨names, ⟨innermost :: others, root⟩, escape text ++ '<' :: after⟩
      ⟨names, ⟨innermost.withText text :: others, root⟩, '<' :: after⟩ := by
  have run : Run ⟨names, ⟨innermost :: others, root⟩, [] ++ (escape text ++ '<' :: after)⟩ _ :=
    run_escaped innermost (List.forall_mem_nil _) text.toList after
  rw [List.nil_append, List.nil_append, String.ofList_toList] at run
  exact run

end Text

end Reading

/-! ## Elements -/

namespace Element

/-- An element whose names are names, and whose text is not the mere indentation between children
that reading drops. Attribute values and all other texts are free. -/
structure Spelled (element : Element) : Prop where
  name : IsName element.name
  keys : ∀ key ∈ element.attributes.keys, IsName key
  text : element.children ≠ [] → element.text ≠ "" → Text.isBlank element.text = false

/-- Every element of a tree is spelled so that it can be read back. -/
inductive Printable : Element → Prop
  | node {element : Element} (spelled : element.Spelled)
      (children : ∀ child ∈ element.children, Printable child) : Printable element

theorem Spelled.settle {element : Element} (spelled : element.Spelled) :
    Assembly.settle element = element := by
  obtain ⟨name, attributes, text, children⟩ := element
  unfold Assembly.settle
  split
  case isTrue => rfl
  case isFalse parent =>
    split
    case isTrue blank =>
      have empty : text = "" := by
        by_contra written
        have visible := spelled.text (by simpa using parent) written
        exact absurd blank (ne_true_of_eq_false visible)
      rw [empty]
    case isFalse => rfl

theorem render_eq_cons (element : Element) : ∃ rest, element.render = '<' :: rest := by
  cases element
  exact ⟨_, rfl⟩

/-- The children of an element and its closing tag begin with a bracket. -/
theorem renderAll_append_eq_cons (elements : List Element) (after : List Char) :
    ∃ rest, renderAll elements ++ '<' :: after = '<' :: rest := by
  cases elements with
  | nil => exact ⟨after, rfl⟩
  | cons element others =>
      obtain ⟨rest, shape⟩ := element.render_eq_cons
      exact ⟨rest ++ renderAll others ++ '<' :: after, by simp [renderAll, shape]⟩

end Element

namespace Reading

variable {names : List String}

theorem step_open {name : String} {attributes : Table String} (named : IsName name)
    (keys : ∀ key ∈ attributes.keys, IsName key) (assembly : Assembly) (after : List Char) :
    Step ⟨names, assembly, '<' :: (name.toList ++ renderAttributes attributes ++ '>' :: after)⟩
      ⟨name :: names, ⟨⟨name, attributes, "", []⟩ :: assembly.opened, assembly.root⟩, after⟩ := by
  apply Step.piece (readPiece_openTag named keys after)
  · rw [Event.ofPiece, Attribute.ofTag_render named keys]
  · rfl

theorem step_close {element : Element} (spelled : element.Spelled) {assembly grown : Assembly}
    (attached : assembly.attach element = .ok grown) (after : List Char) :
    Step ⟨element.name :: names, ⟨element :: assembly.opened, assembly.root⟩,
        '<' :: ('/' :: element.name.toList ++ '>' :: after)⟩
      ⟨names, grown, after⟩ := by
  apply Step.piece (readPiece_closeTag spelled.name after)
  · rw [Event.ofPiece, String.ofList_toList, if_pos rfl]
  · simp only [Assembly.feed, spelled.settle]
    exact attached

mutual

theorem run_render : (element : Element) → element.Printable → ∀ {assembly grown : Assembly},
    assembly.attach element = .ok grown → ∀ (names : List String) (after : List Char),
      Run ⟨names, assembly, element.render ++ after⟩ ⟨names, grown, after⟩
  | ⟨name, attributes, text, children⟩, .node spelled printable, assembly, grown, attached,
      names, after => by
    have written : Element.render ⟨name, attributes, text, children⟩ ++ after =
        '<' :: (name.toList ++ renderAttributes attributes ++ '>' :: (escape text ++
          (Element.renderAll children ++ '<' :: ('/' :: name.toList ++ '>' :: after)))) := by
      simp [Element.render]
    obtain ⟨rest, shape⟩ :=
      Element.renderAll_append_eq_cons children ('/' :: name.toList ++ '>' :: after)
    rw [written]
    apply Relation.ReflTransGen.head (step_open spelled.name spelled.keys assembly _)
    -- Text ends only in front of markup, so the bracket after it is brought out.
    rw [shape]
    apply (run_text _ text rest).trans
    rw [← shape]
    apply (run_renderAll children printable _ _ _ _ _).trans
    rw [Element.withText_withChildren_leaf]
    exact .single (step_close spelled attached after)

theorem run_renderAll : (elements : List Element) → (∀ element ∈ elements, element.Printable) →
    ∀ (parent : Element) (others : List Element) (root : Option Element) (names : List String)
      (after : List Char),
      Run ⟨names, ⟨parent :: others, root⟩, Element.renderAll elements ++ after⟩
        ⟨names, ⟨parent.withChildren elements :: others, root⟩, after⟩
  | [], _, parent, others, root, names, after => by
    rw [Element.withChildren_nil]
    exact .refl
  | element :: rest, printable, parent, others, root, names, after => by
    have ⟨first, later⟩ := List.forall_mem_cons.mp printable
    have here : Run
        ⟨names, ⟨parent :: others, root⟩, element.render ++ (Element.renderAll rest ++ after)⟩
        ⟨names, ⟨parent.withChildren [element] :: others, root⟩, Element.renderAll rest ++ after⟩ :=
      run_render element first rfl names _
    have there := run_renderAll rest later (parent.withChildren [element]) others root names after
    simpa [Element.renderAll] using here.trans there

end

end Reading

namespace Element

theorem parse_render (element : Element) (printable : element.Printable) :
    parse (String.ofList element.render) = .ok element := by
  have attached : Assembly.initial.attach element = .ok ⟨[], some element⟩ := rfl
  have run := Reading.run_render element printable attached [] []
  have unmarked : dropMark (String.ofList element.render).toList = element.render ++ [] := by
    obtain ⟨rest, shape⟩ := element.render_eq_cons
    rw [String.toList_ofList, List.append_nil, shape]
    rfl
  rw [← unmarked] at run
  exact run.parse_eq

/-- Markup of many kinds stands in its values and texts, and one text is blank. -/
def quoting : Element :=
  ⟨"list-view",
    ⟨[("a:key", "<a b=\"/>\" c='x'/>&lt;"), ("_.1", "")], by decide⟩,
    " 1 < 2 && \"3\" > '2' ]]> </list-view> é\r\n",
    [⟨"leaf", .empty, " \n\t", []⟩,
      ⟨"Leaf", ⟨[("end", "/")], by decide⟩, "", [⟨"B", .empty, "&#38;amp;<!--", []⟩]⟩]⟩

theorem quoting_read_back :
    quoting.Printable ∧ parse (String.ofList quoting.render) = .ok quoting := by
  have leaf : Printable ⟨"leaf", .empty, " \n\t", []⟩ :=
    .node ⟨by decide, by decide, by decide⟩ (List.forall_mem_nil _)
  have inner : Printable ⟨"B", .empty, "&#38;amp;<!--", []⟩ :=
    .node ⟨by decide, by decide, by decide⟩ (List.forall_mem_nil _)
  have outer : Printable ⟨"Leaf", ⟨[("end", "/")], by decide⟩, "",
      [⟨"B", .empty, "&#38;amp;<!--", []⟩]⟩ :=
    .node ⟨by decide, by decide, by decide⟩ (List.forall_mem_singleton.mpr inner)
  have printable : quoting.Printable :=
    .node ⟨by decide, by decide, by decide⟩
      (List.forall_mem_cons.mpr ⟨leaf, List.forall_mem_singleton.mpr outer⟩)
  exact ⟨printable, parse_render quoting printable⟩

end Element

end Xib.Xml
