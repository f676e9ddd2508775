import Xib.Proofs.Lines
import Xib.Proofs.Literals
import Xib.Proofs.RoundTrip

/-!
# The text of a label

A text goes from markup through reading, building and planning into a string literal. Each stage
has its own special cases: references, texts that are only indentation, attribute values that look
like numbers or flags, characters that a literal escapes. Main statement: none of them changes the
text of a label, in whichever of its places it is written and whatever else the document holds
(`label_text_survives`).
-/

namespace Xib

set_option autoImplicit false

namespace Swift

/-! ## What texts configure -/

theorem gather_nothing {α β : Type} {step : α → Except GenerationError (List β)} {items : List α}
    (each : ∀ item ∈ items, step item = .ok []) : gather step items = .ok [] := by
  rw [gather_each each]
  simp

theorem gather_map {α β γ : Type} (step : β → Except GenerationError (List γ)) (image : α → β)
    (items : List α) :
    gather step (items.map image) = gather (fun item => step (image item)) items := by
  induction items with
  | nil => rfl
  | cons item rest ih => rw [List.map_cons, gather, gather, ih]

/-- The value of an attribute is sorted by what it looks like, and written as it was. -/
theorem attributeStatement_string (index : Nat) {object : Object} {property : Property}
    (kind : property.kind = .string) (always : property.default = none) {text : String}
    (present : object.attribute? property.key = some (.parse text)) :
    attributeStatement index object property =
      .ok [.assign index property.name (.literal (string text))] := by
  simp only [attributeStatement, present, always, scalar, kind, Scalar.raw_parse]
  rfl

theorem connections_texts {object : Object} {texts : List (String × String)}
    (values : object.auxiliaries = texts.map fun (key, text) => .text key text) :
    object.connections = [] := by
  simp [Object.connections, values, List.filterMap_map]

/-- An object whose values are all texts is declared, and gets what its attributes and its texts
say. -/
theorem configuration_texts (scope : Scope) (index : Nat) {object : Object}
    {texts : List (String × String)}
    (values : object.auxiliaries = texts.map fun (key, text) => .text key text)
    {attributes : List Statement}
    (gathered : gather (attributeStatement index object) (Property.ofKind object.kind) =
      .ok attributes) :
    configuration scope index object =
      .ok (.declare index object.className (initializer object) :: attributes ++
        texts.map fun (key, text) => .assign index key (.literal (string text))) := by
  have frame : frameStatement index object = .ok [] := by
    have nowhere : texts.findSome? (fun _ => (none : Option Rect)) = none := by simp
    simp [frameStatement, values, List.findSome?_map, Function.comp_def, nowhere]
  have written : gather (valueStatements scope index object.kind) object.auxiliaries =
      .ok (texts.map fun (key, text) => .assign index key (.literal (string text))) := by
    rw [values, gather_map, List.map_eq_flatMap]
    exact gather_each fun _ _ => rfl
  have runtime : gather (runtimeStatements index) object.auxiliaries = .ok [] := by
    rw [values, gather_map]
    exact gather_nothing fun _ _ => rfl
  have states : object.states = [] := by
    simp [Object.states, values, List.filterMap_map]
  simp only [configuration, gathered, frame, written, runtime, states, connections_texts values,
    ite_self, List.filter_nil, gather]
  simp [bind, Except.bind, pure, Except.pure]

/-- A label is given a text in an attribute or as a value. -/
def HasText (object : Object) (text : String) : Prop :=
  .text "text" text ∈ object.auxiliaries ∨ object.attribute? "text" = some (.parse text)

/-- A label that is configured at all gets every text that it is given. -/
theorem assign_text_mem {scope : Scope} {index : Nat} {object : Object} {text : String}
    {statements : List Statement} (kind : object.kind = .label) (given : HasText object text)
    (configured : configuration scope index object = .ok statements) :
    .assign index "text" (.literal (string text)) ∈ statements := by
  obtain ⟨attributes, _, values, _, _, _, attributesDone, _, valuesDone, _, _, _, rfl⟩ :=
    configuration_parts configured
  obtain value | tagged := given
  · obtain ⟨found, stepped, inside⟩ := gather_ok valuesDone value
    cases stepped
    simp [inside List.mem_cons_self]
  · have known : ⟨"text", "text", .string, none⟩ ∈ Property.ofKind object.kind := by
      rw [kind]
      decide
    obtain ⟨found, stepped, inside⟩ := gather_ok attributesDone known
    rw [attributeStatement_string index rfl rfl tagged] at stepped
    cases stepped
    simp [inside List.mem_cons_self]

theorem mem_configuration_of_mem {document : Document} {options : Options} {index : Nat}
    {object : Object} (found : document.object? index = some object)
    (declared : (finalScope document options).isExcluded index = false)
    {statements : List Statement} {statement : Statement}
    (configured : configuration (finalScope document options) index object = .ok statements)
    (written : statement ∈ statements) :
    Code.indented options.indent (statement.write (finalScope document options)) ∈
      (Code.ofDocument document options).configuration := by
  have line : ⟨index, statement⟩ ∈ (Plan.ofDocument document options).configuration := by
    rw [configuration_eq_passLines, mem_passLines, finalScope_document]
    refine ⟨object, found, declared, ?_⟩
    rw [configurationYield, configured]
    exact written
  exact List.mem_map_of_mem line

/-! ## The code of a document with one object -/

def single (object : Object) : Document :=
  ⟨[object], [0], .empty, .empty, []⟩

section Single

variable {object : Object} (options : Options)

theorem isExcluded_single (generated : object.kind.isGenerated = true) :
    (Scope.initial (single object) options).isExcluded 0 = false := by
  simp [Scope.isExcluded, Scope.initial, Document.object?, single, generated]

theorem settled_single (generated : object.kind.isGenerated = true) {statements : List Statement}
    (configured : configuration (.initial (single object) options) 0 object = .ok statements) :
    settled (single object) options = (.initial (single object) options, []) := by
  have order : (single object).generationOrder = [0] := rfl
  have held : (single object).object? 0 = some object := rfl
  have document : (Scope.initial (single object) options).document = single object := rfl
  simp [settled, order, settle, document, held, isExcluded_single options generated, configured]

/-- An object that has nothing but its configuration gives just that. -/
theorem ofDocument_single (generated : object.kind.isGenerated = true)
    {statements : List Statement}
    (configured : configuration (.initial (single object) options) 0 object = .ok statements)
    (children : object.children = []) (connections : object.connections = [])
    (constraints : object.constraints = []) :
    Code.ofDocument (single object) options =
      ⟨statements.map fun statement => Code.indented options.indent
        (statement.write (.initial (single object) options)), [], [], []⟩ := by
  have order : (single object).generationOrder = [0] := rfl
  have held : (single object).object? 0 = some object := rfl
  have document : (Scope.initial (single object) options).document = single object := rfl
  have wiring : subviews (.initial (single object) options) 0 object = .nothing := by
    simp [subviews, children, connections, Yield.concat, Yield.append, Yield.nothing]
  have activations : Swift.constraints (.initial (single object) options) 0 object = .nothing := by
    simp [Swift.constraints, constraints, Yield.concat]
  simp [Code.ofDocument, settled_single options generated configured, Plan.ofScope, document, order,
    pass, held, isExcluded_single options generated, configurationYield, configured, wiring,
    activations, Code.ofPlan, Yield.nothing]

end Single

/-! ## Labels -/

def plainLabel (attributes : Table Scalar) (texts : List (String × String)) : Object :=
  { Object.bare "label" .label with
    attributes
    auxiliaries := texts.map fun (key, text) => .text key text }

def textAttribute {α : Type} (value : α) : Table α :=
  ⟨[("text", value)], by simp⟩

def labelCode (text : String) : Code :=
  ⟨["let label = UILabel()", "label.text = " ++ string text], [], [], []⟩

theorem nameOf_plainLabel (attributes : Table Scalar) (texts : List (String × String)) :
    (Scope.initial (single (plainLabel attributes texts)) .standard).nameOf 0 = "label" := by
  have base : sanitize (identifierCharacters (Text.camel "label")) = "label" := by decide +kernel
  have free : freeName (reserved Options.standard.ownerName) "label" = "label" := by decide +kernel
  simp only [Scope.initial, Scope.nameOf, names, single, assignNames, fixedName?, baseName,
    plainLabel, Object.bare]
  simp [base, free]

theorem ofDocument_plainLabel {attributes : Table Scalar} {texts : List (String × String)}
    {statements : List Statement} {text : String}
    (gathered : gather (attributeStatement 0 (plainLabel attributes texts))
      (Property.ofKind .label) = .ok statements)
    (once : statements ++ texts.map (fun (key, text) =>
      Statement.assign 0 key (.literal (string text))) =
        [.assign 0 "text" (.literal (string text))]) :
    Code.ofDocument (single (plainLabel attributes texts)) .standard = labelCode text := by
  have configured := configuration_texts (.initial (single (plainLabel attributes texts)) .standard)
    0 (rfl : (plainLabel attributes texts).auxiliaries = _) gathered
  rw [List.cons_append, once] at configured
  have connections := connections_texts (rfl : (plainLabel attributes texts).auxiliaries = _)
  have indent : Options.standard.indent = "" := rfl
  have className : (plainLabel attributes texts).className = "UILabel" := rfl
  have arguments : initializer (plainLabel attributes texts) = "" := rfl
  rw [ofDocument_single .standard rfl configured rfl connections rfl]
  simp [Statement.write, Expression.write, nameOf_plainLabel, Code.indented, indent, className,
    arguments, labelCode]

theorem gather_textAttribute (text : String) :
    gather (attributeStatement 0 (plainLabel (textAttribute (.parse text)) []))
      (Property.ofKind .label) = .ok [.assign 0 "text" (.literal (string text))] := by
  have keyed : ∀ property ∈ Property.ofKind .label, property.key = "text" →
      property = ⟨"text", "text", .string, none⟩ := by decide
  have each : ∀ property ∈ Property.ofKind .label,
      attributeStatement 0 (plainLabel (textAttribute (.parse text)) []) property =
        .ok (if property.key = "text" then [.assign 0 "text" (.literal (string text))]
          else []) := by
    intro property member
    by_cases same : property.key = "text"
    · obtain rfl := keyed property member same
      exact attributeStatement_string 0 rfl rfl rfl
    · have absent : (plainLabel (textAttribute (.parse text)) []).attribute? property.key = none :=
        List.lookup_eq_none_iff.mpr (by simpa [plainLabel, textAttribute] using same)
      rw [attributeStatement, absent, if_neg same]
  exact gather_each each

theorem ofDocument_textAttribute (text : String) :
    Code.ofDocument (single (plainLabel (textAttribute (.parse text)) [])) .standard =
      labelCode text := by
  apply ofDocument_plainLabel (gather_textAttribute text)
  rfl

theorem ofDocument_textValue (text : String) :
    Code.ofDocument (single (plainLabel .empty [("text", text)])) .standard = labelCode text := by
  apply ofDocument_plainLabel
  · exact gather_nothing fun property _ => rfl
  · rfl

end Swift

/-! ## Where the text of a label is written -/

namespace Xml

open Reading

/-- The places for the text of a label: two child elements, and an attribute of a label with two
tags or one. -/
inductive TextPlace where
  | mutableString
  | string
  | openTag
  | emptyTag

def TextPlace.source (text : String) : TextPlace → String :=
  let written := String.ofList (escape text)
  fun
  | .mutableString => "<label><mutableString key='text'>" ++ written ++ "</mutableString></label>"
  | .string => "<label><string key='text'>" ++ written ++ "</string></label>"
  | .openTag => "<label text=\"" ++ written ++ "\"></label>"
  | .emptyTag => "<label text=\"" ++ written ++ "\"/>"

def textKey : Table String :=
  ⟨[("key", "text")], by simp⟩

theorem isName_label : IsName "label" := by
  decide

theorem isName_of_mem_empty : ∀ key ∈ (Table.empty : Table String).keys, IsName key := by
  decide

theorem isName_of_mem_textKey : ∀ key ∈ textKey.keys, IsName key := by
  decide

/-- A label with its text in a child element, given how the tag of the child is read. -/
theorem parse_child {tag : String} {content : List Char} (named : IsName tag)
    (opens : ∀ after, readPiece '<' (content ++ '>' :: after) = .ok (.openTag content, after))
    (means : Attribute.ofTag content = (tag, .ok textKey)) {text source : String}
    (written : source.toList = "<label><".toList ++ content ++ '>' :: (escape text ++
      "</".toList ++ tag.toList ++ "></label>".toList)) :
    Element.parse source = .ok ⟨"label", .empty, "", [⟨tag, textKey, text, []⟩]⟩ := by
  have childSpelled : Element.Spelled ⟨tag, textKey, text, []⟩ :=
    ⟨named, isName_of_mem_textKey, fun parent => absurd rfl parent⟩
  have labelSpelled : Element.Spelled ⟨"label", .empty, "", [⟨tag, textKey, text, []⟩]⟩ :=
    ⟨isName_label, isName_of_mem_empty, fun _ visible => absurd rfl visible⟩
  have shape : dropMark source.toList =
      '<' :: ("label".toList ++ renderAttributes .empty ++ '>' :: '<' :: (content ++ '>' ::
        (escape text ++ '<' :: ('/' :: tag.toList ++ '>' ::
          '<' :: ('/' :: "label".toList ++ '>' :: []))))) := by
    rw [written]
    simp [dropMark, renderAttributes, Table.empty]
  have run : Run ⟨[], .initial, dropMark source.toList⟩
      ⟨[], ⟨[], some ⟨"label", .empty, "", [⟨tag, textKey, text, []⟩]⟩⟩, []⟩ := by
    rw [shape]
    apply Relation.ReflTransGen.head (step_open isName_label isName_of_mem_empty .initial _)
    apply Relation.ReflTransGen.head (.piece (opens _) (by rw [Event.ofPiece, means]) rfl)
    apply (run_text _ text _).trans
    rw [Element.withText, String.empty_append]
    apply Relation.ReflTransGen.head (step_close childSpelled rfl _)
    exact .single (step_close labelSpelled rfl [])
  exact run.parse_eq

theorem parse_mutableString (text : String) :
    Element.parse (TextPlace.mutableString.source text) =
      .ok ⟨"label", .empty, "", [⟨"mutableString", textKey, text, []⟩]⟩ := by
  have opens (after : List Char) :
      readPiece '<' ("mutableString key='text'".toList ++ '>' :: after) =
        .ok (.openTag "mutableString key='text'".toList, after) := rfl
  have means : Attribute.ofTag "mutableString key='text'".toList =
      ("mutableString", .ok textKey) := rfl
  apply parse_child (by decide) opens means
  simp [TextPlace.source]

theorem parse_string (text : String) :
    Element.parse (TextPlace.string.source text) =
      .ok ⟨"label", .empty, "", [⟨"string", textKey, text, []⟩]⟩ := by
  have opens (after : List Char) : readPiece '<' ("string key='text'".toList ++ '>' :: after) =
      .ok (.openTag "string key='text'".toList, after) := rfl
  have means : Attribute.ofTag "string key='text'".toList = ("string", .ok textKey) := rfl
  apply parse_child (by decide) opens means
  simp [TextPlace.source]

theorem isName_of_mem_textAttribute (text : String) :
    ∀ key ∈ (Swift.textAttribute text).keys, IsName key := by
  intro key member
  obtain rfl : key = "text" := List.mem_singleton.mp member
  decide

theorem parse_openTag (text : String) :
    Element.parse (TextPlace.openTag.source text) =
      .ok ⟨"label", Swift.textAttribute text, "", []⟩ := by
  have spelled : Element.Spelled ⟨"label", Swift.textAttribute text, "", []⟩ :=
    ⟨isName_label, isName_of_mem_textAttribute text, fun parent => absurd rfl parent⟩
  have shape : dropMark (TextPlace.openTag.source text).toList =
      Element.render ⟨"label", Swift.textAttribute text, "", []⟩ ++ [] := by
    simp [TextPlace.source, dropMark, Element.render, Element.renderAll, renderAttributes,
      Swift.textAttribute, escape]
  have run := run_render _ (.node spelled (List.forall_mem_nil _))
    (rfl : Assembly.initial.attach _ = _) [] []
  rw [← shape] at run
  exact run.parse_eq

theorem parse_emptyTag (text : String) :
    Element.parse (TextPlace.emptyTag.source text) =
      .ok ⟨"label", Swift.textAttribute text, "", []⟩ := by
  have shape : dropMark (TextPlace.emptyTag.source text).toList =
      '<' :: ("label".toList ++ renderAttributes (Swift.textAttribute text) ++ ['/', '>']) := by
    simp [TextPlace.source, dropMark, renderAttributes, Swift.textAttribute]
  have run : Run ⟨[], .initial, dropMark (TextPlace.emptyTag.source text).toList⟩
      ⟨[], ⟨[], some ⟨"label", Swift.textAttribute text, "", []⟩⟩, []⟩ := by
    rw [shape]
    have named := isName_of_mem_textAttribute text
    apply Relation.ReflTransGen.single
    apply Step.piece (readPiece_emptyTag isName_label named [])
    · rw [Event.ofPiece, Attribute.ofTag_render isName_label named]
    · rfl
  exact run.parse_eq

end Xml

namespace Document

theorem ofElement_child {tag : String} (known : tag = "mutableString" ∨ tag = "string")
    (text : String) :
    ofElement .cocoaTouch ⟨"label", .empty, "", [⟨tag, Xml.textKey, text, []⟩]⟩ =
      .ok (Swift.single (Swift.plainLabel .empty [("text", text)])) := by
  obtain rfl | rfl := known
  · rfl
  · rfl

theorem ofElement_attribute (text : String) :
    ofElement .cocoaTouch ⟨"label", Swift.textAttribute text, "", []⟩ =
      .ok (Swift.single (Swift.plainLabel (Swift.textAttribute (.parse text)) [])) := by
  rfl

end Document

namespace Swift

open Xml (TextPlace)

theorem ofText_textPlace (place : TextPlace) (text : String) :
    Code.ofText (place.source text) = .ok (labelCode text) := by
  cases place with
  | mutableString =>
      rw [Code.ofText, Document.ofText, Xml.parse_mutableString]
      simp only [Document.ofElement_child (.inl rfl), Except.map, ofDocument_textValue]
  | string =>
      rw [Code.ofText, Document.ofText, Xml.parse_string]
      simp only [Document.ofElement_child (.inr rfl), Except.map, ofDocument_textValue]
  | openTag =>
      rw [Code.ofText, Document.ofText, Xml.parse_openTag]
      simp only [Document.ofElement_attribute, Except.map, ofDocument_textAttribute]
  | emptyTag =>
      rw [Code.ofText, Document.ofText, Xml.parse_emptyTag]
      simp only [Document.ofElement_attribute, Except.map, ofDocument_textAttribute]

/-- Whatever the text of a label is and wherever it is written, the code assigns a literal that
means exactly this text. In any document and with any options, a label that is declared at all has
such a line for every text that it was given. -/
theorem label_text_survives :
    (∀ (place : TextPlace) (text : String), ∃ literal,
      Code.ofText (place.source text) =
          .ok ⟨["let label = UILabel()", "label.text = " ++ literal], [], [], []⟩ ∧
        scan literal.toList = some (text.toList, [])) ∧
    ∀ (document : Document) (options : Options) (index : Nat) (object : Object) (text : String),
      document.object? index = some object → object.kind = .label →
      (finalScope document options).isExcluded index = false → HasText object text →
      ∃ literal,
        options.indent ++ ((finalScope document options).nameOf index ++ ".text = " ++ literal) ∈
            (Code.ofDocument document options).configuration ∧
          scan literal.toList = some (text.toList, []) := by
  have meaning (text : String) : scan (string text).toList = some (text.toList, []) := by
    rw [← List.append_nil (string text).toList]
    exact scan_string text []
  constructor
  · intro place text
    have code := ofText_textPlace place text
    rw [labelCode] at code
    exact ⟨string text, code, meaning text⟩
  · intro document options index object text found kind declared given
    obtain ⟨_, statements, configured⟩ := (declared_iff found).mp declared
    have written := assign_text_mem kind given configured
    have line := mem_configuration_of_mem found declared configured written
    have spelled : Statement.write (finalScope document options)
        (.assign index "text" (.literal (string text))) =
        (finalScope document options).nameOf index ++ ".text = " ++ string text := by
      simp [Statement.write, Expression.write, String.append_assoc]
    rw [spelled] at line
    exact ⟨string text, line, meaning text⟩

end Swift

end Xib
