import Xib.Proofs.Encoding
import Xib.Proofs.Lines
import Xib.Proofs.Provenance

/-!
# Attributes are carried over as they were written

An attribute goes from the element through the object into an assignment. On the way its value is
sorted by what it looks like, and only later read as what the property takes; the names that
describe an object are lifted out. Main statement: nothing of the texts is lost or reordered, and
what the code assigns is made of the text of the markup (`attributes_carried_over`).
-/

namespace Xib

set_option autoImplicit false

open Xml (Element)

/-! ## From the element to the object -/

namespace Object

/-- An object holds the attributes of an element: five of them as its own fields, two not at all,
and all others in their order, with the texts they were written with. -/
structure Carries (element : Element) (object : Object) : Prop where
  identifier : object.identifier = element.attribute? "id"
  userLabel : object.userLabel = element.attribute? "userLabel"
  customClass : object.customClass = element.attribute? "customClass"
  customModule : object.customModule = element.attribute? "customModule"
  key : object.key = element.attribute? "key"
  others : object.attributes.entries.map (fun entry => (entry.1, entry.2.raw)) =
    element.attributes.entries.filter fun entry =>
      entry.1 ∉ ["id", "userLabel", "customClass", "customModule", "key", "customModuleProvider",
        "placeholderIdentifier"]

theorem carries_ofElement (index : Nat) (kind : Kind) (parent : Option Nat) (element : Element) :
    Carries element (ofElement index kind parent element) where
  identifier := rfl
  userLabel := rfl
  customClass := rfl
  customModule := rfl
  key := rfl
  others := by
    have back : (fun entry : String × String => (entry.1, (Scalar.parse entry.2).raw)) = id := by
      funext entry
      rw [Scalar.raw_parse, id]
    simp only [ofElement, Table.filterMap, List.map_map, Function.comp_def, back, List.map_id]
    simp [bookkeeping]

theorem attribute?_ofElement (index : Nat) (kind : Kind) (parent : Option Nat) (element : Element)
    {name : String} (configures : name ∉ bookkeeping) :
    (ofElement index kind parent element).attribute? name =
      (element.attribute? name).map Scalar.parse := by
  rw [attribute?, ofElement, Table.get?_filterMap, if_pos (by simpa using configures)]
  rfl

end Object

namespace Document

section Accounts

variable {registry : Registry} {elements : List Element} {log : List (Nat × Warning)} {index : Nat}
  {element : Element} {object : Object} {contributions : List Contribution}

/-- Children, values and constraints are all that is added to an object after its element. -/
theorem Accounts.carries
    (accounts : Accounts registry elements log index element object contributions) :
    Object.Carries element object := by
  obtain ⟨kind, parent, _, same⟩ := accounts.made
  have carries := Object.carries_ofElement index kind parent element
  rw [same]
  exact ⟨carries.identifier, carries.userLabel, carries.customClass, carries.customModule,
    carries.key, carries.others⟩

theorem Accounts.attribute?_eq
    (accounts : Accounts registry elements log index element object contributions) {name : String}
    (configures : name ∉ Object.bookkeeping) :
    object.attribute? name = (element.attribute? name).map Scalar.parse := by
  obtain ⟨kind, parent, _, same⟩ := accounts.made
  rw [← Object.attribute?_ofElement index kind parent element configures, same]
  rfl

end Accounts

end Document

/-! ## From the object to the assignment -/

namespace Swift

theorem Property.key_not_mem_bookkeeping {kind : Kind} {property : Property}
    (member : property ∈ ofKind kind) : property.key ∉ Object.bookkeeping := by
  have each : ∀ table ∈ allTables, ∀ property ∈ table, property.key ∉ Object.bookkeeping := by
    decide +kernel
  obtain ⟨table, listed, inside⟩ := mem_merge member
  exact each table (tables_subset kind listed) property inside

namespace ValueKind

def Accepts (raw : String) : ValueKind → Prop
  | .boolean => raw = "YES" ∨ raw = "NO"
  | .number => Scalar.isNumeric raw = true
  | .member | .string | .image => True

/-- What is written for the text of an attribute. Only flags are not made of the text itself. -/
def expression (key raw : String) : ValueKind → String
  | .boolean => if raw = "YES" then "true" else "false"
  | .number => raw
  | .member => "." ++ Swift.member key raw
  | .string => Swift.string raw
  | .image => Swift.image raw

end ValueKind

theorem flag?_parse (raw : String) :
    (Scalar.parse raw).flag? =
      if raw = "YES" then some true else if raw = "NO" then some false else none := by
  unfold Scalar.parse
  split
  · rfl
  · split
    · rfl
    · split <;> rfl

theorem number?_parse (raw : String) :
    (Scalar.parse raw).number? = if Scalar.isNumeric raw = true then some raw else none := by
  unfold Scalar.parse
  split
  · rename_i same
    rw [same]
    decide +kernel
  · split
    · rename_i same
      rw [same]
      decide +kernel
    · split <;> rfl

theorem scalar_parse_eq_ok_iff {property : Property} {raw code : String} :
    scalar property (.parse raw) = .ok code ↔
      property.kind.Accepts raw ∧ code = property.kind.expression property.key raw := by
  unfold scalar
  cases property.kind with
  | boolean =>
      simp only [flag?_parse, ValueKind.Accepts, ValueKind.expression]
      by_cases yes : raw = "YES"
      · simp [yes, boolean, eq_comm]
      · by_cases no : raw = "NO"
        · simp [no, boolean, eq_comm]
        · simp [yes, no]
  | number =>
      simp only [number?_parse, ValueKind.Accepts, ValueKind.expression]
      by_cases numeric : Scalar.isNumeric raw = true
      · simp [numeric, eq_comm]
      · simp [numeric]
  | member =>
      simp [ValueKind.Accepts, ValueKind.expression, enumeration, Scalar.raw_parse, eq_comm]
  | string => simp [ValueKind.Accepts, ValueKind.expression, Scalar.raw_parse, eq_comm]
  | image => simp [ValueKind.Accepts, ValueKind.expression, Scalar.raw_parse, eq_comm]

/-- The assignment that an attribute of an element stands for: none if it is absent or has the
default value of the property. -/
def assignments (index : Nat) (element : Element) (property : Property) : List Statement :=
  ((element.attribute? property.key).filter fun raw => property.default ≠ some raw).toList.map
    fun raw => .assign index property.name
      (.literal (property.kind.expression property.key raw))

def Admits (element : Element) (property : Property) : Prop :=
  ∀ raw, element.attribute? property.key = some raw → property.default ≠ some raw →
    property.kind.Accepts raw

theorem attributeStatement_eq_ok_iff (index : Nat) {element : Element} {object : Object}
    {property : Property}
    (carried : object.attribute? property.key = (element.attribute? property.key).map .parse)
    {statements : List Statement} :
    attributeStatement index object property = .ok statements ↔
      Admits element property ∧ statements = assignments index element property := by
  unfold attributeStatement Admits assignments
  rw [carried]
  cases element.attribute? property.key with
  | none => simp [eq_comm]
  | some raw =>
      simp only [Option.map_some, Scalar.raw_parse, Option.some.injEq, forall_eq']
      by_cases usual : property.default = some raw
      · simp [usual, Option.filter, eq_comm]
      · simp only [usual, if_false, ne_eq, not_false_iff, true_implies]
        constructor
        · intro done
          obtain ⟨code, written, done⟩ := bind_ok done
          obtain ⟨accepted, rfl⟩ := scalar_parse_eq_ok_iff.mp written
          cases done
          exact ⟨accepted, by simp [Option.filter, usual]⟩
        · rintro ⟨accepted, rfl⟩
          rw [scalar_parse_eq_ok_iff.mpr ⟨accepted, rfl⟩]
          simp [Option.filter, usual, bind, Except.bind, pure, Except.pure]

/-- The attributes of an object that can be configured are assigned in the order of the properties
of its kind, each as the element has it. -/
theorem configuration_assignments {scope : Scope} {index : Nat} {element : Element}
    {object : Object}
    (carried : ∀ property ∈ Property.ofKind object.kind,
      object.attribute? property.key = (element.attribute? property.key).map .parse)
    {statements : List Statement} (done : configuration scope index object = .ok statements) :
    (∀ property ∈ Property.ofKind object.kind, Admits element property) ∧
      ∃ others, statements = .declare index object.className (initializer object) ::
        ((Property.ofKind object.kind).flatMap (assignments index element) ++ others) := by
  obtain ⟨attributes, frame, values, runtime, states, outlets, gathered, _, _, _, _, _, rfl⟩ :=
    configuration_parts done
  have each : ∀ property ∈ Property.ofKind object.kind, Admits element property ∧
      attributeStatement index object property = .ok (assignments index element property) := by
    intro property member
    obtain ⟨found, stepped, _⟩ := gather_ok gathered member
    obtain ⟨admits, rfl⟩ :=
      (attributeStatement_eq_ok_iff index (carried property member)).mp stepped
    exact ⟨admits, stepped⟩
  have whole := gather_each fun property member => (each property member).2
  cases Except.ok.inj (gathered.symm.trans whole)
  refine ⟨fun property member => (each property member).1,
    frame ++ values ++ runtime ++ states ++ outlets, ?_⟩
  simp only [List.append_assoc]

/-- Attributes are carried over as they were written. In a built document the object at every
position holds the attributes of the element at that position. If it is declared, its lines are one
block: after the declaration come the assignments of the attributes that its kind recognizes, each
with an expression made of the text that the element has. -/
theorem attributes_carried_over (registry : Registry) (source : String) (document : Document)
    (built : Document.ofText registry source = .ok document) :
    ∃ root, Element.parse source = .ok root ∧
      let elements := Mark.elements (outline registry root)
      (∀ element, element ∈ elements ↔ Structural registry root element) ∧
      elements.length = document.size ∧
      ∀ index element object, elements[index]? = some element →
        document.object? index = some object →
        Object.Carries element object ∧
        ∀ options, (settled document options).1.isExcluded index = false →
          (∀ property ∈ Property.ofKind object.kind, Admits element property) ∧
          ∃ before others after,
            (Plan.ofDocument document options).configuration =
              before ++ (Statement.declare index object.className (initializer object) ::
                ((Property.ofKind object.kind).flatMap (assignments index element) ++
                  others)).map (Line.mk index) ++ after ∧
            ∀ line ∈ before ++ after, line.owner ≠ index := by
  obtain ⟨root, parsed, made⟩ := Document.ofText_ok built
  obtain ⟨log, records⟩ := Document.ofElement_records made
  have total : (Mark.elements (outline registry root)).length = document.size := by
    rw [records.size]
    exact (Nat.zero_add _).symm
  refine ⟨root, parsed, mem_outline_elements, total, ?_⟩
  intro index element object stands found
  obtain ⟨contributions, accounts⟩ :=
    records.accounts index element object (Nat.zero_le index) stands found
  refine ⟨accounts.carries, ?_⟩
  intro options declared
  obtain ⟨_, statements, configured⟩ := (declared_iff found).mp declared
  have carried : ∀ property ∈ Property.ofKind object.kind,
      object.attribute? property.key = (element.attribute? property.key).map .parse :=
    fun _ member => accounts.attribute?_eq (Property.key_not_mem_bookkeeping member)
  obtain ⟨admits, others, rfl⟩ := configuration_assignments carried configured
  have known : (finalScope document options).document.object? index = some object := by
    rw [finalScope_document]
    exact found
  obtain ⟨before, after, split, foreign⟩ := passLines_split (finalScope document options)
    (configurationYield (finalScope document options))
    ((finalScope document options).document.lt_size_of_object? known)
  rw [blockAt, yieldAt_declared known declared, configurationYield, configured] at split
  refine ⟨admits, before, others, after, ?_, foreign⟩
  rw [configuration_eq_passLines, split]

def titleSource : String :=
  "<label text='007' id='t' alpha='0.50' contentMode='left' userLabel='Title' extra='x'/>"

theorem titleSource_carried :
    ∃ document element object, Document.ofText .cocoaTouch titleSource = .ok document ∧
      document.object? 0 = some object ∧ Object.Carries element object ∧
      object.identifier = some "t" ∧
      (Plan.ofDocument document .standard).configuration.map Line.statement =
        [.declare 0 "UILabel" "", .assign 0 "contentMode" (.literal ".left"),
          .assign 0 "alpha" (.literal "0.50"), .assign 0 "text" (.literal "\"007\"")] ∧
      ∀ property ∈ Property.ofKind object.kind, Admits element property := by
  have facts : (Document.ofText .cocoaTouch titleSource).toOption.map (fun document =>
      ((document.object? 0).map Object.identifier, document.size,
        (settled document .standard).1.isExcluded 0,
        (Plan.ofDocument document .standard).configuration.map Line.statement)) =
      some (some (some "t"), 1, false,
        [.declare 0 "UILabel" "", .assign 0 "contentMode" (.literal ".left"),
          .assign 0 "alpha" (.literal "0.50"), .assign 0 "text" (.literal "\"007\"")]) := by
    decide +kernel
  cases built : Document.ofText .cocoaTouch titleSource with
  | error reason =>
      rw [built] at facts
      cases facts
  | ok document =>
      rw [built] at facts
      simp only [Except.toOption, Option.map_some, Option.some.injEq, Prod.mk.injEq,
        Option.map_eq_some_iff] at facts
      obtain ⟨⟨object, found, identifier⟩, one, declared, lines⟩ := facts
      obtain ⟨root, _, _, total, carried⟩ :=
        attributes_carried_over .cocoaTouch titleSource document built
      have inside : 0 < (Mark.elements (outline .cocoaTouch root)).length := by omega
      obtain ⟨carries, configured⟩ :=
        carried 0 _ object (List.getElem?_eq_getElem inside) found
      exact ⟨document, _, object, rfl, found, carries, identifier, lines,
        (configured .standard declared).1⟩

end Swift

end Xib
