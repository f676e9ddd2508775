import Xib.Proofs.Encoding
import Xib.Proofs.LabelText

/-!
# Quoted texts

Which texts of an object its configuration writes as literals: titles, strings and names of images,
colors, fonts and reuse identifiers, wherever the markup may have them. Main statement: literals
are self-delimiting, and every text that a declared object quotes stands in a line as a literal
from which it can be read, whatever it contains (`literals_self_delimiting`).
-/

namespace Xib

set_option autoImplicit false

/-! ## What is quoted -/

/-- A name takes precedence over everything else a color has. -/
def Color.quoted (color : Color) : List String :=
  color.name.toList

/-- A font is named only if it has neither a style nor a type. -/
def Font.quoted (font : Font) : List String :=
  if font.style.isNone && font.type.isNone then (font.name.or font.family).toList else []

def RuntimeValue.quoted : RuntimeValue → List String
  | .string text | .localizedString text | .image text => [text]
  | .color value => value.quoted
  | .number _ | .flag _ | .size _ | .point _ | .rect _ | .nil | .missing _ => []

def ButtonState.quoted (state : ButtonState) : List String :=
  state.title.toList ++ state.image.toList ++ state.backgroundImage.toList ++
    state.titleColor.toList.flatMap Color.quoted ++
    state.titleShadowColor.toList.flatMap Color.quoted

namespace Swift

def ValueKind.quoted (value : Scalar) : ValueKind → List String
  | .string | .image => [value.raw]
  | .boolean | .number | .member => []

def initializerQuotations (object : Object) : List String :=
  if object.kind = .tableViewCell then
    ((object.attribute? "reuseIdentifier").map Scalar.raw).toList
  else []

/-- An attribute with its default value is not written. -/
def attributeQuotations (object : Object) (property : Property) : List String :=
  match object.attribute? property.key with
  | none => []
  | some value =>
      if property.default = some value.raw then [] else property.kind.quoted value

def valueQuotations : Auxiliary → List String
  | .color _ value => value.quoted
  | .font _ value => value.quoted
  | .text _ text => [text]
  | _ => []

def runtimeQuotations : Auxiliary → List String
  | .runtime ⟨_, value⟩ => value.quoted
  | _ => []

/-- The texts of an object that its configuration writes as literals. -/
def quotations (object : Object) : List String :=
  initializerQuotations object ++ (Property.ofKind object.kind).flatMap (attributeQuotations object) ++
    object.auxiliaries.flatMap valueQuotations ++ object.auxiliaries.flatMap runtimeQuotations ++
    (if object.kind = .button then object.states else []).flatMap ButtonState.quoted

/-! ## Where it is quoted -/

def Quotes (text code : String) : Prop :=
  ∃ before after, code = before ++ string text ++ after

namespace Quotes

variable {text code : String}

theorem literal (text : String) : Quotes text (string text) :=
  ⟨"", "", by simp⟩

theorem between (quotes : Quotes text code) (before after : String) :
    Quotes text (before ++ code ++ after) := by
  obtain ⟨inner, outer, rfl⟩ := quotes
  exact ⟨before ++ inner, outer ++ after, by simp only [String.append_assoc]⟩

theorem behind (quotes : Quotes text code) (before : String) : Quotes text (before ++ code) := by
  simpa using quotes.between before ""

theorem image (name : String) : Quotes name (Swift.image name) :=
  (literal name).between "UIImage(named: " ")"

theorem localizedString (text : String) : Quotes text (Swift.localizedString text) :=
  (literal text).between "NSLocalizedString(" ", comment: \"\")"

theorem color {value : Color} (named : text ∈ value.quoted) (done : Swift.color value = .ok code) :
    Quotes text code := by
  have name : value.name = some text := by simpa [Color.quoted] using named
  unfold Swift.color at done
  rw [name] at done
  cases done
  exact (literal text).between "UIColor(named: " ")"

theorem font {value : Font} (named : text ∈ value.quoted) (done : Swift.font value = .ok code) :
    Quotes text code := by
  unfold Font.quoted at named
  split at named
  · rename_i alone
    simp only [Bool.and_eq_true, Option.isNone_iff_eq_none] at alone
    have name : value.name.or value.family = some text := by simpa using named
    unfold Swift.font at done
    rw [alone.1] at done
    obtain ⟨size, _, done⟩ := bind_ok done
    rw [alone.2, name] at done
    cases done
    change Quotes text ("UIFont(name: " ++ string text ++ ", size: " ++ size ++ ")")
    have argument := (literal text).between "UIFont(name: " (", size: " ++ size ++ ")")
    simpa only [String.append_assoc] using argument
  · simp at named

theorem scalar {property : Property} {value : Scalar} (kept : text ∈ property.kind.quoted value)
    (done : Swift.scalar property value = .ok code) : Quotes text code := by
  unfold Swift.scalar at done
  cases kind : property.kind with
  | string =>
      rw [kind] at kept done
      cases done
      rw [List.mem_singleton.mp kept]
      exact literal value.raw
  | image =>
      rw [kind] at kept done
      cases done
      rw [List.mem_singleton.mp kept]
      exact image value.raw
  | boolean | number | member =>
      rw [kind] at kept
      simp [ValueKind.quoted] at kept

theorem runtime {value : RuntimeValue} (kept : text ∈ value.quoted)
    (done : runtimeCode value = .ok code) : Quotes text code := by
  cases value with
  | string content =>
      cases done
      rw [List.mem_singleton.mp kept]
      exact literal content
  | localizedString content =>
      cases done
      rw [List.mem_singleton.mp kept]
      exact localizedString content
  | image name =>
      cases done
      rw [List.mem_singleton.mp kept]
      exact image name
  | color value => exact color kept done
  | _ => simp [RuntimeValue.quoted] at kept

end Quotes

def QuotesAll (scope : Scope) (statements : List Statement) (texts : List String) : Prop :=
  ∀ text ∈ texts, ∃ statement ∈ statements, Quotes text (statement.write scope)

namespace QuotesAll

variable {scope : Scope} {statements more : List Statement} {texts others : List String}

theorem one {statement : Statement} (each : ∀ text ∈ texts, Quotes text (statement.write scope)) :
    QuotesAll scope [statement] texts := by
  intro text member
  exact ⟨statement, List.mem_cons_self, each text member⟩

theorem mono (quotes : QuotesAll scope statements texts) (inside : statements ⊆ more) :
    QuotesAll scope more texts := by
  intro text member
  obtain ⟨statement, written, quoted⟩ := quotes text member
  exact ⟨statement, inside written, quoted⟩

theorem append (first : QuotesAll scope statements texts) (second : QuotesAll scope more others) :
    QuotesAll scope (statements ++ more) (texts ++ others) := by
  intro text member
  obtain former | latter := List.mem_append.mp member
  · exact first.mono (List.subset_append_left _ _) text former
  · exact second.mono (List.subset_append_right _ _) text latter

theorem gather {α : Type} {step : α → Except GenerationError (List Statement)} {items : List α}
    {texts : α → List String} {all : List Statement}
    (each : ∀ item found, step item = .ok found → QuotesAll scope found (texts item))
    (done : gather step items = .ok all) : QuotesAll scope all (items.flatMap texts) := by
  intro text member
  obtain ⟨item, listed, own⟩ := List.mem_flatMap.mp member
  obtain ⟨found, stepped, inside⟩ := gather_ok done listed
  exact (each item found stepped).mono inside text own

end QuotesAll

section Steps

variable (scope : Scope) {index : Nat} {object : Object} {statements : List Statement}

theorem assign_quotesAll {property code : String} {texts : List String}
    (each : ∀ text ∈ texts, Quotes text code) :
    QuotesAll scope [.assign index property (.literal code)] texts :=
  .one fun text member =>
    (each text member).behind (scope.nameOf index ++ "." ++ property ++ " = ")

theorem call_quotesAll {method code : String} (state : ControlState) {texts : List String}
    (each : ∀ text ∈ texts, Quotes text code) :
    QuotesAll scope [.call index method (code ++ ", for: ." ++ state.name)] texts := by
  apply QuotesAll.one
  intro text member
  have argument := ((each text member).between (scope.nameOf index ++ "." ++ method ++ "(")
    (", for: ." ++ state.name)).between "" ")"
  simpa [Statement.write, String.append_assoc] using argument

theorem declare_quotesAll :
    QuotesAll scope [.declare index object.className (initializer object)]
      (initializerQuotations object) := by
  apply QuotesAll.one
  intro text member
  unfold initializerQuotations at member
  split at member
  · rename_i cell
    have given : (object.attribute? "reuseIdentifier").map Scalar.raw = some text := by
      simpa using member
    have quoted : Quotes text (initializer object) := by
      unfold initializer
      simp only [cell, given]
      exact (Quotes.literal text).behind _
    exact quoted.between
      ("let " ++ scope.nameOf index ++ " = " ++ object.className ++ "(") ")"
  · simp at member

theorem attributeStatement_quotesAll (property : Property)
    (done : attributeStatement index object property = .ok statements) :
    QuotesAll scope statements (attributeQuotations object property) := by
  unfold attributeStatement at done
  unfold attributeQuotations
  cases present : object.attribute? property.key with
  | none => exact fun text member => absurd member List.not_mem_nil
  | some value =>
      simp only [present] at done
      by_cases default : property.default = some value.raw
      · simp only [if_pos default]
        exact fun text member => absurd member List.not_mem_nil
      · simp only [if_neg default] at done ⊢
        obtain ⟨code, coded, done⟩ := bind_ok done
        cases done
        exact assign_quotesAll scope fun text kept => .scalar kept coded

theorem valueStatements_quotesAll {kind : Kind} (value : Auxiliary)
    (done : valueStatements scope index kind value = .ok statements) :
    QuotesAll scope statements (valueQuotations value) := by
  cases value with
  | color key value =>
      obtain ⟨code, coded, rfl⟩ := map_ok done
      exact assign_quotesAll scope fun text named => .color named coded
  | font key value =>
      obtain ⟨code, coded, rfl⟩ := map_ok done
      exact assign_quotesAll scope fun text named => .font named coded
  | text key content =>
      cases done
      apply assign_quotesAll scope
      intro text member
      rw [List.mem_singleton.mp member]
      exact .literal content
  | _ => exact fun text member => absurd member List.not_mem_nil

theorem runtimeStatements_quotesAll (value : Auxiliary)
    (done : runtimeStatements index value = .ok statements) :
    QuotesAll scope statements (runtimeQuotations value) := by
  cases value with
  | runtime assignment =>
      obtain ⟨property, _, done⟩ := bind_ok done
      obtain ⟨code, coded, done⟩ := bind_ok done
      cases done
      exact assign_quotesAll scope fun text kept => .runtime kept coded
  | _ => exact fun text member => absurd member List.not_mem_nil

theorem calls_quotesAll (state : ControlState) {method : String} {quote : String → String}
    (texts : Option String) (quoted : ∀ text, Quotes text (quote text)) :
    QuotesAll scope (texts.toList.map fun text =>
      .call index method (quote text ++ ", for: ." ++ state.name)) texts.toList := by
  cases texts with
  | none => exact fun text member => absurd member List.not_mem_nil
  | some text =>
      apply call_quotesAll scope state
      intro other member
      rw [List.mem_singleton.mp member]
      exact quoted text

theorem colored_quotesAll (state : ControlState) {value : Option Color} {method : String}
    (done : (match value with
      | none => .ok []
      | some value => (color value).map fun code =>
          [.call index method (code ++ ", for: ." ++ state.name)]) = Except.ok statements) :
    QuotesAll scope statements (value.toList.flatMap Color.quoted) := by
  cases value with
  | none => exact fun text member => absurd member List.not_mem_nil
  | some value =>
      obtain ⟨code, coded, rfl⟩ := map_ok done
      apply call_quotesAll scope state
      intro text member
      exact .color (by simpa using member) coded

theorem stateStatements_quotesAll (state : ButtonState)
    (done : stateStatements index state = .ok statements) :
    QuotesAll scope statements state.quoted := by
  obtain ⟨colors, colored, done⟩ := bind_ok done
  obtain ⟨shadows, shadowed, done⟩ := bind_ok done
  cases done
  exact ((((calls_quotesAll scope state.state state.title Quotes.literal).append
    (calls_quotesAll scope state.state state.image Quotes.image)).append
    (calls_quotesAll scope state.state state.backgroundImage Quotes.image)).append
    (colored_quotesAll scope state.state colored)).append
    (colored_quotesAll scope state.state shadowed)

theorem configuration_quotesAll (done : configuration scope index object = .ok statements) :
    QuotesAll scope statements (quotations object) := by
  obtain ⟨attributes, frame, values, runtime, states, outlets, attributesDone, _, valuesDone,
    runtimeDone, statesDone, _, rfl⟩ := configuration_parts done
  have declared := @declare_quotesAll scope index object
  have attributesQuote := QuotesAll.gather
    (fun property _ => attributeStatement_quotesAll scope property) attributesDone
  have valuesQuote := QuotesAll.gather
    (fun value _ => valueStatements_quotesAll scope value) valuesDone
  have runtimeQuote := QuotesAll.gather
    (fun value _ => runtimeStatements_quotesAll scope value) runtimeDone
  have statesQuote := QuotesAll.gather
    (fun state _ => stateStatements_quotesAll scope state) statesDone
  -- Frames and outlets quote nothing; they only stand between the parts that do.
  apply ((((declared.append attributesQuote).append valuesQuote).append runtimeQuote).append
    statesQuote).mono
  intro statement member
  simp only [List.mem_append, List.mem_cons, List.not_mem_nil, or_false] at member ⊢
  tauto

end Steps

/-! ## Reading quotations back -/

/-- The scanner reads a quoted text where its literal begins, and goes on behind the literal. -/
theorem Quotes.scan_drop {text code : String} (quotes : Quotes text code) :
    ∃ before after, code = before ++ string text ++ after ∧
      scan (code.toList.drop before.length) = some (text.toList, after.toList) := by
  obtain ⟨before, after, rfl⟩ := quotes
  have skipped : (before ++ string text ++ after).toList.drop before.length =
      (string text).toList ++ after.toList := by
    rw [String.toList_append, String.toList_append, List.append_assoc, ← String.length_toList,
      List.drop_left]
  refine ⟨before, after, rfl, ?_⟩
  rw [skipped]
  exact scan_string text after.toList

theorem quotes_line {document : Document} {options : Options} {index : Nat} {object : Object}
    (found : document.object? index = some object)
    (declared : (finalScope document options).isExcluded index = false) {text : String}
    (quoted : text ∈ quotations object) :
    ∃ line ∈ (Code.ofDocument document options).configuration, Quotes text line := by
  obtain ⟨_, statements, configured⟩ := (declared_iff found).mp declared
  obtain ⟨statement, written, quotes⟩ := configuration_quotesAll _ configured text quoted
  exact ⟨_, mem_configuration_of_mem found declared configured written,
    quotes.behind options.indent⟩

/-- A literal shows where it ends. Whatever the text is and whatever follows, the scanner gets the
text out of its literal and stops right behind it, and not before: no part of a literal is one, a
quote inside is escaped, and so is every backslash before a parenthesis. Control characters are
spelled. So no literal begins another, and each text that a declared object quotes can be read in
its line, in whatever document. -/
theorem literals_self_delimiting (text : String) :
    (∀ rest, scan ((string text).toList ++ rest) = some (text.toList, rest)) ∧
    (∀ part, part <+: (string text).toList → part ≠ (string text).toList → scan part = none) ∧
    (∀ before after, (string text).toList = before ++ '"' :: after → before ≠ [] →
      Even (trailingBackslashes before) → after = []) ∧
    (∀ control ∈ ['\n', '\r', '\t'], control ∉ (string text).toList) ∧
    ¬Interpolates (string text).toList ∧
    (∀ other rest more, (string text).toList ++ rest = (string other).toList ++ more →
      text = other ∧ rest = more) ∧
    (∀ other, string text = string other → text = other) ∧
    ∀ (document : Document) (options : Options) (index : Nat) (object : Object),
      document.object? index = some object →
      (finalScope document options).isExcluded index = false → text ∈ quotations object →
      ∃ line ∈ (Code.ofDocument document options).configuration, ∃ before after,
        line = before ++ string text ++ after ∧
          scan (line.toList.drop before.length) = some (text.toList, after.toList) := by
  refine ⟨scan_string text, ?_, ?_, ?_, not_interpolates_string text, ?_, ?_, ?_⟩
  · intro part begins proper
    exact scan_part begins proper
  · intro before after split behind unescaped
    exact unescaped_quote_closes split behind unescaped
  · intro control raw
    exact control_not_mem_string text raw
  · intro other rest more same
    exact string_append_inj same
  · intro other same
    exact string_injective same
  · intro document options index object found declared quoted
    obtain ⟨line, written, quotes⟩ := quotes_line found declared quoted
    exact ⟨line, written, quotes.scan_drop⟩

/-- A title that would interpolate, close its literal and escape the quote that closes it. -/
def hostileTitle : String :=
  "\\(all)\", for: .normal)\n\\"

def hostileButton : Object :=
  { Object.bare "button" .button with
    auxiliaries := [.state ⟨.normal, some hostileTitle, none, none, none, none⟩] }

theorem hostileTitle_read_back :
    ("\"\\\\(all)\\\"".toList <+: (string hostileTitle).toList ∧
      scan "\"\\\\(all)\\\"".toList = none) ∧
    hostileTitle ∈ quotations hostileButton ∧
    ∃ line ∈ (Code.ofDocument (single hostileButton) .standard).configuration, ∃ before after,
      line = before ++ string hostileTitle ++ after ∧
        scan (line.toList.drop before.length) = some (hostileTitle.toList, after.toList) := by
  obtain ⟨_, parts, _, _, _, _, _, lines⟩ := literals_self_delimiting hostileTitle
  have begins : "\"\\\\(all)\\\"".toList <+: (string hostileTitle).toList := by decide +kernel
  have declared : (finalScope (single hostileButton) .standard).isExcluded 0 = false := by
    decide +kernel
  have quoted : hostileTitle ∈ quotations hostileButton := by decide +kernel
  exact ⟨⟨begins, parts _ begins (by decide +kernel)⟩, quoted,
    lines (single hostileButton) .standard 0 hostileButton rfl declared quoted⟩

end Swift

end Xib
