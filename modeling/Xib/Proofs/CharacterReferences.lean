import Xib.Proofs.RoundTrip

/-!
# References in text and in attribute values

The same reference is resolved by two rules, one for text and one for attribute values. Whatever a
value takes, text takes for the same character. Text takes more: a plus sign in front of the digits,
and the character zero. Main statement: a reference means the same in both places, or nothing in
either, exactly unless text takes it with a sign or for that character
(`references_agree_unless_signed_or_zero`).
-/

namespace Xib.Xml

set_option autoImplicit false

namespace Reference

def IsSigned (name : List Char) : Prop :=
  ∃ digits, name = '#' :: '+' :: digits ∨ name = '#' :: 'x' :: '+' :: digits

theorem isSigned_iff (code : List Char) :
    IsSigned ('#' :: code) ↔ (splitRadix code).2.head? = some '+' := by
  unfold IsSigned splitRadix
  split
  · rename_i digits
    cases digits with
    | nil => simp
    | cons first rest => simp
  · rename_i digits decimal
    cases code with
    | nil => simp
    | cons first rest =>
        have noHexadecimal : first ≠ 'x' := by
          rintro rfl
          exact decimal rest rfl
        simp [noHexadecimal]

theorem dropPlus_eq_self {digits : List Char} (unsigned : digits.head? ≠ some '+') :
    dropPlus digits = digits := by
  unfold dropPlus
  split
  · exact absurd rfl unsigned
  · rfl

theorem number_minus (radix : Nat) (rest : List Char) :
    number radix (dropPlus ('-' :: rest)) = .error .invalid := by
  have refused : accumulate radix 0 ('-' :: rest) = .error .invalid := rfl
  have kept : dropPlus ('-' :: rest) = '-' :: rest := dropPlus_eq_self (by simp)
  rw [kept, number, if_neg (List.cons_ne_nil _ _), refused]

theorem eq_zero_iff_of_scalar? {code : Nat} {mark : Char} (valid : scalar? code = some mark) :
    mark = '\x00' ↔ code = 0 := by
  unfold scalar? at valid
  split at valid
  · rename_i isValid
    cases valid
    constructor
    · intro zero
      have same : Char.ofNat code = Char.ofNatAux code isValid := dif_pos isValid
      exact congrArg Char.toNat (same.symm.trans zero)
    · rintro rfl
      rfl
  · cases valid

/-- A character reference in a value is one in text, without a sign and not to zero. -/
theorem codeInValue_eq_ok_iff {code : List Char} {mark : Char} :
    codeInValue code = .ok mark ↔
      inText? ('#' :: code) = some mark ∧ mark ≠ '\x00' ∧ ¬IsSigned ('#' :: code) := by
  rw [isSigned_iff]
  simp only [codeInValue, inText?]
  rcases splitRadix code with ⟨radix, digits⟩
  simp only
  by_cases plus : digits.head? = some '+'
  · simp [plus]
  by_cases minus : digits.head? = some '-'
  · obtain ⟨rest, rfl⟩ := List.head?_eq_some_iff.mp minus
    simp [number_minus]
  rw [dropPlus_eq_self plus]
  simp only [plus, minus, decide_false, Bool.or_self, Bool.false_eq_true, if_false, not_false_iff,
    and_true]
  cases number radix digits with
  | error fault => simp
  | ok value =>
      simp only
      cases valid : scalar? value with
      | none =>
          by_cases zero : value = 0
          · simp [zero]
          · simp [zero]
      | some character =>
          have zeros := eq_zero_iff_of_scalar? valid
          by_cases zero : value = 0
          · obtain rfl := zeros.mpr zero
            simp only [zero, if_true, Option.some.injEq, reduceCtorEq, false_iff, not_and, not_not]
            exact Eq.symm
          · simp only [zero, if_false, Except.ok.injEq, Option.some.injEq, iff_self_and]
            rintro rfl
            exact fun same => zero (zeros.mp same)

theorem ne_zero_of_predefined? {name : List Char} {mark : Char}
    (known : predefined? name = some mark) : mark ≠ '\x00' := by
  unfold predefined? at known
  split at known <;> cases known <;> decide

end Reference

open Reference (inText? IsSigned)

theorem Attribute.resolve_eq_ok_iff {start : Nat} {name : List Char} {mark : Char} :
    resolve start name = .ok mark ↔
      inText? name = some mark ∧ mark ≠ '\x00' ∧ ¬IsSigned name := by
  unfold resolve
  split
  · rename_i code
    rw [← Reference.codeInValue_eq_ok_iff]
    cases Reference.codeInValue code <;> simp
  · rename_i noCode
    have unsigned : ¬IsSigned name := by
      rintro ⟨digits, rfl | rfl⟩
      · exact noCode _ rfl
      · exact noCode _ rfl
    have text : inText? name = Reference.predefined? name := by
      unfold inText?
      split
      · exact absurd rfl (noCode _)
      · rfl
    rw [text]
    cases known : Reference.predefined? name with
    | none => simp
    | some character =>
        have visible := Reference.ne_zero_of_predefined? known
        simp only [Except.ok.injEq, Option.some.injEq, unsigned, not_false_iff, and_true,
          iff_self_and]
        rintro rfl
        exact visible

/-! ## The two places -/

/-- The characters that end a reference or its place. -/
def closingMarks : List Char :=
  [';', '&', '<', '>', '"', '\'']

/-- A text that can stand in a reference, in either place. -/
def Enclosable (name : String) : Prop :=
  ∀ mark ∈ name.toList, mark ∉ closingMarks

instance (name : String) : Decidable (Enclosable name) :=
  List.decidableBAll (· ∉ closingMarks) name.toList

def textSource (name : String) : String :=
  "<string>&" ++ name ++ ";</string>"

def valueSource (name : String) : String :=
  "<string a=\"&" ++ name ++ ";\"/>"

section Places

variable {name : String}

theorem Enclosable.ne (enclosable : Enclosable name) {mark : Char} (inside : mark ∈ name.toList)
    (other : Char) (closing : other ∈ closingMarks) : mark ≠ other := by
  rintro rfl
  exact enclosable mark inside closing

theorem isName_string : IsName "string" := by
  decide

theorem parse_textSource (enclosable : Enclosable name) :
    Element.parse (textSource name) =
      match inText? name.toList with
      | some mark => .ok ⟨"string", .empty, String.singleton mark, []⟩
      | none => .error (.assembly (.unknownEntity name)) := by
  have shape : dropMark (textSource name).toList =
      '<' :: ("string".toList ++ renderAttributes .empty ++ '>' :: ('&' :: (name.toList ++
        ';' :: ('<' :: ('/' :: "string".toList ++ '>' :: []))))) := by
    simp [textSource, dropMark, renderAttributes, Table.empty]
  have noNames : ∀ key ∈ (Table.empty : Table String).keys, IsName key := by decide
  have opened : Reading.Step ⟨[], .initial, dropMark (textSource name).toList⟩
      ⟨["string"], ⟨[⟨"string", .empty, "", []⟩], none⟩,
        '&' :: (name.toList ++ ';' :: ('<' :: ('/' :: "string".toList ++ '>' :: [])))⟩ := by
    rw [shape]
    exact Reading.step_open isName_string noNames .initial _
  have inside : ∀ part ∈ name.toList, part ≠ ';' ∧ part ≠ '&' ∧ part ≠ '<' := fun part member =>
    ⟨enclosable.ne member ';' (by decide), enclosable.ne member '&' (by decide),
      enclosable.ne member '<' (by decide)⟩
  have read := readPiece_reference inside ('<' :: ('/' :: "string".toList ++ '>' :: []))
  cases known : inText? name.toList with
  | none =>
      apply Reading.Run.parse_misfit (.single opened) read rfl
      simp only [Assembly.feed, String.ofList_toList, known]
  | some mark =>
      have fed : Assembly.feed ⟨[⟨"string", .empty, "", []⟩], none⟩
          (.reference (String.ofList name.toList)) =
          .ok ⟨[⟨"string", .empty, String.singleton mark, []⟩], none⟩ := by
        simp only [Assembly.feed, String.ofList_toList, known, Assembly.addText,
          String.empty_append]
      have spelled : Element.Spelled ⟨"string", .empty, String.singleton mark, []⟩ :=
        ⟨isName_string, noNames, fun parent => absurd rfl parent⟩
      have run : Reading.Run ⟨[], .initial, dropMark (textSource name).toList⟩
          ⟨[], ⟨[], some ⟨"string", .empty, String.singleton mark, []⟩⟩, []⟩ := by
        apply Relation.ReflTransGen.head opened
        apply Relation.ReflTransGen.head (.piece read rfl fed)
        exact .single (Reading.step_close spelled (rfl : Assembly.initial.attach _ = _) [])
      exact run.parse_eq

theorem Attribute.unescape_reference (enclosable : Enclosable name) :
    unescape ('&' :: (name.toList ++ [';'])) =
      (resolve 1 name.toList).map String.singleton := by
  have inside : ∀ part ∈ name.toList, part ≠ ';' ∧ part ≠ '&' := fun part member =>
    ⟨enclosable.ne member ';' (by decide), enclosable.ne member '&' (by decide)⟩
  simp only [unescape, unescapeFrom, if_true, Nat.sub_self]
  rw [unescapeFrom_pending _ 0 [] [] inside, List.reverse_nil, List.nil_append]
  cases resolve 1 name.toList <;> rfl

theorem Attribute.ofTag_quoted {tag key : String} (named : IsName tag) (keyNamed : IsName key)
    {value : List Char} (noQuote : ∀ mark ∈ value, mark ≠ '"') :
    ofTag (tag.toList ++ ' ' :: (key.toList ++ '=' :: '"' :: (value ++ ['"']))) =
      (tag, (unescape value).map fun meant => Table.empty.insert key meant) := by
  have taken : (tag.toList ++ ' ' :: (key.toList ++ '=' :: '"' :: (value ++ ['"']))).takeWhile
      (fun mark => !isBlankMark mark) = tag.toList := by
    apply takeWhile_append_stop
    · intro mark member
      simp [isBlankMark_of_isNameMark (named.2 mark member)]
    · decide
  have fresh : key ∉ ([] : List (String × Nat)).map Prod.fst := List.not_mem_nil
  obtain ⟨position, read⟩ := readFrom_quoted
    (byteCount (tag.toList ++ ' ' :: (key.toList ++ '=' :: '"' :: (value ++ ['"']))))
    (key.toList ++ '=' :: '"' :: (value ++ ['"'])).length .empty keyNamed fresh
    noQuote []
  simp only [ofTag, taken, List.drop_left, String.ofList_toList, List.length_cons, read]
  cases unescape value with
  | error fault => rfl
  | ok meant => cases (key.toList ++ '=' :: '"' :: (value ++ ['"'])).length <;> rfl

def referenceAttribute (name : String) : List Char :=
  ' ' :: ("a".toList ++ '=' :: '"' :: ('&' :: (name.toList ++ [';']) ++ ['"']))

theorem Enclosable.ne_quote (enclosable : Enclosable name) :
    ∀ mark ∈ '&' :: (name.toList ++ [';']), mark ≠ '"' := by
  intro mark member
  simp only [List.mem_cons, List.mem_append, List.not_mem_nil, or_false] at member
  obtain rfl | inside | rfl := member
  · decide
  · exact enclosable.ne inside '"' (by decide)
  · decide

theorem Enclosable.unbroken (enclosable : Enclosable name) :
    Unbroken ("string".toList ++ referenceAttribute name) := by
  have quoted : Unbroken ('"' :: ('&' :: (name.toList ++ [';'])) ++ ['"']) :=
    .quoted enclosable.ne_quote
  have key : Unbroken "a".toList := .of_marks (by decide : IsName "a").2
  have assigned : Unbroken (referenceAttribute name) :=
    .cons (by decide) (by decide) (by decide)
      (key.append (quoted.cons (by decide) (by decide) (by decide)))
  exact (Unbroken.of_marks isName_string.2).append assigned

theorem ofTag_referenceAttribute (enclosable : Enclosable name) :
    Attribute.ofTag ("string".toList ++ referenceAttribute name) =
      ("string", (Attribute.resolve 1 name.toList).map fun mark =>
        Table.empty.insert "a" (String.singleton mark)) := by
  rw [referenceAttribute, Attribute.ofTag_quoted isName_string (by decide : IsName "a")
    enclosable.ne_quote, Attribute.unescape_reference enclosable]
  cases Attribute.resolve 1 name.toList <;> rfl

theorem parse_valueSource (enclosable : Enclosable name) :
    Element.parse (valueSource name) =
      match Attribute.resolve 1 name.toList with
      | .ok mark => .ok ⟨"string", Table.empty.insert "a" (String.singleton mark), "", []⟩
      | .error fault => .error (.attributes fault) := by
  have shape : dropMark (valueSource name).toList =
      '<' :: ("string".toList ++ referenceAttribute name ++ '/' :: '>' :: []) := by
    simp [valueSource, dropMark, referenceAttribute]
  have start : Reading.Run ⟨[], .initial, dropMark (valueSource name).toList⟩
      ⟨[], .initial, '<' :: ("string".toList ++ referenceAttribute name ++ '/' :: '>' :: [])⟩ := by
    rw [shape]
  have read := readPiece_empty isName_string enclosable.unbroken []
  have means := ofTag_referenceAttribute enclosable
  cases known : Attribute.resolve 1 name.toList with
  | error fault =>
      have fails : Event.ofPiece [] ('<' :: ("string".toList ++ referenceAttribute name ++
          '/' :: '>' :: [])) (.emptyTag ("string".toList ++ referenceAttribute name)) =
          .error (.attributes fault) := by
        rw [Event.ofPiece, means, known]
        rfl
      exact start.parse_failure read fails
  | ok mark =>
      have meant : Event.ofPiece [] ('<' :: ("string".toList ++ referenceAttribute name ++
          '/' :: '>' :: [])) (.emptyTag ("string".toList ++ referenceAttribute name)) =
          .ok (.empty "string" (Table.empty.insert "a" (String.singleton mark)), []) := by
        rw [Event.ofPiece, means, known]
        rfl
      have run : Reading.Run _ ⟨[], ⟨[], some _⟩, []⟩ := start.tail (.piece read meant rfl)
      exact run.parse_eq

end Places

/-- A reference means the same in the two places, or can be read in neither. -/
def Agrees (name : String) : Prop :=
  ((∃ element, Element.parse (textSource name) = .ok element) ↔
      ∃ element, Element.parse (valueSource name) = .ok element) ∧
    ∀ inText inValue, Element.parse (textSource name) = .ok inText →
      Element.parse (valueSource name) = .ok inValue →
      inValue.attribute? "a" = some inText.text

/-- What the value of an attribute takes, text takes for the same character. -/
theorem text_of_value {name : String} (enclosable : Enclosable name) {inValue : Element}
    (read : Element.parse (valueSource name) = .ok inValue) :
    ∃ mark, Element.parse (textSource name) = .ok ⟨"string", .empty, String.singleton mark, []⟩ ∧
      inValue.attribute? "a" = some (String.singleton mark) ∧
      mark ≠ '\x00' ∧ ¬IsSigned name.toList := by
  rw [parse_valueSource enclosable] at read
  cases known : Attribute.resolve 1 name.toList with
  | error fault =>
      rw [known] at read
      cases read
  | ok mark =>
      rw [known] at read
      cases read
      obtain ⟨text, nonzero, unsigned⟩ := Attribute.resolve_eq_ok_iff.mp known
      refine ⟨mark, ?_, rfl, nonzero, unsigned⟩
      rw [parse_textSource enclosable, text]

/-- What text takes without a sign and not for the character zero, the value of an attribute takes
for the same character. -/
theorem value_of_text {name : String} (enclosable : Enclosable name) {inText : Element}
    (read : Element.parse (textSource name) = .ok inText) (unsigned : ¬IsSigned name.toList)
    (nonzero : inText.text ≠ "\x00") :
    ∃ inValue, Element.parse (valueSource name) = .ok inValue ∧
      inValue.attribute? "a" = some inText.text := by
  rw [parse_textSource enclosable] at read
  cases known : inText? name.toList with
  | none =>
      rw [known] at read
      cases read
  | some mark =>
      rw [known] at read
      cases read
      have visible : mark ≠ '\x00' := by
        rintro rfl
        exact nonzero rfl
      have resolved : Attribute.resolve 1 name.toList = .ok mark :=
        Attribute.resolve_eq_ok_iff.mpr ⟨known, visible, unsigned⟩
      refine ⟨⟨"string", Table.empty.insert "a" (String.singleton mark), "", []⟩, ?_, rfl⟩
      rw [parse_valueSource enclosable, resolved]

/-- A reference means the same as the text of an element and as the value of an attribute, or can be
read in neither place, exactly unless text takes it with a plus sign in front of its digits or for
the character zero. Nothing else sets the two places apart: what a value takes, text takes for the
same character. -/
theorem references_agree_unless_signed_or_zero (name : String) (enclosable : Enclosable name) :
    (Agrees name ↔ ¬∃ inText, Element.parse (textSource name) = .ok inText ∧
      (IsSigned name.toList ∨ inText.text = "\x00")) ∧
    ∀ inValue, Element.parse (valueSource name) = .ok inValue →
      ∃ inText, Element.parse (textSource name) = .ok inText ∧
        inValue.attribute? "a" = some inText.text := by
  refine ⟨⟨?_, ?_⟩, ?_⟩
  · rintro ⟨both, _⟩ ⟨inText, read, excess⟩
    obtain ⟨inValue, readValue⟩ := both.mp ⟨inText, read⟩
    obtain ⟨mark, readText, _, nonzero, unsigned⟩ := text_of_value enclosable readValue
    cases Except.ok.inj (read.symm.trans readText)
    obtain signed | zero := excess
    · exact unsigned signed
    · exact nonzero (by simpa using congrArg String.toList zero)
  · intro none
    have plain : ∀ inText, Element.parse (textSource name) = .ok inText →
        ¬IsSigned name.toList ∧ inText.text ≠ "\x00" := fun inText read =>
      ⟨fun signed => none ⟨inText, read, .inl signed⟩, fun zero => none ⟨inText, read, .inr zero⟩⟩
    refine ⟨⟨?_, ?_⟩, ?_⟩
    · rintro ⟨inText, read⟩
      obtain ⟨inValue, readValue, _⟩ :=
        value_of_text enclosable read (plain inText read).1 (plain inText read).2
      exact ⟨inValue, readValue⟩
    · rintro ⟨inValue, read⟩
      obtain ⟨mark, readText, _⟩ := text_of_value enclosable read
      exact ⟨_, readText⟩
    · intro inText inValue read readValue
      obtain ⟨mark, readText, same, _⟩ := text_of_value enclosable readValue
      cases Except.ok.inj (read.symm.trans readText)
      exact same
  · intro inValue read
    obtain ⟨mark, readText, same, _⟩ := text_of_value enclosable read
    exact ⟨_, readText, same⟩

/-- A face by its code, and a letter by its code with a sign. -/
theorem face_agrees_and_signed_letter_not :
    Enclosable "#x1F600" ∧ Agrees "#x1F600" ∧ Enclosable "#+65" ∧ ¬Agrees "#+65" := by
  have face : Enclosable "#x1F600" := by decide
  have letter : Enclosable "#+65" := by decide
  refine ⟨face, ?_, letter, ?_⟩
  · rw [(references_agree_unless_signed_or_zero "#x1F600" face).1]
    rintro ⟨inText, read, excess⟩
    have text : ((Element.parse (textSource "#x1F600")).toOption.map Element.text) = some "😀" := by
      decide +kernel
    rw [read] at text
    obtain ⟨digits, signed⟩ | zero := excess
    · simp at signed
    · rw [Except.toOption, Option.map_some, zero] at text
      exact absurd (Option.some.inj text) (by decide)
  · rw [(references_agree_unless_signed_or_zero "#+65" letter).1, not_not]
    exact ⟨⟨"string", .empty, "A", []⟩, by rfl, .inl ⟨['6', '5'], .inl rfl⟩⟩

/-- The reference with a sign is a letter in text and no reference in a value, and the one to zero
is taken in text only, too. -/
theorem signed_and_zero_only_in_text :
    (Element.parse "<string>&#+65;</string>").toOption.map Element.text = some "A" ∧
      (Element.parse "<string a=\"&#+65;\"/>").toOption.isNone = true ∧
      (Element.parse "<string>&#0;</string>").toOption.map Element.text = some "\x00" ∧
      (Element.parse "<string a=\"&#0;\"/>").toOption.isNone = true ∧
      ¬∀ name, Enclosable name → Agrees name := by
  refine ⟨by decide +kernel, by decide +kernel, by decide +kernel, by decide +kernel, ?_⟩
  intro always
  obtain ⟨both, _⟩ := always "#+65" (by decide)
  obtain ⟨inValue, read⟩ := both.mp ⟨⟨"string", .empty, "A", []⟩, by rfl⟩
  have refused : (Element.parse (valueSource "#+65")).toOption.isNone = true := by decide +kernel
  rw [read] at refused
  cases refused

end Xib.Xml
