import Xib.Proofs.SingleLine
import Xib.Swift.Code

/-!
# Names as identifiers

A name is made of the letters, digits and underscores that camel case leaves of a label or a tag,
with an underscore in front of a digit and a number behind a name that is taken. So it always has
the form of an identifier, and it never is a keyword. It can be the wildcard, a lone underscore:
words are cut at underscores that are clusters of their own, and an underscore that carries a mark
is none. Main statement: a name is usable unless an underscore that is no separator is all that is
left of the text it is made of (`usable_unless_lone_underscore`).
-/

namespace Xib

set_option autoImplicit false

namespace Text

/-! ## Underscores in camel case -/

namespace Case

theorem underscore_mem_lower {character : Char} : '_' ∈ lower character ↔ character = '_' := by
  constructor
  · exact eq_of_mem_lower (by decide) (by decide +kernel) (by decide)
  · rintro rfl
    decide

theorem mem_sequence? {code : Nat} {entries : List (Nat × List Nat)} {images : List Nat}
    (found : sequence? code entries = some images) : ∃ entry ∈ entries, entry.2 = images := by
  induction entries with
  | nil => cases found
  | cons entry rest ih =>
      unfold sequence? at found
      split at found
      · cases found
      · split at found
        · exact ⟨entry, List.mem_cons_self, Option.some.inj found⟩
        · obtain ⟨later, member, same⟩ := ih found
          exact ⟨later, List.mem_cons_of_mem _ member, same⟩

theorem underscore_mem_upper {character : Char} : '_' ∈ upper character ↔ character = '_' := by
  constructor
  · intro raised
    unfold upper at raised
    split at raised
    · rename_i images found
      -- No sequence of the table has an underscore among its images.
      have plain : ∀ entry ∈ upperSequences, '_' ∉ entry.2.map Char.ofNat := by decide +kernel
      obtain ⟨entry, member, rfl⟩ := mem_sequence? found
      exact absurd raised (plain entry member)
    · exact eq_of_shift (by decide) (by decide +kernel) (List.mem_singleton.mp raised).symm
  · rintro rfl
    decide

theorem underscore_mem_lowerAll {text : List Char} : '_' ∈ lowerAll text ↔ '_' ∈ text := by
  simp [lowerAll, underscore_mem_lower]

end Case

theorem underscore_mem_capitalize {word : List Char} : '_' ∈ capitalize word ↔ '_' ∈ word := by
  cases word with
  | nil => rfl
  | cons first rest =>
      rw [capitalize, List.mem_append, Case.underscore_mem_upper, Case.underscore_mem_lowerAll,
        List.mem_cons, eq_comm]

theorem letter_eq_separator {cluster : List Char} :
    Letter.of cluster = .separator ↔ cluster = ['_'] ∨ cluster = ['-'] ∨ cluster = [' '] := by
  unfold Letter.of
  simp only [Bool.or_eq_true, decide_eq_true_eq, or_assoc]
  split
  · simp_all
  · rename_i other
    simp only [other, iff_false]
    repeat' split
    all_goals simp

/-- Words lose the separators of a text and nothing else. -/
theorem cutWords_flatten (previous : Option Letter) (letters : List (List Char × Letter)) :
    (cutWords previous letters).1 ++ (cutWords previous letters).2.flatten =
      ((letters.filter fun entry => entry.2 ≠ .separator).map Prod.fst).flatten := by
  induction letters generalizing previous with
  | nil => rfl
  | cons entry rest ih =>
      obtain ⟨cluster, letter⟩ := entry
      have later := ih (some letter)
      by_cases separates : letter = .separator
      · simpa [cutWords, separates] using later
      · -- The cluster opens a new word or continues the one before it; it is kept either way.
        rw [List.filter_cons_of_pos (by simpa using separates), List.map_cons, List.flatten_cons,
          ← later]
        cases previous with
        | none => simp [cutWords, separates]
        | some before =>
            cases starts : startsWord before letter (rest.head?.map Prod.snd) <;>
              simp [cutWords, separates, starts]

theorem words_flatten (text : List Char) :
    (words text).flatten =
      ((Cluster.clusters text).filter fun cluster => Letter.of cluster ≠ .separator).flatten := by
  have cut := cutWords_flatten none
    ((Cluster.clusters text).map fun cluster => (cluster, Letter.of cluster))
  rw [words, List.flatten_filter_ne_nil, List.flatten_cons, cut, List.filter_map, List.map_map]
  simp [Function.comp_def]

/-- An underscore of the text stands in one cluster with other characters. -/
def JoinsUnderscore (text : List Char) : Prop :=
  ∃ cluster ∈ Cluster.clusters text, '_' ∈ cluster ∧ cluster ≠ ['_']

/-- Cutting a text into clusters adds nothing to it. -/
theorem underscore_mem_of_joins {text : List Char} (joins : JoinsUnderscore text) :
    '_' ∈ text := by
  obtain ⟨cluster, cut, held, _⟩ := joins
  rw [← Cluster.clusters_flatten text]
  exact List.mem_flatten.mpr ⟨cluster, cut, held⟩

theorem underscore_mem_words {text : List Char} :
    '_' ∈ (words text).flatten ↔ JoinsUnderscore text := by
  rw [words_flatten, List.mem_flatten]
  apply exists_congr
  intro cluster
  rw [List.mem_filter, and_assoc]
  apply and_congr_right
  intro _
  rw [decide_eq_true_eq, ne_eq, letter_eq_separator, and_comm]
  apply and_congr_right
  intro held
  apply not_congr
  constructor
  · rintro (same | rfl | rfl)
    · exact same
    · exact absurd held (by decide)
    · exact absurd held (by decide)
  · exact .inl

/-- Camel case has an underscore exactly if the text has one that is no separator. -/
theorem underscore_mem_camel {text : String} :
    '_' ∈ (camel text).toList ↔ JoinsUnderscore text.toList := by
  rw [← underscore_mem_words, camel]
  cases words text.toList with
  | nil => simp
  | cons first rest =>
      simp [Case.underscore_mem_lowerAll, underscore_mem_capitalize]

end Text

namespace Swift

/-! ## The form of names -/

def isIdentifierStart (character : Char) : Bool :=
  character.isAlpha || character = '_'

def isIdentifierPart (character : Char) : Bool :=
  character.isAlphanum || character = '_'

def isIdentifier (name : String) : Bool :=
  match name.toList with
  | [] => false
  | first :: rest => isIdentifierStart first && rest.all isIdentifierPart

theorem isIdentifierPart_of_mem {text : String} {character : Char}
    (kept : character ∈ identifierCharacters text) : isIdentifierPart character = true :=
  (List.mem_filter.mp kept).2

theorem isIdentifierStart_of_part {character : Char} (part : isIdentifierPart character = true)
    (letter : character.isDigit = false) : isIdentifierStart character = true := by
  simpa [isIdentifierPart, isIdentifierStart, Char.isAlphanum, letter] using part

theorem sanitize_cons (first : Char) (rest : List Char) :
    sanitize (first :: rest) =
      String.ofList (if first.isDigit then '_' :: first :: rest else first :: rest) := by
  rw [sanitize]
  split <;> rfl

theorem isIdentifier_sanitize {characters : List Char}
    (parts : ∀ character ∈ characters, isIdentifierPart character = true) :
    isIdentifier (sanitize characters) = true := by
  cases characters with
  | nil => decide
  | cons first rest =>
      have others : rest.all isIdentifierPart = true := by
        rw [List.all_eq_true]
        exact fun character member => parts character (List.mem_cons_of_mem _ member)
      have start := parts first List.mem_cons_self
      rw [sanitize_cons, isIdentifier, String.toList_ofList]
      cases digit : first.isDigit with
      | true => simp [start, others, isIdentifierStart]
      | false => simp [isIdentifierStart_of_part start digit, others]

theorem isIdentifier_append_numeral {base : String} (number : Nat)
    (valid : isIdentifier base = true) : isIdentifier (base ++ toString number) = true := by
  have digits : (toString number).toList.all isIdentifierPart = true := by
    rw [Nat.toString_eq_repr, Nat.toList_repr, List.all_eq_true]
    intro character member
    have digit := Nat.isDigit_of_mem_toDigits (by decide) (by decide) member
    simp [isIdentifierPart, Char.isAlphanum, digit]
  unfold isIdentifier at valid ⊢
  rw [String.toList_append]
  cases characters : base.toList with
  | nil => simp [characters] at valid
  | cons first rest =>
      rw [characters] at valid
      simp only [List.cons_append, List.all_append, digits, Bool.and_true]
      exact valid

theorem sanitize_eq_underscore {characters : List Char} :
    sanitize characters = "_" ↔ characters = ['_'] := by
  cases characters with
  | nil => decide
  | cons first rest =>
      rw [sanitize_cons, ← String.toList_inj, String.toList_ofList]
      have wildcard : "_".toList = ['_'] := rfl
      rw [wildcard]
      cases digit : first.isDigit with
      | true =>
          have apart : first ≠ '_' := by
            rintro rfl
            exact absurd digit (by decide)
          simp [apart]
      | false => simp

def usableCharacters (text : String) : List Char :=
  identifierCharacters (Text.camel text)

/-- The text an object is named after: its label, or its tag if the label leaves nothing usable. -/
def namingText (object : Object) : String :=
  match object.userLabel with
  | some label => if usableCharacters label = [] then object.tag else label
  | none => object.tag

theorem baseName_eq (object : Object) :
    baseName object = sanitize (usableCharacters (namingText object)) := by
  unfold baseName namingText usableCharacters
  cases object.userLabel with
  | none => rfl
  | some label =>
      simp only
      split
      · rfl
      · rfl

theorem isIdentifier_baseName (object : Object) : isIdentifier (baseName object) = true := by
  rw [baseName_eq]
  exact isIdentifier_sanitize fun _ kept => isIdentifierPart_of_mem kept

section Names

variable {document : Document} {options : Options} {index : Nat} {object : Object}

theorem isIdentifier_nameOf (found : document.object? index = some object)
    (free : object.IsUnreserved) :
    isIdentifier ((Scope.initial document options).nameOf index) = true := by
  have base := isIdentifier_baseName object
  obtain ⟨_, named⟩ | ⟨_, number, _, named, _⟩ := nameOf_unreserved options found free
  · rw [named]
    exact base
  · rw [named]
    exact isIdentifier_append_numeral number base

/-- A numbered name has a name before its number, so it is longer than an underscore. -/
theorem append_numeral_ne_underscore {base : String} (number : Nat)
    (valid : isIdentifier base = true) : base ++ toString number ≠ "_" := by
  intro same
  have joined : base.toList ++ (toString number).toList = ['_'] := by
    rw [← String.toList_append, same]
    rfl
  have written : (toString number).toList ≠ [] := by
    rw [Nat.toString_eq_repr, Nat.toList_repr]
    exact Nat.toDigits_ne_nil
  obtain ⟨empty, _⟩ | ⟨_, empty⟩ := List.append_eq_singleton_iff.mp joined
  · rw [isIdentifier, empty] at valid
    cases valid
  · exact written empty

theorem nameOf_eq_underscore (found : document.object? index = some object)
    (free : object.IsUnreserved) :
    (Scope.initial document options).nameOf index = "_" ↔
      usableCharacters (namingText object) = ['_'] ∧ ¬TakenBefore document options index "_" := by
  have least := nameOf_unreserved options found free
  rw [← sanitize_eq_underscore, ← baseName_eq]
  obtain ⟨untaken, named⟩ | ⟨taken, number, _, named, _⟩ := least
  · rw [named]
    constructor
    · intro same
      rw [same] at untaken
      exact ⟨same, untaken⟩
    · exact And.left
  · rw [named]
    constructor
    · intro same
      exact absurd same (append_numeral_ne_underscore number (isIdentifier_baseName object))
    · rintro ⟨same, untaken⟩
      rw [same] at taken
      exact absurd taken untaken

theorem underscore_mem_of_wildcard (found : document.object? index = some object)
    (free : object.IsUnreserved)
    (wildcard : (Scope.initial document options).nameOf index = "_") :
    '_' ∈ (Text.camel (namingText object)).toList := by
  have left := ((nameOf_eq_underscore found free).mp wildcard).1
  have kept : '_' ∈ usableCharacters (namingText object) := by
    rw [left]
    exact List.mem_cons_self
  exact (List.mem_filter.mp kept).1

end Names

/-- The name of an object without a reserved identifier has the form of an identifier and is no
keyword, whatever its label and its tag contain. It is the wildcard exactly if a lone underscore is
left to name the object by and is not taken; then camel case has left an underscore, which it does
exactly if the text has one that shares its cluster with other characters. A text without an
underscore never leads there. -/
theorem usable_unless_lone_underscore (document : Document) (options : Options) (index : Nat)
    (object : Object) (found : document.object? index = some object)
    (free : object.IsUnreserved) :
    let name := (Scope.initial document options).nameOf index
    isIdentifier name = true ∧ name ∉ keywords ∧
    (name = "_" ↔ usableCharacters (namingText object) = ['_'] ∧
      ¬TakenBefore document options index "_") ∧
    ('_' ∉ (Text.camel (namingText object)).toList → name ≠ "_") ∧
    ('_' ∈ (Text.camel (namingText object)).toList ↔
      Text.JoinsUnderscore (namingText object).toList) ∧
    ('_' ∉ (namingText object).toList → name ≠ "_") := by
  intro name
  refine ⟨isIdentifier_nameOf found free, ?_, nameOf_eq_underscore found free, ?_,
    Text.underscore_mem_camel, ?_⟩
  · intro keyword
    apply nameOf_not_reserved options found free
    exact List.mem_cons_of_mem _ (List.mem_cons_of_mem _ keyword)
  · intro separated wildcard
    exact separated (underscore_mem_of_wildcard found free wildcard)
  · intro absent wildcard
    apply absent
    apply Text.underscore_mem_of_joins
    exact Text.underscore_mem_camel.mp (underscore_mem_of_wildcard found free wildcard)

def accentedSource : String :=
  "<view userLabel='_&#x301;'><subviews><switch/></subviews></view>"

theorem exists_accented :
    ∃ document view switch, Document.ofText .cocoaTouch accentedSource = .ok document ∧
      document.object? 0 = some view ∧ view.IsUnreserved ∧
      document.object? 1 = some switch ∧ switch.IsUnreserved ∧
      (Scope.initial document .standard).names = ["_", "switch2"] ∧
      (Code.ofDocument document .standard).lines =
        ["let switch2 = UISwitch()", "let _ = UIView()", "_.addSubview(switch2)"] := by
  have facts : (Document.ofText .cocoaTouch accentedSource).toOption.map (fun document =>
      (document.objects.map Object.identifier, (Scope.initial document .standard).names,
        (Code.ofDocument document .standard).lines)) =
      some ([none, none], ["_", "switch2"],
        ["let switch2 = UISwitch()", "let _ = UIView()", "_.addSubview(switch2)"]) := by
    decide +kernel
  cases built : Document.ofText .cocoaTouch accentedSource with
  | error reason =>
      rw [built] at facts
      cases facts
  | ok document =>
      rw [built] at facts
      simp only [Except.toOption, Option.map_some, Option.some.injEq, Prod.mk.injEq] at facts
      obtain ⟨identifiers, names, lines⟩ := facts
      obtain ⟨view, rest, objects, unnamed, others⟩ := List.map_eq_cons_iff.mp identifiers
      obtain ⟨switch, _, rfl, unlabelled, _⟩ := List.map_eq_cons_iff.mp others
      refine ⟨document, view, switch, rfl, ?_, ?_, ?_, ?_, names, lines⟩
      · rw [Document.object?, objects]
        rfl
      · simp [Object.IsUnreserved, unnamed]
      · rw [Document.object?, objects]
        rfl
      · simp [Object.IsUnreserved, unlabelled]

/-- The switch gets a usable name; the view is named by the wildcard, because the accent keeps the
underscore of its label from being a separator. -/
theorem accented_view_named_wildcard :
    ∃ document view switch, Document.ofText .cocoaTouch accentedSource = .ok document ∧
      document.object? 0 = some view ∧ view.IsUnreserved ∧
      document.object? 1 = some switch ∧ switch.IsUnreserved ∧
      (Scope.initial document .standard).nameOf 0 = "_" ∧
      Text.JoinsUnderscore (namingText view).toList ∧
      (Scope.initial document .standard).nameOf 1 = "switch2" ∧
      isIdentifier "switch2" = true ∧ "switch2" ∉ keywords := by
  obtain ⟨document, view, switch, built, first, free, second, alsoFree, names, _⟩ :=
    exists_accented
  have wildcard : (Scope.initial document .standard).nameOf 0 = "_" := by
    rw [Scope.nameOf, names]
    rfl
  have numbered : (Scope.initial document .standard).nameOf 1 = "switch2" := by
    rw [Scope.nameOf, names]
    rfl
  obtain ⟨_, _, _, separated, joins, _⟩ :=
    usable_unless_lone_underscore document .standard 0 view first free
  obtain ⟨form, other, _⟩ :=
    usable_unless_lone_underscore document .standard 1 switch second alsoFree
  refine ⟨document, view, switch, built, first, free, second, alsoFree, wildcard, ?_, numbered, ?_⟩
  · apply joins.mp
    by_contra absent
    exact separated absent wildcard
  · rw [← numbered]
    exact ⟨form, other⟩

/-- Not every name is usable: the view with the accented label is declared as the wildcard and
then referred to by it. -/
theorem wildcard_declared_and_referred_to :
    (∃ document, Document.ofText .cocoaTouch accentedSource = .ok document ∧
      (Code.ofDocument document .standard).lines =
        ["let switch2 = UISwitch()", "let _ = UIView()", "_.addSubview(switch2)"]) ∧
    ¬∀ registry source document, Document.ofText registry source = .ok document →
      ∀ options index object, document.object? index = some object → object.IsUnreserved →
        let name := (Scope.initial document options).nameOf index
        isIdentifier name = true ∧ name ≠ "_" ∧ name ∉ keywords := by
  obtain ⟨document, view, switch, built, first, free, _, _, names, lines⟩ := exists_accented
  refine ⟨⟨document, built, lines⟩, ?_⟩
  intro usable
  obtain ⟨_, different, _⟩ :=
    usable .cocoaTouch accentedSource document built .standard 0 view first free
  apply different
  rw [Scope.nameOf, names]
  rfl

end Swift

end Xib
