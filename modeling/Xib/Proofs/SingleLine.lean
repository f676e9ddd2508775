import Xib.Number.Digits
import Xib.Proofs.Naming
import Xib.Swift.Encode

/-!
# Texts on a single line

A text is on a single line if it has no line feed. Numbers, names and string literals always are;
cutting off a fixed beginning or ending and lowering a letter neither add nor remove a line feed.
-/

namespace Xib.Text

set_option autoImplicit false

def SingleLine (text : String) : Prop :=
  '\n' ∉ text.toList

instance (text : String) : Decidable (SingleLine text) :=
  inferInstanceAs (Decidable ('\n' ∉ text.toList))

@[simp] theorem singleLine_append (first second : String) :
    SingleLine (first ++ second) ↔ SingleLine first ∧ SingleLine second := by
  simp [SingleLine]

@[simp] theorem singleLine_ofList (characters : List Char) :
    SingleLine (String.ofList characters) ↔ '\n' ∉ characters := by
  simp [SingleLine]

/-- A literal unifies with the list of its characters, which spares decoding it. -/
theorem singleLine_characters {characters : List Char} (clean : '\n' ∉ characters) :
    SingleLine (String.ofList characters) :=
  (singleLine_ofList characters).mpr clean

@[simp] theorem singleLine_toString (text : String) :
    SingleLine (toString text) ↔ SingleLine text :=
  Iff.rfl

def AllSingle (texts : List String) : Prop :=
  ∀ text ∈ texts, SingleLine text

@[simp] theorem allSingle_nil : AllSingle [] := by
  simp [AllSingle]

@[simp] theorem allSingle_cons (text : String) (texts : List String) :
    AllSingle (text :: texts) ↔ SingleLine text ∧ AllSingle texts :=
  List.forall_mem_cons

@[simp] theorem allSingle_append (first second : List String) :
    AllSingle (first ++ second) ↔ AllSingle first ∧ AllSingle second :=
  List.forall_mem_append

theorem singleLine_intercalate {separator : String} {texts : List String}
    (separated : SingleLine separator) :
    SingleLine (separator.intercalate texts) ↔ AllSingle texts := by
  induction texts with
  | nil =>
      rw [String.intercalate_nil]
      simp [SingleLine]
  | cons first rest ih =>
      cases rest with
      | nil => simp
      | cons second others =>
          rw [String.intercalate_cons_cons, singleLine_append, singleLine_append, ih,
            allSingle_cons first, and_iff_left separated]

theorem lineFeed_mem_drop {start text : List Char} (starts : start.isPrefixOf text = true)
    (clean : '\n' ∉ start) : '\n' ∈ text.drop start.length ↔ '\n' ∈ text := by
  obtain ⟨rest, rfl⟩ := List.isPrefixOf_iff_prefix.mp starts
  rw [List.drop_left, List.mem_append, or_iff_right clean]

theorem singleLine_dropStart? {start : String} (text : String) (clean : SingleLine start) :
    SingleLine ((dropStart? start text).getD text) ↔ SingleLine text := by
  unfold dropStart?
  split
  · rename_i starts
    rw [Option.getD_some, singleLine_ofList, lineFeed_mem_drop starts clean]
    rfl
  · rfl

theorem singleLine_dropEnd? {ending : String} (text : String) (clean : SingleLine ending) :
    SingleLine ((dropEnd? ending text).getD text) ↔ SingleLine text := by
  unfold dropEnd?
  split
  · rename_i ends
    obtain ⟨rest, joined⟩ := List.isSuffixOf_iff_suffix.mp ends
    rw [Option.getD_some, singleLine_ofList, SingleLine, ← joined, List.length_append,
      Nat.add_sub_cancel, List.take_left, List.mem_append, or_iff_left clean]
  · rfl

theorem lineFeed_mem_dropStartTimes {start : List Char} (clean : '\n' ∉ start) (count : Nat)
    (text : List Char) : '\n' ∈ dropStartTimes start count text ↔ '\n' ∈ text := by
  induction count generalizing text with
  | zero => rfl
  | succ count ih =>
      unfold dropStartTimes
      split
      · rename_i starts
        rw [ih, lineFeed_mem_drop starts clean]
      · rfl

theorem singleLine_dropStarts {start : String} (text : String) (clean : SingleLine start) :
    SingleLine (dropStarts start text) ↔ SingleLine text := by
  rw [dropStarts, singleLine_ofList, lineFeed_mem_dropStartTimes clean]
  rfl

namespace Case

def Run.Misses (run : Run) (target : Nat) : Prop :=
  run.last + run.distance < target ∨ (target : Int) < run.first + run.distance

instance (run : Run) (target : Nat) : Decidable (run.Misses target) :=
  inferInstanceAs (Decidable (_ ∨ _))

/-- A code point that all runs miss is the image of itself alone. -/
theorem shift_eq_of_misses {code target : Nat} {runs : List Run} (positive : 0 < target)
    (missed : ∀ run ∈ runs, run.Misses target) (moved : shift code runs = target) :
    code = target := by
  induction runs with
  | nil => exact moved
  | cons run rest ih =>
      have apart := missed run List.mem_cons_self
      unfold Run.Misses at apart
      unfold shift at moved
      split at moved
      · exact moved
      · split at moved
        · rename_i inside
          simp only [Bool.and_eq_true, decide_eq_true_eq] at inside
          omega
        · exact ih (fun other member => missed other (List.mem_cons_of_mem _ member)) moved

theorem eq_toNat_of_ofNat {code : Nat} {character : Char} (positive : 0 < character.toNat)
    (made : Char.ofNat code = character) : code = character.toNat := by
  by_cases valid : code.isValidChar
  · have found : Char.ofNat code = Char.ofNatAux code valid := dif_pos valid
    rw [← made, found]
    rfl
  · have found : Char.ofNat code = Char.ofNat 0 := dif_neg valid
    rw [← made, found] at positive
    exact absurd positive (by decide)

theorem eq_of_shift {character target : Char} {runs : List Run} (positive : 0 < target.toNat)
    (missed : ∀ run ∈ runs, run.Misses target.toNat)
    (moved : Char.ofNat (shift character.toNat runs) = target) : character = target :=
  Char.toNat_inj.mp (shift_eq_of_misses positive missed (eq_toNat_of_ofNat positive moved))

theorem eq_of_mem_lower {character target : Char} (positive : 0 < target.toNat)
    (missed : ∀ run ∈ lowerRuns, run.Misses target.toNat) (apart : target ∉ ['i', '\u0307'])
    (lowered : target ∈ lower character) : character = target := by
  unfold lower at lowered
  split at lowered
  · exact absurd lowered apart
  · exact eq_of_shift positive missed (List.mem_singleton.mp lowered).symm

theorem lineFeed_mem_lower {character : Char} : '\n' ∈ lower character ↔ character = '\n' := by
  constructor
  · exact eq_of_mem_lower (by decide) (by decide +kernel) (by decide)
  · rintro rfl
    decide

theorem singleLine_lowerFirst (text : String) :
    SingleLine (lowerFirst text) ↔ SingleLine text := by
  unfold lowerFirst
  split
  · rename_i empty
    simp [SingleLine, empty]
  · rename_i first rest characters
    rw [singleLine_ofList, List.mem_append, lineFeed_mem_lower, SingleLine, characters,
      List.mem_cons, eq_comm]

end Case

end Xib.Text

namespace Xib.Number

open Text (SingleLine singleLine_ofList)

theorem lineFeed_not_mem_digits (number : Nat) : '\n' ∉ Nat.toDigits 10 number := by
  intro fed
  have digit := Nat.isDigit_of_mem_toDigits (by decide) (by decide) fed
  exact absurd digit (by decide)

theorem singleLine_natural (number : Nat) : SingleLine (toString number) := by
  rw [SingleLine, Nat.toString_eq_repr, Nat.toList_repr]
  exact lineFeed_not_mem_digits number

theorem singleLine_integer (number : Int) : SingleLine (toString number) := by
  cases number with
  | ofNat number => exact singleLine_natural number
  | negSucc number =>
      have written : toString (Int.negSucc number) = "-" ++ toString (number + 1) := rfl
      rw [written, Text.singleLine_append]
      exact ⟨by decide, singleLine_natural (number + 1)⟩

theorem lineFeed_not_mem_layPositional {digits : List Char} (point : Bool) (exponent : Int)
    (plain : '\n' ∉ digits) : '\n' ∉ layPositional point digits exponent := by
  have taken : ∀ count, '\n' ∉ digits.take count :=
    fun count fed => plain (List.mem_of_mem_take fed)
  have dropped : ∀ count, '\n' ∉ digits.drop count :=
    fun count fed => plain (List.mem_of_mem_drop fed)
  unfold layPositional
  simp only
  split
  · cases point <;> simp [plain]
  · split
    · simp [taken, dropped]
    · simp [plain]

theorem lineFeed_not_mem_layExponent {digits : List Char} (exponent : Int)
    (plain : '\n' ∉ digits) : '\n' ∉ layExponent digits exponent := by
  have taken : '\n' ∉ digits.take 1 := fun fed => plain (List.mem_of_mem_take fed)
  have dropped : '\n' ∉ digits.drop 1 := fun fed => plain (List.mem_of_mem_drop fed)
  have power := singleLine_integer (digits.length + exponent - 1)
  unfold layExponent
  simp only [List.mem_append, List.mem_cons, not_or]
  refine ⟨⟨taken, ?_⟩, by decide, power⟩
  split
  · exact List.not_mem_nil
  · rw [List.mem_cons, not_or]
    exact ⟨by decide, dropped⟩

theorem lineFeed_not_mem_lay (layout : Layout) (decimal : Decimal) :
    '\n' ∉ layout.lay decimal := by
  have digits := lineFeed_not_mem_digits decimal.digits
  unfold Layout.lay
  simp only
  split
  · exact lineFeed_not_mem_layPositional _ _ digits
  · split
    · exact lineFeed_not_mem_layPositional _ _ digits
    · exact lineFeed_not_mem_layExponent _ digits

@[simp] theorem singleLine_write (layout : Layout) (value : Binary) :
    SingleLine (layout.write value) := by
  have sign : ∀ negative : Bool, '\n' ∉ (if negative then ['-'] else []) := by decide
  unfold Layout.write
  simp only
  split
  · decide
  · rename_i negative
    rw [singleLine_ofList, List.mem_append, not_or]
    exact ⟨sign negative, by decide⟩
  · rename_i negative mantissa exponent
    split
    · rw [singleLine_ofList, List.mem_append, not_or]
      exact ⟨sign negative, lineFeed_not_mem_layPositional _ _ (by decide)⟩
    · rw [singleLine_ofList, List.mem_append, not_or]
      exact ⟨sign negative, lineFeed_not_mem_lay _ _⟩

end Xib.Number

namespace Xib.Swift

open Text (SingleLine)

theorem lineFeed_not_mem_escape (character : Char) : '\n' ∉ escape character := by
  unfold escape
  split
  case h_6 other _ _ plain _ _ =>
    rw [List.mem_singleton]
    exact fun same => plain same.symm
  all_goals decide

@[simp] theorem singleLine_string (text : String) : SingleLine (string text) := by
  have inside : '\n' ∉ text.toList.flatMap escape := by
    intro fed
    obtain ⟨character, _, broken⟩ := List.mem_flatMap.mp fed
    exact lineFeed_not_mem_escape character broken
  rw [string, Text.singleLine_ofList]
  simp [inside]

@[simp] theorem singleLine_image (name : String) : SingleLine (image name) := by
  unfold image
  simp only [Text.singleLine_append, singleLine_string, and_true]
  decide

@[simp] theorem singleLine_localizedString (text : String) :
    SingleLine (localizedString text) := by
  unfold localizedString
  simp only [Text.singleLine_append, singleLine_string, and_true]
  decide

@[simp] theorem singleLine_boolean (value : Bool) : SingleLine (boolean value) := by
  cases value <;> decide

theorem singleLine_member (name value : String) :
    SingleLine (member name value) ↔ SingleLine value := by
  have renamed : ∀ entry ∈ renamedMembers, SingleLine entry.1.2 ∧ SingleLine entry.2 := by decide
  unfold member
  cases found : renamedMembers.lookup (name, value) with
  | none => rfl
  | some other =>
      obtain ⟨_, _, split, _⟩ := List.lookup_eq_some_iff.mp found
      have listed : ((name, value), other) ∈ renamedMembers := by simp [split]
      exact iff_of_true (renamed _ listed).2 (renamed _ listed).1

theorem singleLine_enumeration (name value : String) :
    SingleLine (enumeration name value) ↔ SingleLine value := by
  rw [enumeration, Text.singleLine_append, singleLine_member]
  exact and_iff_right (by decide)

theorem singleLine_sanitize {characters : List Char} (clean : '\n' ∉ characters) :
    SingleLine (sanitize characters) := by
  unfold sanitize
  split
  · decide
  · split
    · rw [Text.singleLine_ofList, List.mem_cons, not_or]
      exact ⟨by decide, clean⟩
    · rw [Text.singleLine_ofList]
      exact clean

theorem lineFeed_not_mem_identifierCharacters (text : String) :
    '\n' ∉ identifierCharacters text := by
  intro fed
  exact absurd (List.mem_filter.mp fed).2 (by decide)

theorem singleLine_baseName (object : Object) : SingleLine (baseName object) := by
  unfold baseName
  apply singleLine_sanitize
  cases object.userLabel with
  | none => exact lineFeed_not_mem_identifierCharacters _
  | some label =>
      simp only
      split
      · exact lineFeed_not_mem_identifierCharacters _
      · exact lineFeed_not_mem_identifierCharacters _

/-- Names are on a single line if that of the owner is. -/
theorem singleLine_nameOf (document : Document) {options : Options}
    (owner : SingleLine options.ownerName) (index : Nat) :
    SingleLine ((Scope.initial document options).nameOf index) := by
  cases found : document.object? index with
  | none =>
      have outside : (names document options.ownerName)[index]? = none := by
        rw [List.getElem?_eq_none_iff, names, assignNames_length]
        exact List.getElem?_eq_none_iff.mp found
      simp [Scope.nameOf, Scope.initial, outside, SingleLine]
  | some object =>
      have base := singleLine_baseName object
      by_cases free : object.IsUnreserved
      · obtain ⟨_, named⟩ | ⟨_, number, _, named, _⟩ := nameOf_unreserved options found free
        · rw [named]
          exact base
        · rw [named, Text.singleLine_append]
          exact ⟨base, Number.singleLine_natural number⟩
      · obtain ownerFixed | responder := Object.reserved_cases free
        · rw [nameOf_owner options found ownerFixed]
          exact owner
        · rw [nameOf_firstResponder options found responder]
          decide

end Xib.Swift
