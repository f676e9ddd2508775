import Mathlib.Data.List.Induction
import Mathlib.Data.List.TakeWhile
import Xib.Xml.Event
import Xib.Xml.Printer

/-!
# Written tags are read back

The printer writes a tag as its name and its attributes between angle brackets, every value escaped
and in double quotes. The reader finds the end of such a tag whatever the values hold, splits it
into the same keys, and unescapes the same values. Main statements: `readPiece_openTag` and
`ofTag_render` for opening tags, `readPiece_emptyTag` for empty ones, `readPiece_closeTag` for
closing tags, `readPiece_reference` for what stands for an escaped character in text.
-/

namespace Xib.Xml

set_option autoImplicit false

/-- The characters of names: ASCII letters and digits, `_`, `:`, `.` and `-`. -/
def isNameMark (mark : Char) : Bool :=
  mark.isAlphanum || mark = '_' || mark = ':' || mark = '.' || mark = '-'

def IsName (name : String) : Prop :=
  name ≠ "" ∧ ∀ mark ∈ name.toList, isNameMark mark = true

instance (name : String) : Decidable (IsName name) :=
  decidable_of_iff (name ≠ "" ∧ name.toList.all isNameMark = true) (by simp [IsName])

section Marks

variable {mark : Char}

theorem ne_of_isNameMark (named : isNameMark mark = true) (other : Char)
    (unnamed : isNameMark other = false) : mark ≠ other := by
  rintro rfl
  rw [named] at unnamed
  cases unnamed

theorem isBlankMark_of_isNameMark (named : isNameMark mark = true) : isBlankMark mark = false := by
  have noSpace := ne_of_isNameMark named ' ' (by decide)
  have noTab := ne_of_isNameMark named '\t' (by decide)
  have noReturn := ne_of_isNameMark named '\r' (by decide)
  have noLine := ne_of_isNameMark named '\n' (by decide)
  simp [isBlankMark, noSpace, noTab, noReturn, noLine]

end Marks

theorem IsName.exists_cons {name : String} (named : IsName name) :
    ∃ first rest, name.toList = first :: rest ∧ isNameMark first = true ∧
      ∀ mark ∈ rest, isNameMark mark = true := by
  cases shape : name.toList with
  | nil => exact absurd (String.toList_eq_nil_iff.mp shape) named.1
  | cons first rest =>
      have marks := named.2
      rw [shape] at marks
      exact ⟨first, rest, rfl, marks first List.mem_cons_self,
        fun mark member => marks mark (List.mem_cons_of_mem first member)⟩

/-! ## Escaped characters -/

/-- A character is written as itself, and then the reader takes it as it is, or as a reference to
the predefined entity that stands for it. -/
theorem escapeCharacter_cases (mark : Char) :
    (escapeCharacter mark = [mark] ∧ mark ≠ '&' ∧ mark ≠ '<' ∧ mark ≠ '"') ∨
      ∃ name : List Char, escapeCharacter mark = '&' :: name ++ [';'] ∧
        Reference.predefined? name = some mark ∧ ∀ part ∈ name, isNameMark part = true := by
  unfold escapeCharacter
  split
  case h_1 => exact .inr ⟨['a', 'm', 'p'], rfl, by decide, List.all_eq_true.mp rfl⟩
  case h_2 => exact .inr ⟨['l', 't'], rfl, by decide, List.all_eq_true.mp rfl⟩
  case h_3 => exact .inr ⟨['g', 't'], rfl, by decide, List.all_eq_true.mp rfl⟩
  case h_4 => exact .inr ⟨['q', 'u', 'o', 't'], rfl, by decide, List.all_eq_true.mp rfl⟩
  case h_5 => exact .inr ⟨['a', 'p', 'o', 's'], rfl, by decide, List.all_eq_true.mp rfl⟩
  case h_6 noAmpersand noLess _ noQuote _ => exact .inl ⟨rfl, noAmpersand, noLess, noQuote⟩

theorem ne_quote_of_mem_escape {value : String} {mark : Char} (member : mark ∈ escape value) :
    mark ≠ '"' := by
  obtain ⟨written, _, part⟩ := List.mem_flatMap.mp member
  obtain ⟨itself, -, -, noQuote⟩ | ⟨name, reference, -, marks⟩ := escapeCharacter_cases written
  · rw [itself, List.mem_singleton] at part
    exact part ▸ noQuote
  · rw [reference, List.mem_append, List.mem_cons, List.mem_singleton] at part
    obtain (rfl | inside) | rfl := part
    · decide
    · exact ne_of_isNameMark (marks mark inside) '"' (by decide)
    · decide

/-- Entity names are no character references. -/
theorem head_ne_hash {name : List Char} (marks : ∀ part ∈ name, isNameMark part = true)
    (code : List Char) : name ≠ '#' :: code := by
  rintro rfl
  exact absurd (marks '#' List.mem_cons_self) (by decide)

theorem inText?_entity {name : List Char} {mark : Char}
    (known : Reference.predefined? name = some mark)
    (marks : ∀ part ∈ name, isNameMark part = true) : Reference.inText? name = some mark := by
  unfold Reference.inText?
  split
  case h_1 code => exact absurd rfl (head_ne_hash marks code)
  case h_2 => exact known

theorem takeWhile_append_stop {keep : Char → Bool} {before : List Char} {stop : Char}
    (kept : ∀ mark ∈ before, keep mark = true) (stops : keep stop = false) (after : List Char) :
    (before ++ stop :: after).takeWhile keep = before := by
  rw [List.takeWhile_append_of_pos kept, List.takeWhile_cons_of_neg (by simp [stops]),
    List.append_nil]

namespace Attribute

variable {name : List Char} {mark : Char}

theorem resolve_entity (known : Reference.predefined? name = some mark)
    (marks : ∀ part ∈ name, isNameMark part = true) (start : Nat) :
    resolve start name = .ok mark := by
  unfold resolve
  split
  case h_1 code => exact absurd rfl (head_ne_hash marks code)
  case h_2 => rw [known]

/-- Reading goes through the name of a reference up to its semicolon. -/
theorem unescapeFrom_pending (total start : Nat) (taken rest : List Char)
    (inside : ∀ part ∈ name, part ≠ ';' ∧ part ≠ '&') :
    unescapeFrom total (some (start, taken)) (name ++ ';' :: rest) =
      (resolve (start + 1) (taken.reverse ++ name)).bind fun mark =>
        (unescapeFrom total none rest).map (mark :: ·) := by
  induction name generalizing taken with
  | nil =>
      simp only [List.nil_append, List.append_nil, unescapeFrom, if_true]
      cases resolve (start + 1) taken.reverse with
      | error fault => rfl
      | ok mark => cases unescapeFrom total none rest <;> rfl
  | cons part name ih =>
      obtain ⟨⟨noEnd, noStart⟩, others⟩ := List.forall_mem_cons.mp inside
      simp only [List.cons_append, unescapeFrom, noEnd, noStart, if_false]
      rw [ih (part :: taken) others, List.reverse_cons, List.append_assoc, List.singleton_append]

theorem unescapeFrom_escaped (total : Nat) (value : List Char) :
    unescapeFrom total none (value.flatMap escapeCharacter) = .ok value := by
  induction value with
  | nil => rfl
  | cons mark value ih =>
      rw [List.flatMap_cons]
      obtain ⟨itself, noStart, -, -⟩ | ⟨name, reference, known, marks⟩ :=
        escapeCharacter_cases mark
      · simp only [itself, List.singleton_append, unescapeFrom, noStart, if_false, ih]
      · simp only [reference, List.cons_append, List.append_assoc, List.nil_append, unescapeFrom,
          if_true]
        have inside : ∀ part ∈ name, part ≠ ';' ∧ part ≠ '&' := fun part member =>
          ⟨ne_of_isNameMark (marks part member) ';' (by decide),
            ne_of_isNameMark (marks part member) '&' (by decide)⟩
        rw [unescapeFrom_pending total _ [] _ inside, List.reverse_nil, List.nil_append,
          resolve_entity known marks, ih]
        rfl

theorem unescape_escape (value : String) : unescape (escape value) = .ok value := by
  rw [unescape, escape, unescapeFrom_escaped]
  simp [Except.map]

theorem splitKey_written {key : List Char} (marks : ∀ part ∈ key, isNameMark part = true)
    (value : List Char) : splitKey (key ++ '=' :: value) = .ok (key, value) := by
  have taken : (key ++ '=' :: value).takeWhile
      (fun mark => !(mark = '=' || isBlankMark mark)) = key := by
    apply takeWhile_append_stop
    · intro part member
      have named := marks part member
      simp [ne_of_isNameMark named '=' (by decide), isBlankMark_of_isNameMark named]
    · decide
  have stops : isBlankMark '=' = false := by decide
  simp only [splitKey, taken, List.drop_left]
  simp [stops]

theorem splitQuoted_closed {value : List Char} (noQuote : ∀ mark ∈ value, mark ≠ '"')
    (next : List Char) : splitQuoted '"' (value ++ '"' :: next) = some (value, next) := by
  have taken : (value ++ '"' :: next).takeWhile (· ≠ '"') = value := by
    apply takeWhile_append_stop
    · intro mark member
      simp [noQuote mark member]
    · decide
  simp only [splitQuoted, taken, List.drop_left]

theorem readOne_quoted (total : Nat) {seen : List (String × Nat)} {key : String} {first : Char}
    {rest : List Char} (shape : key.toList = first :: rest)
    (marks : ∀ part ∈ rest, isNameMark part = true) (fresh : seen.lookup key = none)
    {value : List Char} (noQuote : ∀ mark ∈ value, mark ≠ '"') (next : List Char) :
    readOne total seen first (rest ++ '=' :: '"' :: (value ++ '"' :: next)) =
      (unescape value).map fun meant => (key, meant, next) := by
  have same : String.ofList (first :: rest) = key := by rw [← shape, String.ofList_toList]
  have quoted : isBlankMark '"' = false := by decide
  simp only [readOne, splitKey_written marks, same, fresh]
  simp only [List.dropWhile_cons, quoted, Bool.false_eq_true, if_false, decide_true, Bool.true_or,
    if_true, splitQuoted_closed noQuote]
  cases unescape value <;> rfl

theorem readFrom_quoted (total fuel : Nat) {seen : List (String × Nat)} (read : Table String)
    {key : String} (named : IsName key) (fresh : key ∉ seen.map Prod.fst) {value : List Char}
    (noQuote : ∀ mark ∈ value, mark ≠ '"') (next : List Char) :
    ∃ position, readFrom total (fuel + 1) seen read
        (' ' :: (key.toList ++ '=' :: '"' :: (value ++ '"' :: next))) =
      (unescape value).bind fun meant =>
        readFrom total fuel ((key, position) :: seen) (read.insert key meant) next := by
  have unseen : seen.lookup key = none := by
    rw [List.lookup_eq_none_iff]
    intro pair member
    exact bne_iff_ne.mpr fun same => fresh (same ▸ List.mem_map_of_mem member)
  obtain ⟨first, rest, shape, firstMark, restMarks⟩ := named.exists_cons
  have blank : isBlankMark ' ' = true := by decide
  simp only [shape, List.cons_append, readFrom, List.dropWhile_cons, blank,
    isBlankMark_of_isNameMark firstMark, if_true, Bool.false_eq_true, if_false,
    readOne_quoted total shape restMarks unseen noQuote]
  refine ⟨total - byteCount (first :: (rest ++ '=' :: '"' :: (value ++ '"' :: next))), ?_⟩
  cases unescape value <;> rfl

/-- The printer writes attributes one by one, each with a blank in front. -/
def renderEntry (entry : String × String) : List Char :=
  ' ' :: entry.1.toList ++ '=' :: '"' :: escape entry.2 ++ ['"']

theorem renderAttributes_eq (attributes : Table String) :
    renderAttributes attributes = attributes.entries.flatMap renderEntry := rfl

theorem length_le_length_written (entries : List (String × String)) :
    entries.length ≤ (entries.flatMap renderEntry).length := by
  induction entries with
  | nil => simp
  | cons entry rest ih =>
      simp only [List.flatMap_cons, List.length_append, List.length_cons, renderEntry]
      omega

theorem readFrom_step (total fuel : Nat) {seen : List (String × Nat)} (read : Table String)
    {key : String} (named : IsName key) (fresh : key ∉ seen.map Prod.fst) (value : String)
    (next : List Char) :
    ∃ position, readFrom total (fuel + 1) seen read (renderEntry (key, value) ++ next) =
      readFrom total fuel ((key, position) :: seen) (read.insert key value) next := by
  have written : renderEntry (key, value) ++ next =
      ' ' :: (key.toList ++ '=' :: '"' :: (escape value ++ '"' :: next)) := by
    simp [renderEntry]
  obtain ⟨position, step⟩ := readFrom_quoted total fuel read named fresh
    (fun _ (member : _ ∈ escape value) => ne_quote_of_mem_escape member) next
  rw [written, step, unescape_escape]
  exact ⟨position, rfl⟩

/-- Reading goes on where `read` ends in `whole`, and has seen no key but those of `read`. -/
theorem readFrom_written (total : Nat) {whole : Table String}
    (names : ∀ key ∈ whole.keys, IsName key) {entries : List (String × String)} {fuel : Nat}
    {seen : List (String × Nat)} {read : Table String}
    (split : whole.entries = read.entries ++ entries) (enough : entries.length ≤ fuel)
    (known : ∀ key ∈ seen.map Prod.fst, key ∈ read.keys) :
    readFrom total fuel seen read (entries.flatMap renderEntry) = .ok whole := by
  induction entries generalizing fuel seen read with
  | nil =>
      have done : read = whole := by
        cases read
        cases whole
        simpa using split.symm
      rw [done]
      cases fuel with
      | zero => rfl
      | succ fuel => rfl
  | cons entry rest ih =>
      obtain ⟨key, value⟩ := entry
      have keys : whole.keys = read.keys ++ key :: rest.map Prod.fst := by
        simp [Table.keys, split]
      have absent : key ∉ read.keys := by
        have distinct : whole.keys.Nodup := whole.distinct
        rw [keys] at distinct
        intro present
        exact (List.nodup_append.mp distinct).2.2 key present key List.mem_cons_self rfl
      have grown : (read.insert key value).entries = read.entries ++ [(key, value)] :=
        upsert_of_not_mem value absent
      cases fuel with
      | zero => simp at enough
      | succ fuel =>
          obtain ⟨position, step⟩ := readFrom_step total fuel read (names key (by simp [keys]))
            (fun member => absent (known key member)) value (rest.flatMap renderEntry)
          rw [List.flatMap_cons, step]
          apply ih
          · rw [split, grown, List.append_assoc]
            rfl
          · simpa using enough
          · intro other member
            rw [Table.keys, grown, List.map_append]
            obtain rfl | earlier := List.mem_cons.mp member
            · simp
            · exact List.mem_append_left _ (known other earlier)

theorem ofTag_render {name : String} {attributes : Table String} (named : IsName name)
    (names : ∀ key ∈ attributes.keys, IsName key) :
    ofTag (name.toList ++ renderAttributes attributes) = (name, .ok attributes) := by
  have stops : (renderAttributes attributes).takeWhile (fun mark => !isBlankMark mark) = [] := by
    rw [renderAttributes_eq]
    cases attributes.entries with
    | nil => rfl
    | cons entry rest => rfl
  have taken : (name.toList ++ renderAttributes attributes).takeWhile
      (fun mark => !isBlankMark mark) = name.toList := by
    rw [List.takeWhile_append_of_pos, stops, List.append_nil]
    intro mark member
    simp [isBlankMark_of_isNameMark (named.2 mark member)]
  simp only [ofTag, taken, List.drop_left, String.ofList_toList]
  rw [renderAttributes_eq, readFrom_written _ names rfl (length_le_length_written _)]
  intro key member
  simp at member

end Attribute

/-! ## Where a tag ends -/

/-- Content whose quotes are all closed and that has no closing bracket outside of them: a tag
that begins with it does not end in it. -/
def Unbroken (content : List Char) : Prop :=
  ∀ text, breakTag none (content ++ text) =
    (breakTag none text).map fun (before, after) => (content ++ before, after)

namespace Unbroken

theorem nil : Unbroken [] := by
  intro text
  simp

theorem append {left right : List Char} (first : Unbroken left) (second : Unbroken right) :
    Unbroken (left ++ right) := by
  intro text
  rw [List.append_assoc, first, second, Option.map_map]
  simp [Function.comp_def]

theorem cons {mark : Char} {content : List Char} (noEnd : mark ≠ '>') (noDouble : mark ≠ '"')
    (noSingle : mark ≠ '\'') (unbroken : Unbroken content) : Unbroken (mark :: content) := by
  intro text
  simp only [List.cons_append, breakTag, noEnd, noDouble, noSingle, if_false, decide_false,
    Bool.or_self, Bool.false_eq_true, unbroken text, Option.map_map]
  rfl

theorem of_marks {content : List Char} (marks : ∀ mark ∈ content, isNameMark mark = true) :
    Unbroken content := by
  induction content with
  | nil => exact nil
  | cons mark content ih =>
      have ⟨named, others⟩ := List.forall_mem_cons.mp marks
      exact cons (ne_of_isNameMark named '>' (by decide)) (ne_of_isNameMark named '"' (by decide))
        (ne_of_isNameMark named '\'' (by decide)) (ih others)

/-- Inside double quotes everything else is content, brackets and slashes too. -/
theorem quoted {value : List Char} (noQuote : ∀ mark ∈ value, mark ≠ '"') :
    Unbroken ('"' :: value ++ ['"']) := by
  intro text
  have inside : breakTag (some '"') (value ++ '"' :: text) =
      (breakTag none text).map fun (before, after) => (value ++ '"' :: before, after) := by
    induction value with
    | nil => simp [breakTag]
    | cons mark value ih =>
        have ⟨different, others⟩ := List.forall_mem_cons.mp noQuote
        simp only [List.cons_append, breakTag, different, if_false, ih others, Option.map_map]
        rfl
  simp only [List.cons_append, List.append_assoc, List.nil_append, breakTag]
  simp [inside, Function.comp_def]

theorem entries {entries : List (String × String)}
    (names : ∀ key ∈ entries.map Prod.fst, IsName key) :
    Unbroken (entries.flatMap Attribute.renderEntry) := by
  induction entries with
  | nil => exact nil
  | cons entry rest ih =>
      have ⟨named, others⟩ := List.forall_mem_cons.mp names
      have key : Unbroken entry.1.toList := of_marks named.2
      have value : Unbroken ('"' :: escape entry.2 ++ ['"']) :=
        quoted fun _ member => ne_quote_of_mem_escape member
      have written : Attribute.renderEntry entry =
          ' ' :: (entry.1.toList ++ '=' :: ('"' :: escape entry.2 ++ ['"'])) := by
        simp [Attribute.renderEntry]
      rw [List.flatMap_cons, written]
      apply append _ (ih others)
      apply cons (by decide) (by decide) (by decide)
      exact key.append (value.cons (by decide) (by decide) (by decide))

theorem breakTag_close {content : List Char} (unbroken : Unbroken content) (after : List Char) :
    breakTag none (content ++ '>' :: after) = some (content, after) := by
  simp [unbroken ('>' :: after), breakTag]

end Unbroken

/-! ## Pieces -/

section Pieces

variable {name : String} {attributes : Table String}

/-- A bracket begins a tag unless `!` or `?` follows. -/
theorem readPiece_tag {first : Char} (noDeclaration : first ≠ '!') (noInstruction : first ≠ '?')
    (rest : List Char) : readPiece '<' (first :: rest) =
      (readTag (first :: rest)).mapError fun problem => ⟨problem, '<' :: first :: rest⟩ := by
  simp [readPiece, noDeclaration, noInstruction]

theorem readTag_open {text content after : List Char}
    (found : breakTag none text = some (content, after))
    (noClose : ∀ others, content ≠ '/' :: others) (noSlash : content.getLast? ≠ some '/') :
    readTag text = .ok (.openTag content, after) := by
  unfold readTag
  rw [found]
  split
  case h_1 nothing => cases nothing
  case h_2 closes =>
    cases closes
    exact absurd rfl (noClose _)
  case h_3 tag =>
    cases tag
    rw [if_neg noSlash]

/-- The content of a written tag does not end like that of an empty tag. -/
theorem getLast?_content_ne_slash (named : IsName name) (attributes : Table String) :
    (name.toList ++ renderAttributes attributes).getLast? ≠ some '/' := by
  have keyEnd : name.toList.getLast? ≠ some '/' := by
    intro slash
    exact absurd (named.2 '/' (List.mem_of_getLast? slash)) (by decide)
  rw [Attribute.renderAttributes_eq]
  induction attributes.entries using List.reverseRecOn with
  | nil => simpa using keyEnd
  | append_singleton entries entry _ =>
      rw [List.flatMap_append, List.flatMap_singleton, Attribute.renderEntry,
        ← List.append_assoc, ← List.append_assoc, List.getLast?_concat]
      decide

theorem readPiece_openTag (named : IsName name) (names : ∀ key ∈ attributes.keys, IsName key)
    (after : List Char) :
    readPiece '<' (name.toList ++ renderAttributes attributes ++ '>' :: after) =
      .ok (.openTag (name.toList ++ renderAttributes attributes), after) := by
  have unbroken : Unbroken (name.toList ++ renderAttributes attributes) :=
    (Unbroken.of_marks named.2).append (Unbroken.entries names)
  have found := unbroken.breakTag_close after
  have noSlash := getLast?_content_ne_slash named attributes
  obtain ⟨first, rest, shape, firstMark, -⟩ := named.exists_cons
  rw [shape] at found noSlash ⊢
  have noClose : ∀ others, first :: rest ++ renderAttributes attributes ≠ '/' :: others := by
    intro others same
    exact ne_of_isNameMark firstMark '/' (by decide) (List.cons.inj same).1
  simp only [List.cons_append] at found noSlash noClose ⊢
  rw [readPiece_tag (ne_of_isNameMark firstMark '!' (by decide))
    (ne_of_isNameMark firstMark '?' (by decide))]
  rw [readTag_open found noClose noSlash]
  rfl

theorem readTag_empty {text content after : List Char}
    (found : breakTag none text = some (content ++ ['/'], after))
    (noClose : ∀ others, content ++ ['/'] ≠ '/' :: others) :
    readTag text = .ok (.emptyTag content, after) := by
  unfold readTag
  rw [found]
  split
  case h_1 nothing => cases nothing
  case h_2 others _ closes =>
    obtain ⟨same, -⟩ := Prod.mk.inj (Option.some.inj closes)
    exact absurd same (noClose others)
  case h_3 tag =>
    obtain ⟨rfl, rfl⟩ := Prod.mk.inj (Option.some.inj tag)
    rw [List.getLast?_concat, if_pos rfl, List.dropLast_concat]

/-- A slash in front of the bracket makes the tag an empty one. -/
theorem readPiece_empty (named : IsName name) {rest : List Char}
    (unbroken : Unbroken (name.toList ++ rest)) (after : List Char) :
    readPiece '<' (name.toList ++ rest ++ '/' :: '>' :: after) =
      .ok (.emptyTag (name.toList ++ rest), after) := by
  have slash : Unbroken ['/'] := Unbroken.nil.cons (by decide) (by decide) (by decide)
  have found := (unbroken.append slash).breakTag_close after
  obtain ⟨first, others, shape, firstMark, -⟩ := named.exists_cons
  rw [shape] at found ⊢
  have noClose : ∀ text, first :: others ++ rest ++ ['/'] ≠ '/' :: text := by
    intro text same
    exact ne_of_isNameMark firstMark '/' (by decide) (List.cons.inj same).1
  have read := readTag_empty found noClose
  rw [List.append_assoc, List.singleton_append] at read
  simp only [List.cons_append] at read ⊢
  rw [readPiece_tag (ne_of_isNameMark firstMark '!' (by decide))
    (ne_of_isNameMark firstMark '?' (by decide)), read]
  rfl

theorem readPiece_emptyTag (named : IsName name) (names : ∀ key ∈ attributes.keys, IsName key)
    (after : List Char) :
    readPiece '<' (name.toList ++ renderAttributes attributes ++ '/' :: '>' :: after) =
      .ok (.emptyTag (name.toList ++ renderAttributes attributes), after) :=
  readPiece_empty named ((Unbroken.of_marks named.2).append (Unbroken.entries names)) after

theorem closingName_of_isName (named : IsName name) : closingName name.toList = name.toList := by
  have visible : ∀ mark ∈ name.toList, isBlankMark mark = false := fun mark member =>
    isBlankMark_of_isNameMark (named.2 mark member)
  obtain ⟨first, rest, shape, firstMark, -⟩ := named.exists_cons
  have notBlank : name.toList.all isBlankMark = false := by
    simp [shape, isBlankMark_of_isNameMark firstMark]
  rw [closingName, notBlank, if_neg (by simp), Text.dropTrailing]
  rw [List.dropWhile_eq_self_iff.mpr, List.reverse_reverse]
  intro inside
  exact ne_true_of_eq_false (visible _ (List.mem_reverse.mp (List.getElem_mem inside)))

theorem readPiece_closeTag (named : IsName name) (after : List Char) :
    readPiece '<' ('/' :: name.toList ++ '>' :: after) = .ok (.closeTag name.toList, after) := by
  have unbroken : Unbroken ('/' :: name.toList) :=
    (Unbroken.of_marks named.2).cons (by decide) (by decide) (by decide)
  have found := unbroken.breakTag_close after
  simp only [List.cons_append] at found ⊢
  rw [readPiece_tag (by decide) (by decide)]
  simp [readTag, found, closingName_of_isName named, Except.mapError]

theorem readPiece_reference {entity : List Char}
    (inside : ∀ part ∈ entity, part ≠ ';' ∧ part ≠ '&' ∧ part ≠ '<') (after : List Char) :
    readPiece '&' (entity ++ ';' :: after) = .ok (.reference entity, after) := by
  have taken : (entity ++ ';' :: after).takeWhile
      (fun mark => !(mark = ';' || mark = '&' || mark = '<')) = entity := by
    apply takeWhile_append_stop
    · intro part member
      simp [inside part member]
    · decide
  simp only [readPiece, if_true, readReference, taken, List.drop_left]
  rfl

/-- Text runs up to the next bracket or ampersand. -/
theorem readPiece_text {first stop : Char} {run : List Char}
    (plain : ∀ mark ∈ first :: run, mark ≠ '&' ∧ mark ≠ '<') (stops : stop = '<' ∨ stop = '&')
    (after : List Char) :
    readPiece first (run ++ stop :: after) = .ok (.text (first :: run), stop :: after) := by
  have taken : (first :: run ++ stop :: after).takeWhile
      (fun mark => !(mark = '<' || mark = '&')) = first :: run := by
    apply takeWhile_append_stop
    · intro mark member
      simp [plain mark member]
    · obtain rfl | rfl := stops <;> decide
  have ⟨noReference, noTag⟩ := plain first List.mem_cons_self
  rw [List.cons_append] at taken
  simp only [readPiece, noReference, noTag, if_false, taken]
  rw [← List.cons_append, List.drop_left]

end Pieces

end Xib.Xml
