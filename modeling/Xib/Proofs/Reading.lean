import Mathlib.Logic.Relation
import Xib.Xml.Assembly

/-!
# Reading as a run of steps

Reading and assembling a text is a run of small steps: a piece is read, the event it means is fed
to the tree under construction, and reading goes on after the piece. Every piece takes at least one
character, so a run is never longer than its text, and `Element.parse` follows a run to its end
(`Reading.Run.parse_eq`).
-/

namespace Xib.Xml

set_option autoImplicit false

/-! ## Every piece takes at least one character -/

section Suffixes

variable {text before after : List Char}

/-- The shape of all three searches below: a character is skipped, the search goes on. -/
theorem suffix_of_skipped {character : Char} {search : Option (List Char × List Char)}
    (found : (search.map fun (before, after) => (character :: before, after)) =
      some (before, after))
    (deeper : ∀ before, search = some (before, after) → after <:+ text) :
    after <:+ character :: text := by
  obtain ⟨⟨earlier, later⟩, searched, same⟩ := Option.map_eq_some_iff.mp found
  obtain ⟨-, rfl⟩ := Prod.mk.inj same
  exact (deeper earlier searched).trans (List.suffix_cons character text)

theorem breakAt_suffix {mark : List Char} (found : breakAt mark text = some (before, after)) :
    after <:+ text := by
  induction text generalizing before with
  | nil => simp [breakAt] at found
  | cons character rest ih =>
      simp only [breakAt] at found
      split at found
      · obtain ⟨-, rfl⟩ := Prod.mk.inj (Option.some.inj found)
        exact List.drop_suffix _ _
      · exact suffix_of_skipped found fun _ => ih

theorem breakTag_suffix {quote : Option Char}
    (found : breakTag quote text = some (before, after)) : after <:+ text := by
  induction text generalizing quote before with
  | nil => simp [breakTag] at found
  | cons character rest ih =>
      cases quote with
      | none =>
          simp only [breakTag] at found
          split at found
          · obtain ⟨-, rfl⟩ := Prod.mk.inj (Option.some.inj found)
            exact List.suffix_cons character rest
          · exact suffix_of_skipped found fun _ => ih
      | some quote => exact suffix_of_skipped found fun _ => ih

theorem breakNested_suffix {depth : Nat}
    (found : breakNested depth text = some (before, after)) : after <:+ text := by
  induction text generalizing depth before with
  | nil => simp [breakNested] at found
  | cons character rest ih =>
      simp only [breakNested] at found
      split at found
      · cases depth with
        | zero =>
            obtain ⟨-, rfl⟩ := Prod.mk.inj (Option.some.inj found)
            exact List.suffix_rfl
        | succ depth => exact suffix_of_skipped found fun _ => ih
      · exact suffix_of_skipped found fun _ => ih

variable {piece : Piece}

theorem readReference_suffix (read : readReference text = .ok (piece, after)) :
    after <:+ text := by
  simp only [readReference] at read
  split at read
  case h_1 rest shape =>
    obtain ⟨-, rfl⟩ := Prod.mk.inj (Except.ok.inj read)
    have inside : rest <:+ ';' :: rest := List.suffix_cons ';' rest
    rw [← shape] at inside
    exact inside.trans (List.drop_suffix _ _)
  case h_2 => cases read

theorem readComment_suffix (read : readComment text = .ok (piece, after)) : after <:+ text := by
  unfold readComment at read
  split at read
  case h_1 content =>
    split at read
    case h_1 found =>
      obtain ⟨-, rfl⟩ := Prod.mk.inj (Except.ok.inj read)
      exact (breakAt_suffix found).trans (List.suffix_cons '-' content)
    case h_2 => cases read
  case h_2 => cases read

theorem readData_suffix (read : readData text = .ok (piece, after)) : after <:+ text := by
  simp only [readData] at read
  split at read
  case isTrue =>
    split at read
    case h_1 found =>
      obtain ⟨-, rfl⟩ := Prod.mk.inj (Except.ok.inj read)
      exact (breakAt_suffix found).trans (List.drop_suffix _ _)
    case h_2 => cases read
  case isFalse => cases read

theorem readDoctype_suffix {start : List Char}
    (read : readDoctype start text = .ok (piece, after)) : after <:+ text := by
  simp only [readDoctype] at read
  split at read
  case isTrue =>
    split at read
    case h_1 => cases read
    case h_2 content closing found =>
      split at read
      case isTrue => cases read
      case isFalse =>
        obtain ⟨-, rfl⟩ := Prod.mk.inj (Except.ok.inj read)
        have tail := (List.drop_suffix 1 closing).trans (breakNested_suffix found)
        exact tail.trans (List.drop_suffix _ _)
  case isFalse => cases read

theorem readInstruction_suffix (read : readInstruction text = .ok (piece, after)) :
    after <:+ text := by
  unfold readInstruction at read
  split at read
  case isTrue => cases read
  case isFalse =>
    split at read
    case h_1 found =>
      obtain ⟨-, rfl⟩ := Prod.mk.inj (Except.ok.inj read)
      exact breakAt_suffix found
    case h_2 => cases read

theorem readTag_suffix (read : readTag text = .ok (piece, after)) : after <:+ text := by
  unfold readTag at read
  split at read
  case h_1 => cases read
  case h_2 found =>
    obtain ⟨-, rfl⟩ := Prod.mk.inj (Except.ok.inj read)
    exact breakTag_suffix found
  case h_3 found =>
    split at read <;> obtain ⟨-, rfl⟩ := Prod.mk.inj (Except.ok.inj read)
    · exact breakTag_suffix found
    · exact breakTag_suffix found

theorem ok_of_mapError {α β ε : Type} {result : Except α β} {image : α → ε} {value : β}
    (ok : result.mapError image = .ok value) : result = .ok value := by
  cases result with
  | error fault => cases ok
  | ok found => exact congrArg _ (Except.ok.inj ok)

/-- What is left after a piece is an end of what followed its first character. -/
theorem readPiece_suffix {first : Char} (read : readPiece first text = .ok (piece, after)) :
    after <:+ text := by
  simp only [readPiece] at read
  split at read
  case isTrue => exact readReference_suffix (ok_of_mapError read)
  case isFalse noReference =>
    split at read
    case isTrue =>
      split at read
      case h_1 rest =>
        have tail := readData_suffix (ok_of_mapError read)
        exact tail.trans (List.suffix_append ['!', '['] rest)
      case h_2 rest =>
        have tail := readComment_suffix (ok_of_mapError read)
        exact tail.trans (List.suffix_append ['!', '-'] rest)
      case h_3 mark rest =>
        split at read
        case isTrue => exact (readDoctype_suffix read).trans (List.suffix_cons '!' _)
        case isFalse => cases read
      case h_4 => cases read
      case h_5 rest =>
        exact (readInstruction_suffix (ok_of_mapError read)).trans (List.suffix_cons '?' rest)
      case h_6 => exact readTag_suffix (ok_of_mapError read)
    case isFalse noTag =>
      obtain ⟨-, rfl⟩ := Prod.mk.inj (Except.ok.inj read)
      simp [noReference, noTag, List.drop_suffix]

end Suffixes

/-! ## Runs -/

/-- How far reading has come: the names that are open, the tree so far and the text left. -/
structure Reading where
  names : List String
  assembly : Assembly
  left : List Char

namespace Reading

inductive Step : Reading → Reading → Prop
  | piece {names opened : List String} {assembly grown : Assembly} {first : Char}
      {rest after : List Char} {piece : Piece} {event : Event}
      (read : readPiece first rest = .ok (piece, after))
      (meant : Event.ofPiece names (first :: rest) piece = .ok (event, opened))
      (fed : assembly.feed event = .ok grown) :
      Step ⟨names, assembly, first :: rest⟩ ⟨opened, grown, after⟩

abbrev Run : Reading → Reading → Prop :=
  Relation.ReflTransGen Step

/-- What reading on comes to: the tree after all events, and why reading stopped early. -/
def outcome (fuel : Nat) (reading : Reading) : Except Misfit Assembly × Option Failure :=
  let (events, failure) := readEvents fuel reading.names reading.left
  (events.foldlM Assembly.feed reading.assembly, failure)

variable {here there : Reading}

theorem Step.left_length_lt (step : Step here there) : there.left.length < here.left.length := by
  obtain ⟨read, -, -⟩ := step
  have shorter := (readPiece_suffix read).length_le
  simpa using Nat.lt_succ_of_le shorter

theorem Step.outcome_eq (step : Step here there) (fuel : Nat) :
    here.outcome (fuel + 1) = there.outcome fuel := by
  obtain ⟨read, meant, fed⟩ := step
  simp only [outcome, readEvents, read, meant, List.foldlM_cons, fed]
  rfl

/-- As much fuel as text is enough for a run, and leaves as much as the text after it. -/
theorem Run.exists_outcome_eq (run : Run here there) {fuel : Nat}
    (enough : here.left.length ≤ fuel) :
    ∃ less, there.left.length ≤ less ∧ here.outcome fuel = there.outcome less := by
  induction run using Relation.ReflTransGen.head_induction_on generalizing fuel with
  | refl => exact ⟨fuel, enough, rfl⟩
  | head step _ ih =>
      have shorter := step.left_length_lt
      obtain ⟨fuel, rfl⟩ : ∃ less, fuel = less + 1 := ⟨fuel - 1, by omega⟩
      rw [step.outcome_eq]
      exact ih (by omega)

/-- A run to the end of the text is all there is to reading it. -/
theorem Run.outcome_eq (run : Run here there) (done : there.left = []) {fuel : Nat}
    (enough : here.left.length ≤ fuel) : here.outcome fuel = (.ok there.assembly, none) := by
  obtain ⟨less, -, same⟩ := run.exists_outcome_eq enough
  rw [same, outcome, done]
  cases less <;> rfl

section Parse

variable {source : String} {names : List String} {assembly : Assembly}

/-- Parsing follows a run to the end of the text, and takes the tree it has built. -/
theorem Run.parse_eq
    (run : Run ⟨[], .initial, dropMark source.toList⟩ ⟨names, assembly, []⟩) :
    Element.parse source = assembly.finish.mapError Fault.assembly := by
  have outcome := run.outcome_eq rfl (Nat.le_refl _)
  obtain ⟨built, whole⟩ := Prod.mk.inj outcome
  simp only [Element.parse, built, whole]
  rfl

variable {first : Char} {rest after : List Char} {piece : Piece}

/-- Parsing follows a run up to an event that does not fit. -/
theorem Run.parse_misfit {event : Event} {opened : List String} {misfit : Misfit}
    (run : Run ⟨[], .initial, dropMark source.toList⟩ ⟨names, assembly, first :: rest⟩)
    (read : readPiece first rest = .ok (piece, after))
    (meant : Event.ofPiece names (first :: rest) piece = .ok (event, opened))
    (fed : assembly.feed event = .error misfit) :
    Element.parse source = .error (.assembly misfit) := by
  obtain ⟨less, left, same⟩ := run.exists_outcome_eq (Nat.le_refl _)
  obtain ⟨less, rfl⟩ : ∃ fewer, less = fewer + 1 := ⟨less - 1, by simp at left; omega⟩
  have built := congrArg Prod.fst same
  simp only [outcome, readEvents, read, meant, List.foldlM_cons, fed] at built
  simp only [Element.parse, built]
  rfl

/-- Parsing follows a run up to a tag whose attributes cannot be read. -/
theorem Run.parse_failure {failure : Failure}
    (run : Run ⟨[], .initial, dropMark source.toList⟩ ⟨names, assembly, first :: rest⟩)
    (read : readPiece first rest = .ok (piece, after))
    (fails : Event.ofPiece names (first :: rest) piece = .error failure) :
    Element.parse source = .error (.ofFailure (dropMark source.toList) failure) := by
  obtain ⟨less, left, same⟩ := run.exists_outcome_eq (Nat.le_refl _)
  obtain ⟨less, rfl⟩ : ∃ fewer, less = fewer + 1 := ⟨less - 1, by simp at left; omega⟩
  simp only [outcome, readEvents, read, fails, List.foldlM_nil] at same
  obtain ⟨built, stopped⟩ := Prod.mk.inj same
  simp only [Element.parse, built, stopped]
  rfl

end Parse

end Reading

end Xib.Xml
