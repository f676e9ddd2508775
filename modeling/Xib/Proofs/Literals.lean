import Mathlib.Algebra.Ring.Parity
import Mathlib.Data.List.Induction
import Xib.Swift.Literal

/-!
# String literals are read back

A literal shows where it ends: the scanner gets out of it the text it was written for and leaves
what follows, so no literal begins another. Said without the scanner, by counting the backslashes
before a character: the first quote that is not escaped is the closing one, and what is escaped is
one of the marks that `escape` writes, so nothing in a literal is an interpolation.
-/

namespace Xib.Swift

set_option autoImplicit false

/-! ## Reading -/

theorem scanInside_escape (character : Char) (rest : List Char) :
    scanInside false (escape character ++ rest) =
      (scanInside false rest).map fun (text, suffix) => (character :: text, suffix) := by
  unfold escape
  split
  case h_6 noQuote noBackslash _ _ _ =>
    rw [List.singleton_append, scanInside, if_neg noQuote, if_neg noBackslash]
  all_goals rfl

theorem scanInside_escaped (text rest : List Char) :
    scanInside false (text.flatMap escape ++ '"' :: rest) = some (text, rest) := by
  induction text with
  | nil => rfl
  | cons character text ih =>
      rw [List.flatMap_cons, List.append_assoc, scanInside_escape, ih]
      rfl

theorem toList_string (text : String) :
    (string text).toList = '"' :: (text.toList.flatMap escape ++ ['"']) := by
  simp [string]

/-- A literal means the text it was written for, whatever follows it. -/
theorem scan_string (text : String) (rest : List Char) :
    scan ((string text).toList ++ rest) = some (text.toList, rest) := by
  have written : (string text).toList ++ rest =
      '"' :: (text.toList.flatMap escape ++ '"' :: rest) := by
    simp [string]
  rw [written]
  exact scanInside_escaped text.toList rest

/-- What is read does not depend on what follows. -/
theorem scanInside_append {escaped : Bool} {input text left : List Char} (more : List Char)
    (read : scanInside escaped input = some (text, left)) :
    scanInside escaped (input ++ more) = some (text, left ++ more) := by
  fun_induction scanInside escaped input generalizing text with
  | case1 => cases read
  | case2 => cases read
  | case3 mark rest character means ih =>
      obtain ⟨⟨inner, suffix⟩, inside, joined⟩ := Option.map_eq_some_iff.mp read
      cases joined
      simp [scanInside, means, ih inside]
  | case4 rest =>
      cases read
      simp [scanInside]
  | case5 rest _ ih => exact ih read
  | case6 character rest quote backslash ih =>
      obtain ⟨⟨inner, suffix⟩, inside, joined⟩ := Option.map_eq_some_iff.mp read
      cases joined
      simp [scanInside, quote, backslash, ih inside]

theorem scan_append {input text left : List Char} (more : List Char)
    (read : scan input = some (text, left)) : scan (input ++ more) = some (text, left ++ more) := by
  unfold scan at read
  split at read
  · exact scanInside_append more read
  · cases read

/-- No part of a literal is a literal before its end is reached. -/
theorem scan_part {text : String} {part : List Char} (begins : part <+: (string text).toList)
    (proper : part ≠ (string text).toList) : scan part = none := by
  obtain ⟨rest, whole⟩ := begins
  cases read : scan part with
  | none => rfl
  | some outcome =>
      obtain ⟨inner, left⟩ := outcome
      have complete := scan_string text []
      rw [List.append_nil, ← whole, scan_append rest read] at complete
      have nothing : left ++ rest = [] := (Prod.mk.inj (Option.some.inj complete)).2
      have ended : rest = [] := (List.append_eq_nil_iff.mp nothing).2
      rw [ended, List.append_nil] at whole
      exact absurd whole proper

/-- What starts with a literal starts with no other, and goes on the same. -/
theorem string_append_inj {text other : String} {rest more : List Char}
    (same : (string text).toList ++ rest = (string other).toList ++ more) :
    text = other ∧ rest = more := by
  have read := scan_string text rest
  rw [same, scan_string other more] at read
  obtain ⟨texts, suffixes⟩ := Prod.mk.inj (Option.some.inj read)
  exact ⟨(String.toList_inj.mp texts).symm, suffixes.symm⟩

theorem string_injective {text other : String} (same : string text = string other) :
    text = other := by
  have literals : (string text).toList ++ [] = (string other).toList ++ [] := by
    rw [same]
  exact (string_append_inj literals).1

/-! ## Backslashes -/

/-- Whether a backslash still waits for its mark at the end of a text, given whether one did before
it. -/
def pending : (escaped : Bool) → List Char → Bool
  | escaped, [] => escaped
  | true, _ :: rest => pending false rest
  | false, character :: rest => pending (character = '\\') rest

theorem pending_append (escaped : Bool) (text more : List Char) :
    pending escaped (text ++ more) = pending (pending escaped text) more := by
  induction text generalizing escaped with
  | nil => rfl
  | cons character rest ih =>
      cases escaped with
      | true => exact ih false
      | false => exact ih (character = '\\')

theorem pending_snoc (text : List Char) (character : Char) :
    pending false (text ++ [character]) = (!pending false text && character = '\\') := by
  rw [pending_append]
  cases pending false text <;> rfl

def trailingBackslashes (text : List Char) : Nat :=
  (text.reverse.takeWhile (· = '\\')).length

theorem trailingBackslashes_snoc (text : List Char) (character : Char) :
    trailingBackslashes (text ++ [character]) =
      if character = '\\' then trailingBackslashes text + 1 else 0 := by
  rw [trailingBackslashes, List.reverse_append, List.reverse_singleton, List.singleton_append,
    List.takeWhile_cons]
  by_cases backslash : character = '\\'
  · simp [backslash, trailingBackslashes]
  · simp [backslash]

/-- A character is escaped exactly if an odd number of backslashes stands right before it. -/
theorem pending_eq_false_iff (text : List Char) :
    pending false text = false ↔ Even (trailingBackslashes text) := by
  induction text using List.reverseRecOn with
  | nil => simp [pending, trailingBackslashes]
  | append_singleton text character ih =>
      rw [pending_snoc, trailingBackslashes_snoc]
      by_cases backslash : character = '\\'
      · rw [if_pos backslash, Nat.even_add_one, ← ih]
        simp [backslash]
      · simp [backslash]

/-- A character stands for itself in a literal, or a backslash and a mark stand for it. -/
theorem escape_cases (character : Char) :
    escape character = [character] ∧ character ∉ ['"', '\\', '\n', '\r', '\t'] ∨
      ∃ mark, escape character = ['\\', mark] ∧ unescape? mark = some character := by
  unfold escape
  split
  case h_6 quote backslash feed carriage tab =>
    left
    simp only [List.mem_cons, List.not_mem_nil, or_false, not_or, true_and]
    exact ⟨quote, backslash, feed, carriage, tab⟩
  all_goals exact .inr ⟨_, rfl, rfl⟩

/-- Inside a literal, what stands after an open backslash is a mark, and a quote elsewhere is the
end. -/
theorem escaped_split {text before after : List Char} {character : Char}
    (split : text.flatMap escape ++ ['"'] = before ++ character :: after) :
    (pending false before = true → (unescape? character).isSome = true) ∧
      (pending false before = false → character = '"' → after = []) := by
  induction text generalizing before with
  | nil =>
      cases before with
      | nil =>
          refine ⟨nofun, ?_⟩
          intro _ _
          exact (List.cons.inj split).2.symm
      | cons first before => simp at split
  | cons next text ih =>
      rw [List.flatMap_cons, List.append_assoc] at split
      obtain ⟨single, plain⟩ | ⟨mark, double, means⟩ := escape_cases next
      · rw [single, List.singleton_append] at split
        simp only [List.mem_cons, List.not_mem_nil, or_false, not_or] at plain
        cases before with
        | nil =>
            refine ⟨nofun, ?_⟩
            intro _ quote
            exact absurd ((List.cons.inj split).1.trans quote) plain.1
        | cons first before =>
            obtain ⟨rfl, later⟩ := List.cons.inj split
            have passed : pending false (next :: before) = pending false before := by
              simp [pending, plain.2.1]
            rw [passed]
            exact ih later
      · rw [double, List.cons_append, List.singleton_append] at split
        cases before with
        | nil =>
            refine ⟨nofun, ?_⟩
            intro _ quote
            exact absurd ((List.cons.inj split).1.trans quote) (by decide)
        | cons first before =>
            obtain ⟨rfl, later⟩ := List.cons.inj split
            cases before with
            | nil =>
                obtain ⟨rfl, _⟩ := List.cons.inj later
                refine ⟨?_, nofun⟩
                intro _
                rw [means]
                rfl
            | cons second before =>
                obtain ⟨rfl, rest⟩ := List.cons.inj later
                exact @ih before rest

theorem string_split {text : String} {before after : List Char} {character : Char}
    (split : (string text).toList = before ++ character :: after) (behind : before ≠ []) :
    (pending false before = true → (unescape? character).isSome = true) ∧
      (pending false before = false → character = '"' → after = []) := by
  rw [toList_string] at split
  cases before with
  | nil => exact absurd rfl behind
  | cons first before =>
      obtain ⟨rfl, inside⟩ := List.cons.inj split
      exact @escaped_split _ before _ _ inside

/-- A quote with an even number of backslashes before it opens the literal or closes it. -/
theorem unescaped_quote_closes {text : String} {before after : List Char}
    (split : (string text).toList = before ++ '"' :: after) (behind : before ≠ [])
    (unescaped : Even (trailingBackslashes before)) : after = [] :=
  (string_split split behind).2 ((pending_eq_false_iff before).mpr unescaped) rfl

/-- Some backslash that is not escaped itself stands before a parenthesis. -/
def Interpolates (literal : List Char) : Prop :=
  ∃ before after, literal = before ++ '\\' :: '(' :: after ∧ Even (trailingBackslashes before)

theorem not_interpolates_string (text : String) : ¬Interpolates (string text).toList := by
  rintro ⟨before, after, split, unescaped⟩
  have opened : pending false (before ++ ['\\']) = true := by
    rw [pending_snoc, (pending_eq_false_iff before).mpr unescaped]
    rfl
  rw [List.append_cons] at split
  have marked := (string_split split (by simp)).1 opened
  exact absurd marked (by decide)

theorem control_not_mem_string (text : String) {control : Char}
    (raw : control ∈ ['\n', '\r', '\t']) : control ∉ (string text).toList := by
  have unmarked : control ≠ '"' ∧ control ≠ '\\' ∧ unescape? control = none := by
    simp only [List.mem_cons, List.not_mem_nil, or_false] at raw
    obtain rfl | rfl | rfl := raw
    all_goals decide
  obtain ⟨quote, apart, silent⟩ := unmarked
  rw [toList_string]
  intro member
  simp only [List.mem_cons, List.mem_append, List.mem_flatMap, List.not_mem_nil, or_false, quote,
    false_or] at member
  obtain ⟨character, _, written⟩ := member
  obtain ⟨single, plain⟩ | ⟨mark, double, means⟩ := escape_cases character
  · rw [single, List.mem_singleton] at written
    rw [← written] at plain
    exact plain (List.mem_cons_of_mem _ (List.mem_cons_of_mem _ raw))
  · rw [double] at written
    obtain same | later := List.mem_cons.mp written
    · exact apart same
    · rw [← List.mem_singleton.mp later, silent] at means
      cases means

end Xib.Swift
