import Xib.Proofs.Verbatim

/-!
# Line breaks in code

Code is meant to have one statement on each line, so that its lines can be read back off the source
text. This holds exactly if no text that a declared object hands over verbatim has a line feed. A
class name with a line feed is enough to break a declaration in two.
-/

namespace Xib

set_option autoImplicit false

namespace Text

/-- The pieces of a text between line feeds, empty ones left out. -/
def pieces (text : String) : List String :=
  ((text.toList.splitOn '\n').filter (· ≠ [])).map String.ofList

theorem pieces_empty : pieces "" = [] := by
  decide

theorem pieces_append (first second : String) :
    pieces (first ++ "\n" ++ second) = pieces first ++ pieces second := by
  have joined : (first ++ "\n" ++ second).toList = first.toList ++ '\n' :: second.toList := by
    simp
  have split : (first.toList ++ '\n' :: second.toList).splitOn '\n' =
      first.toList.splitOn '\n' ++ second.toList.splitOn '\n' :=
    List.splitOnP_append_cons _ _ (by decide)
  rw [pieces, joined, split, List.filter_append, List.map_append]
  rfl

theorem pieces_of_singleLine {text : String} (single : SingleLine text) (filled : text ≠ "") :
    pieces text = [text] := by
  have characters : text.toList ≠ [] := by simpa using filled
  simp [pieces, List.splitOn_eq_singleton single, characters]

theorem mark_not_mem_piece {mark : Char} {characters piece : List Char}
    (member : piece ∈ characters.splitOn mark) : mark ∉ piece := by
  induction characters generalizing piece with
  | nil =>
      rw [List.splitOn_nil, List.mem_singleton] at member
      rw [member]
      exact List.not_mem_nil
  | cons first rest ih =>
      rw [List.splitOn, List.splitOnP_cons_eq_if_modifyHead] at member
      split at member
      · obtain rfl | later := List.mem_cons.mp member
        · exact List.not_mem_nil
        · exact ih later
      -- Another character joins the first piece of the rest.
      · rename_i different
        cases pieces : rest.splitOnP (· == mark) with
        | nil =>
            rw [pieces] at member
            exact absurd member List.not_mem_nil
        | cons head others =>
            rw [List.splitOn, pieces] at ih
            rw [pieces, List.modifyHead_cons] at member
            obtain rfl | later := List.mem_cons.mp member
            · have inHead := ih List.mem_cons_self
              rw [List.mem_cons, not_or]
              exact ⟨fun same => different (by simp [same]), inHead⟩
            · exact ih (List.mem_cons_of_mem _ later)

theorem allSingle_pieces (text : String) : AllSingle (pieces text) := by
  intro piece member
  obtain ⟨characters, inside, rfl⟩ := List.mem_map.mp member
  rw [singleLine_ofList]
  exact mark_not_mem_piece (List.mem_of_mem_filter inside)

theorem pieces_lines {lines : List String} (single : AllSingle lines) (filled : "" ∉ lines) :
    pieces ("\n".intercalate lines) = lines := by
  induction lines with
  | nil => exact pieces_empty
  | cons first rest ih =>
      rw [allSingle_cons] at single
      rw [List.mem_cons, not_or] at filled
      have own := pieces_of_singleLine single.1 (Ne.symm filled.1)
      cases rest with
      | nil =>
          rw [String.intercalate_singleton]
          exact own
      | cons second others =>
          rw [String.intercalate_cons_cons, pieces_append, own, ih single.2 filled.2]
          rfl

/-- The blank line between two groups leaves no piece. -/
theorem pieces_groups (groups : List String) :
    pieces ("\n\n".intercalate groups) = groups.flatMap pieces := by
  induction groups with
  | nil => exact pieces_empty
  | cons first rest ih =>
      cases rest with
      | nil => rw [String.intercalate_singleton, List.flatMap_singleton]
      | cons second others =>
          have blank : "\n\n" = "\n" ++ "" ++ "\n" := by decide
          rw [String.intercalate_cons_cons, List.flatMap_cons, ← ih, blank,
            ← String.append_assoc, ← String.append_assoc, pieces_append, pieces_append,
            pieces_empty, List.append_nil]

end Text

namespace Swift

open Text (SingleLine AllSingle)

theorem Statement.write_ne_empty (scope : Scope) (statement : Statement) :
    statement.write scope ≠ "" := by
  cases statement <;> simp [write]

theorem singleLine_indent (options : Options) : SingleLine options.indent := by
  rw [Options.indent, Text.singleLine_ofList]
  intro fed
  exact absurd (List.eq_of_mem_replicate fed) (by decide)

/-- Lines can be read back off a source text exactly if each of them is a single line. -/
theorem Code.pieces_source {code : Code} (filled : "" ∉ code.lines) :
    Text.pieces code.source = code.lines ↔ AllSingle code.lines := by
  constructor
  · intro same
    rw [← same]
    exact Text.allSingle_pieces code.source
  · intro single
    have grouped : ∀ group ∈ [code.configuration, code.subviews, code.constraints],
        Text.pieces ("\n".intercalate group) = group := by
      intro group listed
      have inside : group ⊆ code.lines := by
        intro line member
        have all := List.mem_flatten_of_mem listed member
        simpa [Code.lines, or_assoc] using all
      exact Text.pieces_lines (fun line member => single line (inside member))
        fun member => filled (inside member)
    -- The source leaves empty groups out, which have no lines to lose.
    rw [Code.source, Text.pieces_groups, List.flatMap_map,
      List.flatMap_congr fun group member => grouped group (List.mem_of_mem_filter member),
      List.flatMap_id', List.flatten_filter_ne_nil]
    simp [Code.lines]

section

variable {document : Document} {options : Options}

theorem code_lines_filled : "" ∉ (Code.ofDocument document options).lines := by
  rw [ofDocument_lines]
  intro member
  obtain ⟨line, _, empty⟩ := List.mem_map.mp member
  have split := String.append_eq_empty_iff.mp empty
  exact line.statement.write_ne_empty _ split.2

theorem finalScope_singleNames (document : Document) (owner : SingleLine options.ownerName) :
    (finalScope document options).SingleNames where
  owner := by
    rw [finalScope_ownerName]
    exact owner
  object := by
    intro index
    rw [finalScope_nameOf]
    exact singleLine_nameOf document owner index

theorem passLines_carry {scope : Scope} {yield : Nat → Object → Yield} {index : Nat}
    {object : Object} {texts : List String} (found : scope.document.object? index = some object)
    (declared : scope.isExcluded index = false)
    (carries : Carries scope (yield index object).statements texts) :
    (∀ line ∈ passLines scope yield, line.owner = index →
      SingleLine (line.statement.write scope)) ↔ AllSingle texts := by
  unfold Carries at carries
  rw [← carries, AllSingle, List.forall_mem_map]
  constructor
  · intro each statement written
    exact each ⟨index, statement⟩ (mem_passLines.mpr ⟨object, found, declared, written⟩) rfl
  · rintro each line member rfl
    obtain ⟨other, same, _, written⟩ := mem_passLines.mp member
    cases found.symm.trans same
    exact each line.statement written

theorem configurationYield_carries {index : Nat} {object : Object}
    (owner : SingleLine options.ownerName) (found : document.object? index = some object)
    (declared : (finalScope document options).isExcluded index = false) :
    Carries (finalScope document options)
      (configurationYield (finalScope document options) index object).statements
      (configurationTexts (finalScope document options) object) := by
  obtain ⟨_, statements, configured⟩ := (declared_iff found).mp declared
  rw [configurationYield, configured]
  exact configuration_carries (finalScope_singleNames document owner) configured

/-- All lines of a declared object are single lines exactly if the texts it hands over are. -/
theorem object_lines_single_iff {index : Nat} {object : Object}
    (owner : SingleLine options.ownerName) (found : document.object? index = some object)
    (declared : (finalScope document options).isExcluded index = false) :
    (∀ line ∈ (Plan.ofDocument document options).lines, line.owner = index →
      SingleLine (line.statement.write (finalScope document options))) ↔
      AllSingle (verbatim (finalScope document options) index object) := by
  have names := finalScope_singleNames document owner
  have known : (finalScope document options).document.object? index = some object := by
    rw [finalScope_document]
    exact found
  rw [Plan.lines, List.forall_mem_append, List.forall_mem_append, configuration_eq_passLines,
    subviews_eq_passLines, constraints_eq_passLines,
    passLines_carry known declared (configurationYield_carries owner found declared),
    passLines_carry known declared (subviews_carries names),
    passLines_carry known declared (constraints_carries names)]
  rw [verbatim, Text.allSingle_append, Text.allSingle_append]

theorem indented_lines_single_iff :
    AllSingle (Code.ofDocument document options).lines ↔
      ∀ line ∈ (Plan.ofDocument document options).lines,
        SingleLine (line.statement.write (finalScope document options)) := by
  rw [ofDocument_lines, AllSingle, List.forall_mem_map]
  simp only [Code.indented, Text.singleLine_append, singleLine_indent, true_and]

end

/-- The lines of an object are single lines exactly if the texts it hands over verbatim are. So all
lines are if and only if these texts are for every declared object, and only then can the lines be
read back off the source text. -/
theorem lines_single_iff_verbatim_single (document : Document) (options : Options)
    (owner : SingleLine options.ownerName) :
    let scope := (settled document options).1
    let plan := Plan.ofDocument document options
    let code := Code.ofDocument document options
    code.lines = plan.lines.map (fun line =>
      Code.indented options.indent (line.statement.write scope)) ∧
    (∀ index object, document.object? index = some object → scope.isExcluded index = false →
      ((∀ line ∈ plan.lines, line.owner = index → SingleLine (line.statement.write scope)) ↔
        AllSingle (verbatim scope index object))) ∧
    (AllSingle code.lines ↔
      ∀ index object, document.object? index = some object → scope.isExcluded index = false →
        AllSingle (verbatim scope index object)) ∧
    (Text.pieces code.source = code.lines ↔ AllSingle code.lines) := by
  intro scope plan code
  refine ⟨ofDocument_lines document options, ?_, ?_, Code.pieces_source code_lines_filled⟩
  · intro index object found declared
    exact object_lines_single_iff owner found declared
  · rw [indented_lines_single_iff]
    constructor
    · intro single index object found declared
      rw [← object_lines_single_iff owner found declared]
      exact fun line member _ => single line member
    · intro handed line member
      obtain ⟨object, found, declared, _⟩ := mem_lines member
      have own := handed line.owner object found declared
      exact (object_lines_single_iff owner found declared).mpr own line member rfl

def brokenSource : String :=
  "<view customClass='Card&#10;'/>"

theorem exists_broken :
    ∃ document object, Document.ofText .cocoaTouch brokenSource = .ok document ∧
      document.object? 0 = some object ∧
      (settled document .standard).1.isExcluded 0 = false ∧
      verbatim (settled document .standard).1 0 object = ["Card\n"] ∧
      (Code.ofDocument document .standard).lines = ["let view = Card\n()"] := by
  have facts : (Document.ofText .cocoaTouch brokenSource).toOption.map (fun document =>
      ((document.object? 0).map (verbatim (settled document .standard).1 0),
        (settled document .standard).1.isExcluded 0,
        (Code.ofDocument document .standard).lines)) =
      some (some ["Card\n"], false, ["let view = Card\n()"]) := by
    decide +kernel
  cases built : Document.ofText .cocoaTouch brokenSource with
  | error reason =>
      rw [built] at facts
      cases facts
  | ok document =>
      rw [built] at facts
      simp only [Except.toOption, Option.map_some, Option.some.injEq, Prod.mk.injEq,
        Option.map_eq_some_iff] at facts
      obtain ⟨⟨object, found, handed⟩, declared, lines⟩ := facts
      exact ⟨document, object, rfl, found, declared, handed, lines⟩

theorem card_breaks_declaration :
    ∃ document, Document.ofText .cocoaTouch brokenSource = .ok document ∧
      SingleLine Options.standard.ownerName ∧
      Text.pieces (Code.ofDocument document .standard).source ≠
        (Code.ofDocument document .standard).lines := by
  obtain ⟨document, object, built, found, declared, handed, _⟩ := exists_broken
  have owner : SingleLine Options.standard.ownerName := by decide
  obtain ⟨_, _, all, readable⟩ := lines_single_iff_verbatim_single document .standard owner
  refine ⟨document, built, owner, ?_⟩
  intro same
  have single := all.mp (readable.mp same) 0 object found declared
  rw [handed, Text.allSingle_cons] at single
  exact absurd single.1 (by decide)

/-- Not every document that can be built is written with one statement on each line. -/
theorem class_name_breaks_line :
    ¬∀ registry source document, Document.ofText registry source = .ok document →
      ∀ options : Options, SingleLine options.ownerName →
        AllSingle (Code.ofDocument document options).lines := by
  intro single
  obtain ⟨document, _, built, _, _, _, lines⟩ := exists_broken
  have broken := single .cocoaTouch brokenSource document built .standard (by decide)
  rw [lines, Text.allSingle_cons] at broken
  exact absurd broken.1 (by decide)

end Swift

end Xib
