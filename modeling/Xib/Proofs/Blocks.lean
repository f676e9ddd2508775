import Mathlib.Logic.Relation
import Xib.Proofs.Build
import Xib.Proofs.Lines

/-!
# Configuration in blocks

The configuration is a sequence of blocks, one for each declared object, last discovered first. A
block starts with the declaration of its variable, and its other lines start with the name of the
variable. What an object contains was discovered after it, so its block comes first.
-/

namespace Xib

set_option autoImplicit false

namespace Document

def Holds (document : Document) (holder index : Nat) : Prop :=
  ∃ object, document.object? holder = some object ∧ index ∈ object.owned

theorem lt_of_holds {registry : Registry} {source : String} {document : Document}
    {top index : Nat} (built : ofText registry source = .ok document)
    (held : Relation.TransGen document.Holds top index) : top < index := by
  obtain ⟨root, _, made⟩ := ofText_ok built
  obtain ⟨forest, _⟩ := ofElement_forest made
  have direct : ∀ {holder position}, document.Holds holder position → holder < position := by
    intro holder position ⟨object, found, owned⟩
    exact (forest.owned_bounded (object?_eq_some_iff.mp found) position owned).1
  induction held with
  | single held => exact direct held
  | tail _ held ih => exact Nat.lt_trans ih (direct held)

end Document

namespace Swift

/-- Lines that declare a variable and otherwise start with its name. -/
def IsBlock (indent name className : String) (lines : List String) : Prop :=
  ∃ arguments rest,
    lines = (indent ++ "let " ++ name ++ " = " ++ className ++ "(" ++ arguments ++ ")") :: rest ∧
    ∀ line ∈ rest, ∃ statement, line = indent ++ name ++ "." ++ statement

section Position

/-- How many lines stand above the block of an object. -/
def linesAbove (order : List Nat) (block : Nat → List String) (index : Nat) : Nat :=
  ((order.takeWhile (· ≠ index)).flatMap block).length

variable {order : List Nat} {block : Nat → List String} {head index : Nat}

theorem linesAbove_head : linesAbove (index :: order) block index = 0 := by
  simp [linesAbove]

theorem linesAbove_cons (different : head ≠ index) :
    linesAbove (head :: order) block index =
      (block head).length + linesAbove order block index := by
  simp [linesAbove, different]

theorem getElem?_linesAbove (filled : block index ≠ []) (member : index ∈ order) :
    (order.flatMap block)[linesAbove order block index]? = (block index).head? := by
  induction order with
  | nil => exact absurd member List.not_mem_nil
  | cons head rest ih =>
      rw [List.flatMap_cons]
      by_cases same : head = index
      · subst same
        rw [linesAbove_head, List.getElem?_append_left (List.length_pos_iff.mpr filled),
          List.head?_eq_getElem?]
      · have later : index ∈ rest := List.mem_of_ne_of_mem (Ne.symm same) member
        rw [linesAbove_cons same, List.getElem?_append_right (Nat.le_add_right _ _),
          Nat.add_sub_cancel_left]
        exact ih later

theorem linesAbove_lt {other : Nat} (decreasing : order.Pairwise (· > ·))
    (filled : ∀ position ∈ order, block position ≠ []) (member : index ∈ order)
    (otherMember : other ∈ order) (earlier : other < index) :
    linesAbove order block index < linesAbove order block other := by
  induction order with
  | nil => exact absurd member List.not_mem_nil
  | cons head rest ih =>
      obtain ⟨below, decreasingRest⟩ := List.pairwise_cons.mp decreasing
      by_cases same : head = index
      -- Nothing is above the first block, and it has a line that is above all others.
      · subst same
        have positive := List.length_pos_iff.mpr (filled head List.mem_cons_self)
        rw [linesAbove_head, linesAbove_cons (Nat.ne_of_gt earlier)]
        omega
      · have later : index ∈ rest := List.mem_of_ne_of_mem (Ne.symm same) member
        have higher := below index later
        have otherDifferent : head ≠ other := by omega
        have otherLater : other ∈ rest :=
          List.mem_of_ne_of_mem (Ne.symm otherDifferent) otherMember
        have shifted := ih decreasingRest
          (fun position inside => filled position (List.mem_cons_of_mem _ inside)) later otherLater
        rw [linesAbove_cons same, linesAbove_cons otherDifferent]
        omega

end Position

theorem Configures.receiver?_eq {scope : Scope} {index : Nat} {object : Object}
    {statement : Statement} (configures : Configures scope index object statement) :
    statement.receiver? = some index := by
  cases configures with
  | plain plain => cases plain <;> rfl
  | embedded _ _ => rfl
  | outlet _ _ _ _ _ => rfl

theorem Statement.write_eq (scope : Scope) {statement : Statement} {index : Nat}
    (received : statement.receiver? = some index) (undeclared : statement.declared? = none) :
    ∃ rest, statement.write scope = scope.nameOf index ++ "." ++ rest := by
  cases statement with
  | declare object className arguments => cases undeclared
  | assign object property value =>
      cases received
      exact ⟨property ++ " = " ++ value.write scope, by simp only [write, String.append_assoc]⟩
  | call object method arguments =>
      cases received
      exact ⟨method ++ "(" ++ arguments ++ ")", by simp only [write, String.append_assoc]⟩
  | add object method argument =>
      cases received
      exact ⟨method ++ "(" ++ scope.express argument ++ ")", by
        simp only [write, String.append_assoc]⟩
  | activate target anchor relation bound => cases received

section Blocks

variable (document : Document) (options : Options)

def configurationBlock (index : Nat) : List String :=
  let scope := finalScope document options
  (blockAt scope (configurationYield scope) index).map fun line =>
    Code.indented options.indent (line.statement.write scope)

theorem configuration_eq_blocks :
    (Code.ofDocument document options).configuration =
      (finalScope document options).declared.flatMap (configurationBlock document options) := by
  have lines : (Code.ofDocument document options).configuration =
      (Plan.ofDocument document options).configuration.map fun line =>
        Code.indented options.indent (line.statement.write (finalScope document options)) := rfl
  rw [lines, configuration_eq_passLines, passLines_eq_declared, List.map_flatMap]
  rfl

variable {document options}

theorem configurationBlock_isBlock {index : Nat} {object : Object}
    (found : document.object? index = some object)
    (declared : (finalScope document options).isExcluded index = false) :
    IsBlock options.indent ((finalScope document options).nameOf index) object.className
      (configurationBlock document options index) := by
  obtain ⟨rest, block, configures⟩ := configuration_block found declared
  refine ⟨initializer object, rest.map fun line =>
    Code.indented options.indent (line.statement.write (finalScope document options)), ?_, ?_⟩
  · rw [configurationBlock, block, List.map_cons]
    simp only [declaration, Statement.write, Code.indented, String.append_assoc]
  · intro line member
    obtain ⟨written, inside, rfl⟩ := List.mem_map.mp member
    have configured := (configures written inside).2
    obtain ⟨statement, write⟩ := Statement.write_eq (finalScope document options)
      configured.receiver?_eq configured.declared?_eq_none
    exact ⟨statement, by simp only [Code.indented, write, String.append_assoc]⟩

theorem IsBlock.ne_nil {indent name className : String} {lines : List String}
    (block : IsBlock indent name className lines) : lines ≠ [] := by
  obtain ⟨_, _, rfl, _⟩ := block
  exact List.cons_ne_nil _ _

end Blocks

/-- The configuration consists of one block for each declared object, in the order opposite to
discovery. In a document built from any text, what an object contains, at any depth, is declared
on an earlier line than the object. -/
theorem configuration_in_blocks (document : Document) (options : Options) :
    let scope := (settled document options).1
    let configuration := (Code.ofDocument document options).configuration
    ∃ block : Nat → List String,
      configuration = scope.declared.flatMap block ∧
      scope.declared.Pairwise (· > ·) ∧
      (∀ index, index ∈ scope.declared ↔ scope.isExcluded index = false) ∧
      (∀ index ∈ scope.declared, ∃ object, document.object? index = some object ∧
        IsBlock options.indent (scope.nameOf index) object.className (block index) ∧
        configuration[linesAbove scope.declared block index]? = (block index).head?) ∧
      ∀ registry source, Document.ofText registry source = .ok document →
        ∀ top ∈ scope.declared, ∀ index ∈ scope.declared,
          Relation.TransGen document.Holds top index →
          linesAbove scope.declared block index < linesAbove scope.declared block top := by
  intro scope configuration
  have blocks : configuration = scope.declared.flatMap (configurationBlock document options) :=
    configuration_eq_blocks document options
  have isBlock : ∀ index ∈ scope.declared, ∃ object, document.object? index = some object ∧
      IsBlock options.indent (scope.nameOf index) object.className
        (configurationBlock document options index) := by
    intro index member
    have declared := Scope.mem_declared.mp member
    obtain ⟨object, found⟩ := exists_of_declared declared
    rw [finalScope_document] at found
    exact ⟨object, found, configurationBlock_isBlock found declared⟩
  have filled : ∀ index ∈ scope.declared, configurationBlock document options index ≠ [] := by
    intro index member
    obtain ⟨_, _, block⟩ := isBlock index member
    exact block.ne_nil
  refine ⟨configurationBlock document options, blocks, scope.declared_decreasing,
    fun index => Scope.mem_declared, ?_, ?_⟩
  · intro index member
    obtain ⟨object, found, block⟩ := isBlock index member
    refine ⟨object, found, block, ?_⟩
    rw [blocks]
    exact getElem?_linesAbove (filled index member) member
  · intro registry source built top topMember index member held
    apply linesAbove_lt scope.declared_decreasing filled member topMember
    exact Document.lt_of_holds built held

def skippedMiddleSource : String :=
  "<view><subviews><view hidden='maybe'><subviews><label text='Title'/></subviews></view>" ++
    "</subviews></view>"

theorem label_above_outer_view :
    ∃ document, Document.ofText .cocoaTouch skippedMiddleSource = .ok document ∧
      (settled document .standard).1.declared = [2, 0] ∧
      Relation.TransGen document.Holds 0 2 ∧
      ∃ block, (Code.ofDocument document .standard).configuration = block 2 ++ block 0 ∧
        linesAbove [2, 0] block 2 < linesAbove [2, 0] block 0 := by
  have facts : (Document.ofText .cocoaTouch skippedMiddleSource).toOption.map (fun document =>
      ((settled document .standard).1.declared, (document.object? 0).map Object.owned,
        (document.object? 1).map Object.owned)) = some ([2, 0], some [1], some [2]) := by
    decide +kernel
  cases built : Document.ofText .cocoaTouch skippedMiddleSource with
  | error reason =>
      rw [built] at facts
      cases facts
  | ok document =>
      rw [built] at facts
      obtain ⟨declared, outer, middle⟩ : (settled document .standard).1.declared = [2, 0] ∧
          (document.object? 0).map Object.owned = some [1] ∧
          (document.object? 1).map Object.owned = some [2] := by
        simpa [Except.toOption] using facts
      have step : ∀ {holder index}, (document.object? holder).map Object.owned = some [index] →
          document.Holds holder index := by
        intro holder index owned
        obtain ⟨object, found, own⟩ := Option.map_eq_some_iff.mp owned
        exact ⟨object, found, by simp [own]⟩
      have held : Relation.TransGen document.Holds 0 2 := .tail (.single (step outer)) (step middle)
      obtain ⟨block, blocks, _, _, _, ordered⟩ := configuration_in_blocks document .standard
      rw [declared] at blocks ordered
      refine ⟨document, rfl, declared, held, block, by simpa using blocks, ?_⟩
      exact ordered .cocoaTouch skippedMiddleSource built 0 (by simp) 2 (by simp) held

end Swift

end Xib
