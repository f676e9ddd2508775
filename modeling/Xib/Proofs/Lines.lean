import Xib.Proofs.Settling
import Xib.Swift.Code

/-!
# The lines of a plan

Every line of a plan belongs to a declared object and is its declaration or one of the statements
that the three passes can give rise to. Conversely every declared object has its block.
-/

namespace Xib.Swift

set_option autoImplicit false

def Statement.declared? : Statement → Option Nat
  | .declare object _ _ => some object
  | _ => none

def Plan.lines (plan : Plan) : List Line :=
  plan.configuration ++ plan.subviews ++ plan.constraints

def declaration (index : Nat) (object : Object) : Line :=
  ⟨index, .declare index object.className (initializer object)⟩

section

variable (document : Document) (options : Options)

theorem ofDocument_eq_ofPlan :
    Code.ofDocument document options =
      Code.ofPlan options.indent (finalScope document options) (Plan.ofDocument document options) :=
  rfl

theorem ofDocument_lines :
    (Code.ofDocument document options).lines =
      (Plan.ofDocument document options).lines.map fun line =>
        Code.indented options.indent (line.statement.write (finalScope document options)) := by
  rw [ofDocument_eq_ofPlan]
  simp [Code.lines, Code.ofPlan, Plan.lines]

theorem configuration_eq_passLines :
    (Plan.ofDocument document options).configuration =
      passLines (finalScope document options)
        (configurationYield (finalScope document options)) := by
  simp only [Plan.ofDocument, Plan.ofScope, pass_eq]
  rfl

theorem subviews_eq_passLines :
    (Plan.ofDocument document options).subviews =
      passLines (finalScope document options) (subviews (finalScope document options)) := by
  simp only [Plan.ofDocument, Plan.ofScope, pass_eq]
  rfl

theorem constraints_eq_passLines :
    (Plan.ofDocument document options).constraints =
      passLines (finalScope document options) (constraints (finalScope document options)) := by
  simp only [Plan.ofDocument, Plan.ofScope, pass_eq]
  rfl

variable {document options}

/-- The block of a declared object: its declaration and what configures it. -/
theorem configuration_block {index : Nat} {object : Object}
    (found : document.object? index = some object)
    (declared : (finalScope document options).isExcluded index = false) :
    ∃ rest, blockAt (finalScope document options)
        (configurationYield (finalScope document options)) index =
        declaration index object :: rest ∧
      ∀ line ∈ rest, line.owner = index ∧
        Configures (finalScope document options) index object line.statement := by
  have known : (finalScope document options).document.object? index = some object := by
    rw [finalScope_document]
    exact found
  rcases (declared_iff found).mp declared with ⟨_, statements, configured⟩
  rcases configuration_ok configured with ⟨others, rfl, configures⟩
  refine ⟨others.map (Line.mk index), ?_, ?_⟩
  · rw [blockAt, yieldAt_declared known declared, configurationYield, configured]
    rfl
  · intro line member
    rcases List.mem_map.mp member with ⟨statement, written, rfl⟩
    exact ⟨rfl, configures statement written⟩

theorem declaration_mem {index : Nat} {object : Object}
    (found : document.object? index = some object)
    (declared : (finalScope document options).isExcluded index = false) :
    declaration index object ∈ (Plan.ofDocument document options).configuration := by
  rcases configuration_block found declared with ⟨rest, block, _⟩
  have bounded := document.lt_size_of_object? found
  rw [configuration_eq_passLines, passLines, finalScope_document]
  refine List.mem_flatMap.mpr ⟨index, document.mem_generationOrder.mpr bounded, ?_⟩
  rw [block]
  exact List.mem_cons_self

theorem mem_finalScope_passLines {yield : Nat → Object → Yield} {line : Line}
    (member : line ∈ passLines (finalScope document options) yield) :
    ∃ object, document.object? line.owner = some object ∧
      (finalScope document options).isExcluded line.owner = false ∧
      line.statement ∈ (yield line.owner object).statements := by
  rcases mem_passLines.mp member with ⟨object, found, declared, written⟩
  rw [finalScope_document] at found
  exact ⟨object, found, declared, written⟩

theorem mem_configuration {line : Line}
    (member : line ∈ (Plan.ofDocument document options).configuration) :
    ∃ object, document.object? line.owner = some object ∧
      (finalScope document options).isExcluded line.owner = false ∧
      (line = declaration line.owner object ∨
        Configures (finalScope document options) line.owner object line.statement) := by
  rw [configuration_eq_passLines] at member
  rcases mem_finalScope_passLines member with ⟨object, found, declared, written⟩
  refine ⟨object, found, declared, ?_⟩
  rcases (declared_iff found).mp declared with ⟨_, statements, configured⟩
  rcases configuration_ok configured with ⟨others, rfl, configures⟩
  rw [configurationYield, configured] at written
  rcases List.mem_cons.mp written with first | later
  · exact .inl (congrArg (Line.mk line.owner) first)
  · exact .inr (configures line.statement later)

/-- A line after the configuration adds something to an object or activates a constraint. -/
theorem mem_later {line : Line}
    (member : line ∈ (Plan.ofDocument document options).subviews ++
      (Plan.ofDocument document options).constraints) :
    ∃ object, document.object? line.owner = some object ∧
      (finalScope document options).isExcluded line.owner = false ∧
      (Wires (finalScope document options) line.owner object line.statement ∨
        Activates (finalScope document options) line.owner object line.statement) := by
  rcases List.mem_append.mp member with wired | constrained
  · rw [subviews_eq_passLines] at wired
    rcases mem_finalScope_passLines wired with ⟨object, found, declared, written⟩
    exact ⟨object, found, declared, .inl (subviews_wires written)⟩
  · rw [constraints_eq_passLines] at constrained
    rcases mem_finalScope_passLines constrained with ⟨object, found, declared, written⟩
    exact ⟨object, found, declared, .inr (constraints_activates written)⟩

inductive Written (scope : Scope) (index : Nat) (object : Object) : Statement → Prop where
  | declared : Written scope index object (declaration index object).statement
  | configured {statement : Statement} (configures : Configures scope index object statement) :
      Written scope index object statement
  | wired {statement : Statement} (wires : Wires scope index object statement) :
      Written scope index object statement
  | activated {statement : Statement} (activates : Activates scope index object statement) :
      Written scope index object statement

theorem mem_lines {line : Line} (member : line ∈ (Plan.ofDocument document options).lines) :
    ∃ object, document.object? line.owner = some object ∧
      (finalScope document options).isExcluded line.owner = false ∧
      Written (finalScope document options) line.owner object line.statement := by
  rw [Plan.lines, List.append_assoc] at member
  rcases List.mem_append.mp member with configured | later
  · rcases mem_configuration configured with ⟨object, found, declared, written⟩
    refine ⟨object, found, declared, ?_⟩
    rcases written with first | configures
    · rw [first]
      exact .declared
    · exact .configured configures
  · rcases mem_later later with ⟨object, found, declared, written⟩
    refine ⟨object, found, declared, ?_⟩
    rcases written with wires | activates
    · exact .wired wires
    · exact .activated activates

section

variable {scope : Scope} {index : Nat} {object : Object} {statement : Statement}

theorem Configures.declared?_eq_none (configures : Configures scope index object statement) :
    statement.declared? = none := by
  cases configures with
  | plain plain => cases plain <;> rfl
  | embedded _ _ => rfl
  | outlet _ _ _ _ _ => rfl

theorem Wires.declared?_eq_none (wires : Wires scope index object statement) :
    statement.declared? = none := by
  cases wires <;> rfl

theorem Activates.declared?_eq_none (activates : Activates scope index object statement) :
    statement.declared? = none := by
  cases activates <;> rfl

end

/-- Only a declaration declares, and only the object that its line belongs to. -/
theorem owner_of_declared {line : Line} {index : Nat}
    (member : line ∈ (Plan.ofDocument document options).configuration)
    (declares : line.statement.declared? = some index) : line.owner = index := by
  obtain ⟨object, _, _, first | configures⟩ := mem_configuration member
  · rw [first] at declares
    exact Option.some.inj declares
  · rw [configures.declared?_eq_none] at declares
    cases declares

theorem declared?_eq_none_of_later {line : Line}
    (member : line ∈ (Plan.ofDocument document options).subviews ++
      (Plan.ofDocument document options).constraints) :
    line.statement.declared? = none := by
  rcases mem_later member with ⟨object, _, _, written⟩
  rcases written with wires | activates
  · exact wires.declared?_eq_none
  · exact activates.declared?_eq_none

end

end Xib.Swift
