import Xib.Proofs.Lines

/-!
# Indentation

A run settles names, skips and plans before it writes anything, and reads no more of its options
for that than the owner name. Indentation enters with the last step alone, once for every line, so
it adds up over levels. Main statement: it is a row of blanks in front of every line and changes
nothing else (`indentation_only_prefixes`).
-/

namespace Xib.Swift

set_option autoImplicit false

namespace Options

def atLevel (options : Options) (level : Nat) : Options :=
  { options with indentation := level }

theorem indent_add (options : Options) (outer inner : Nat) :
    (options.atLevel (outer + inner)).indent =
      (options.atLevel outer).indent ++ (options.atLevel inner).indent := by
  simp only [indent, atLevel, Nat.add_mul, ← List.replicate_append_replicate]
  exact String.ofList_append

theorem indent_zero (options : Options) : (options.atLevel 0).indent = "" := by
  simp [indent, atLevel]

end Options

/-- What is settled before anything is written does not depend on the level. -/
theorem settled_atLevel (document : Document) (options : Options) (level : Nat) :
    settled document (options.atLevel level) = settled document options := by
  have start : Scope.initial document (options.atLevel level) = Scope.initial document options :=
    rfl
  rw [settled, settled, start]

theorem plan_atLevel (document : Document) (options : Options) (level : Nat) :
    Plan.ofDocument document (options.atLevel level) = Plan.ofDocument document options := by
  rw [Plan.ofDocument, Plan.ofDocument, settled_atLevel]

namespace Code

def behind (front : String) (code : Code) : Code where
  configuration := code.configuration.map (front ++ ·)
  subviews := code.subviews.map (front ++ ·)
  constraints := code.constraints.map (front ++ ·)
  warnings := code.warnings

theorem ofPlan_behind (front indent : String) (scope : Scope) (plan : Plan) :
    ofPlan (front ++ indent) scope plan = (ofPlan indent scope plan).behind front := by
  have each : (fun line : Line => indented (front ++ indent) (line.statement.write scope)) =
      (front ++ ·) ∘ fun line => indented indent (line.statement.write scope) := by
    funext line
    exact String.append_assoc
  simp only [ofPlan, behind, List.map_map, each]

/-- Code that is written some levels deeper stands behind the blanks of these levels. -/
theorem ofDocument_deeper (document : Document) (options : Options) (outer inner : Nat) :
    ofDocument document (options.atLevel (outer + inner)) =
      (ofDocument document (options.atLevel inner)).behind (options.atLevel outer).indent := by
  simp only [ofDocument_eq_ofPlan, finalScope, settled_atLevel, plan_atLevel]
  rw [Options.indent_add, ofPlan_behind]

end Code

/-- Indentation puts its blanks in front of every line and changes nothing else: not which lines
there are, not what they say, not the warnings. Without it, a line is a bare statement. -/
theorem indentation_only_prefixes (document : Document) (options : Options) :
    let code := Code.ofDocument document options
    let flush := Code.ofDocument document { options with indentation := 0 }
    let blanks := String.ofList (List.replicate (options.indentation * options.indentWidth) ' ')
    code.configuration = flush.configuration.map (blanks ++ ·) ∧
    code.subviews = flush.subviews.map (blanks ++ ·) ∧
    code.constraints = flush.constraints.map (blanks ++ ·) ∧
    code.warnings = flush.warnings ∧
    flush.lines = (Plan.ofDocument document options).lines.map fun line =>
      line.statement.write (finalScope document options) := by
  intro code flush blanks
  have deeper : code = flush.behind blanks :=
    Code.ofDocument_deeper document options options.indentation 0
  refine ⟨?_, ?_, ?_, ?_, ?_⟩
  · rw [deeper, Code.behind]
  · rw [deeper, Code.behind]
  · rw [deeper, Code.behind]
  · rw [deeper, Code.behind]
  · have bare : flush.lines = (Plan.ofDocument document (options.atLevel 0)).lines.map fun line =>
        Code.indented (options.atLevel 0).indent
          (line.statement.write (finalScope document (options.atLevel 0))) :=
      ofDocument_lines document (options.atLevel 0)
    rw [bare, plan_atLevel, Options.indent_zero]
    simp only [Code.indented, String.empty_append, finalScope, settled_atLevel]

end Xib.Swift
