import Xib.Text.Utf8
import Xib.Xml.Assembly

/-!
# Errors and warnings

Build errors are fatal. Generation errors concern one object or one constraint, which is then left
out with a warning. Every wording stands in this module or beside the cause it belongs to.
-/

namespace Xib

set_option autoImplicit false

inductive BuildError where
  | encoding (fault : Text.Utf8.Fault)
  | markup (fault : Xml.Fault)
  | duplicateIdentifier (identifier : String)
  | unsupportedTag (tag : String) (identifier : Option String)
  deriving Repr, DecidableEq

namespace BuildError

def malformed (detail : String) : String :=
  "Malformed document: " ++ detail

def message : BuildError → String
  | .encoding fault => malformed fault.message
  | .markup fault => malformed fault.message
  | .duplicateIdentifier identifier => malformed s!"duplicate identifier '{identifier}'"
  | .unsupportedTag tag none => s!"Unsupported tag <{tag}>"
  | .unsupportedTag tag (some identifier) => s!"Unsupported tag <{tag}> (id {identifier})"

def offset? : BuildError → Option Nat
  | .encoding fault => some fault.index
  | .markup fault => fault.offset?
  | .duplicateIdentifier _ | .unsupportedTag .. => none

end BuildError

inductive GenerationError where
  | danglingReference (identifier : String)
  | missingAttribute (tag name : String)
  | invalidValue (name value : String)
  | undeclaredReference (name : String)
  deriving Repr, DecidableEq

def GenerationError.message : GenerationError → String
  | .danglingReference identifier => s!"Dangling reference to identifier '{identifier}'"
  | .missingAttribute tag name => s!"Missing attribute '{name}' on <{tag}>"
  | .invalidValue name value => s!"Invalid value '{value}' for '{name}'"
  | .undeclaredReference name => s!"Reference to '{name}', which produced no declaration"

inductive Warning where
  /-- Markup without a generated form. -/
  | unsupported (object feature : String)
  /-- Something left out because no code could be written for it. -/
  | skipped (object : String) (reason : GenerationError)
  deriving Repr, DecidableEq

def Warning.message : Warning → String
  | .unsupported object feature => s!"Unsupported feature <{feature}> on {object}"
  | .skipped object reason => s!"Skipped {object}: {reason.message}"

end Xib
