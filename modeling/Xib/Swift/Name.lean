import Xib.Document
import Xib.Swift.Options
import Xib.Text.Words

/-!
# Variable names

Every object gets its name in discovery order: the camel case of its label, or of its tag if the
label leaves nothing usable. A name that is taken gets the least number from two on that makes it
free. The owner and the first responder have fixed names, which no other object gets.
-/

namespace Xib.Swift

set_option autoImplicit false

def firstResponderName : String := "firstResponder"

def keywords : List String :=
  ["Any", "Self", "as", "associatedtype", "await", "break", "case", "catch", "class", "continue",
    "default", "defer", "deinit", "do", "else", "enum", "extension", "fallthrough", "false",
    "fileprivate", "for", "func", "guard", "if", "import", "in", "init", "inout", "internal", "is",
    "let", "nil", "open", "operator", "private", "precedencegroup", "protocol", "public", "repeat",
    "rethrows", "return", "self", "static", "struct", "subscript", "super", "switch", "throw",
    "throws", "true", "try", "typealias", "var", "where", "while"]

def reserved (ownerName : String) : List String :=
  ownerName :: firstResponderName :: keywords

def identifierCharacters (text : String) : List Char :=
  text.toList.filter fun character => character.isAlphanum || character = '_'

def sanitize : List Char → String
  | [] => "object"
  | first :: rest =>
      if first.isDigit then String.ofList ('_' :: first :: rest)
      else String.ofList (first :: rest)

def baseName (object : Object) : String :=
  let fromLabel := match object.userLabel with
    | some label => identifierCharacters (Text.camel label)
    | none => []
  sanitize (if fromLabel = [] then identifierCharacters (Text.camel object.tag) else fromLabel)

/-- A free name: the base, or the base with the least free number. There is always one among as
many numbers as there are names taken, and one more. -/
def freeName (taken : List String) (base : String) : String :=
  if taken.contains base then
    let free := (List.range (taken.length + 1)).findSome? fun count =>
      let candidate := base ++ toString (count + 2)
      if taken.contains candidate then none else some candidate
    free.getD base
  else base

def fixedName? (ownerName : String) (object : Object) : Option String :=
  if object.identifier = some ownerIdentifier then some ownerName
  else if object.identifier = some firstResponderIdentifier then some firstResponderName
  else none

def assignNames (ownerName : String) : (taken : List String) → List Object → List String
  | _, [] => []
  | taken, object :: rest =>
      match fixedName? ownerName object with
      | some name => name :: assignNames ownerName taken rest
      | none =>
          let name := freeName taken (baseName object)
          name :: assignNames ownerName (name :: taken) rest

def names (document : Document) (ownerName : String) : List String :=
  assignNames ownerName (reserved ownerName) document.objects

end Xib.Swift
