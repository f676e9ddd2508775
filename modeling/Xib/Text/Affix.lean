/-!
# Starts and ends of texts
-/

namespace Xib.Text

set_option autoImplicit false

def dropStart? (start text : String) : Option String :=
  if start.toList.isPrefixOf text.toList then
    some (String.ofList (text.toList.drop start.toList.length))
  else none

def dropEnd? (ending text : String) : Option String :=
  if ending.toList.isSuffixOf text.toList then
    some (String.ofList (text.toList.take (text.toList.length - ending.toList.length)))
  else none

def dropStartTimes (start : List Char) : (count : Nat) → List Char → List Char
  | 0, text => text
  | count + 1, text =>
      if start.isPrefixOf text then dropStartTimes start count (text.drop start.length)
      else text

/-- A text without a given start, however often it is repeated there. -/
def dropStarts (start text : String) : String :=
  String.ofList (dropStartTimes start.toList text.toList.length text.toList)

end Xib.Text
