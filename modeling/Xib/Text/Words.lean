import Xib.Text.Case
import Xib.Text.Cluster

/-!
# Words of a label and camel case

A label is cut into words at `_`, `-` and blank, which disappear, and at changes of case or
between letters and digits, where nothing is lost. Camel case writes the words without gaps: the
first in lower case, every other with a capital first letter.
-/

namespace Xib.Text

set_option autoImplicit false

inductive Letter where
  | upper
  | lower
  | digit
  | separator
  | other
  deriving Repr, DecidableEq

/-- A cluster has a case only if its two case mappings differ. A separator with a mark on it is no
separator. -/
def Letter.of (cluster : List Char) : Letter :=
  let raised := Case.upperAll cluster
  let lowered := Case.lowerAll cluster
  if cluster = ['_'] || cluster = ['-'] || cluster = [' '] then .separator
  else if raised ≠ lowered && cluster = raised then .upper
  else if raised ≠ lowered && cluster = lowered then .lower
  else if cluster.all Char.isDigit then .digit
  else .other

def startsWord (previous current : Letter) (following : Option Letter) : Bool :=
  match previous, current with
  | .lower, .upper | .upper, .digit | .digit, .upper | .digit, .lower | .lower, .digit => true
  | .upper, .upper => following = some .lower
  | _, _ => false

/-- Cuts classified clusters into words, some of them possibly empty. The first component is the
word that continues from before. -/
def cutWords (previous : Option Letter) :
    List (List Char × Letter) → List Char × List (List Char)
  | [] => ([], [])
  | (cluster, letter) :: rest =>
      let (word, words) := cutWords (some letter) rest
      if letter = .separator then ([], word :: words)
      else
        let starts := match previous with
          | none => false
          | some before => startsWord before letter (rest.head?.map Prod.snd)
        if starts then ([], (cluster ++ word) :: words)
        else (cluster ++ word, words)

def words (text : List Char) : List (List Char) :=
  let letters := (Cluster.clusters text).map fun cluster => (cluster, Letter.of cluster)
  let (word, others) := cutWords none letters
  (word :: others).filter (· ≠ [])

def capitalize : List Char → List Char
  | [] => []
  | first :: rest => Case.upper first ++ Case.lowerAll rest

def camel (text : String) : String :=
  match words text.toList with
  | [] => ""
  | first :: rest => String.ofList (Case.lowerAll first ++ rest.flatMap capitalize)

end Xib.Text
