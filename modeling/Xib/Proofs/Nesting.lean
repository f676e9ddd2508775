import Mathlib.Tactic.SplitIfs
import Xib.Xml.Assembly

/-!
# What events describe

What a sequence of events describes is said here without a stack: which events stand on one level
(`level`), what is written there (`written`), and what each opening event accounts for
(`accounts`). `Content` is the grammar of well nested events, with the text and the elements that a
stretch of them stands for. Main statements: balanced events are well nested (`exists_content`),
and the elements of a well nested stretch are in preorder what its events account for
(`Content.accounts_append`).
-/

namespace Xib.Xml

set_option autoImplicit false

abbrev Head :=
  String × Table String

namespace Event

def opening? : Event → Option Head
  | .start name attributes | .empty name attributes => some (name, attributes)
  | _ => none

/-- The characters that an event adds where it stands. Tags add none, and neither does a reference
that stands for nothing. -/
def characters? : Event → Option String
  | .text content | .data content => some content
  | .reference name => (Reference.inText? name.toList).map String.singleton
  | .ignorable => some ""
  | .start _ _ | .empty _ _ | .close _ => none

/-- Only a reference can fail to resolve. -/
def resolves : Event → Bool
  | .reference name => (Reference.inText? name.toList).isSome
  | _ => true

end Event

/-- Every closing tag has an opening one before it, and no tag is left open; so many are open
already. -/
def balanced : (depth : Nat) → List Event → Bool
  | depth, [] => depth = 0
  | depth, .start _ _ :: rest => balanced (depth + 1) rest
  | 0, .close _ :: _ => false
  | depth + 1, .close _ :: rest => balanced depth rest
  | depth, _ :: rest => balanced depth rest

/-- Every closing tag names the innermost open one. -/
def namesMatch : (opened : List String) → List Event → Bool
  | _, [] => true
  | opened, .start name _ :: rest => namesMatch (name :: opened) rest
  | [], .close _ :: _ => false
  | expected :: opened, .close found :: rest => expected = found && namesMatch opened rest
  | opened, _ :: rest => namesMatch opened rest

/-- The events of one level, up to the closing tag that ends it: of an element on this level only
the opening event. The depth is that of elements to be passed over first. -/
def level : (depth : Nat) → List Event → List Event
  | _, [] => []
  | 0, .start name attributes :: rest => .start name attributes :: level 1 rest
  | depth + 1, .start _ _ :: rest => level (depth + 2) rest
  | 0, .close _ :: _ => []
  | depth + 1, .close _ :: rest => level depth rest
  | 0, event :: rest => event :: level 0 rest
  | depth + 1, _ :: rest => level (depth + 1) rest

def written (events : List Event) : String :=
  String.join (events.filterMap Event.characters?)

structure Account where
  head : Head
  text : String
  children : List Head

/-- The account of an element, given the events directly inside it: its text is what is written
there, or nothing if that is blank and there are children. -/
def Account.ofContent (head : Head) (content : List Event) : Account :=
  let children := content.filterMap Event.opening?
  let text := written content
  ⟨head, if Text.isBlank text && !children.isEmpty then "" else text, children⟩

/-- The accounts of all elements, in the order in which they open. -/
def accounts : List Event → List Account
  | [] => []
  | .start name attributes :: rest => .ofContent (name, attributes) (level 0 rest) :: accounts rest
  | .empty name attributes :: rest => .ofContent (name, attributes) [] :: accounts rest
  | _ :: rest => accounts rest

/-- The events describe one element and nothing beside it. -/
structure Whole (events : List Event) : Prop where
  balanced : balanced 0 events = true
  single : ((level 0 events).filterMap Event.opening?).length = 1
  resolved : ∀ event ∈ events, event.resolves = true
  blank : Text.isBlank (written (level 0 events)) = true

namespace Element

def head (element : Element) : Head :=
  (element.name, element.attributes)

def account (element : Element) : Account :=
  ⟨element.head, element.text, element.children.map head⟩

mutual

def preorder : Element → List Element
  | ⟨name, attributes, text, children⟩ => ⟨name, attributes, text, children⟩ :: preorderAll children

def preorderAll : List Element → List Element
  | [] => []
  | element :: rest => preorder element ++ preorderAll rest

end

theorem preorder_eq (element : Element) :
    element.preorder = element :: preorderAll element.children := by
  cases element
  rfl

@[simp] theorem children_settle (element : Element) :
    (Assembly.settle element).children = element.children := by
  unfold Assembly.settle
  split_ifs <;> rfl

@[simp] theorem head_settle (element : Element) :
    (Assembly.settle element).head = element.head := by
  unfold Assembly.settle
  split_ifs <;> rfl

theorem account_settle (element : Element) :
    (Assembly.settle element).account =
      ⟨element.head,
        if Text.isBlank element.text && !element.children.isEmpty then "" else element.text,
        element.children.map head⟩ := by
  rw [account, head_settle, children_settle]
  unfold Assembly.settle
  split_ifs <;> simp_all

end Element

/-! ## The grammar of well nested events -/

/-- A well nested stretch of events, the text directly in it and the elements directly in it. -/
inductive Content : List Event → String → List Element → Prop
  | nil : Content [] "" []
  | characters {event : Event} {rest : List Event} {text more : String} {children : List Element}
      (adds : event.characters? = some text) (later : Content rest more children) :
      Content (event :: rest) (text ++ more) children
  | empty (name : String) (attributes : Table String) {rest : List Event} {text : String}
      {children : List Element} (later : Content rest text children) :
      Content (.empty name attributes :: rest) text (⟨name, attributes, "", []⟩ :: children)
  | nested (name : String) (attributes : Table String) (closing : String)
      {inner rest : List Event} {own text : String} {grandchildren children : List Element}
      (inside : Content inner own grandchildren) (later : Content rest text children) :
      Content (.start name attributes :: (inner ++ .close closing :: rest)) text
        (Assembly.settle ⟨name, attributes, own, grandchildren⟩ :: children)

/-- Well nested events up to the end, with closing tags between them for all that is open. -/
inductive Tail : Nat → List Event → Prop
  | last {events : List Event} {text : String} {children : List Element}
      (content : Content events text children) : Tail 0 events
  | closing {inner rest : List Event} {text : String} {children : List Element} {depth : Nat}
      (name : String) (content : Content inner text children) (later : Tail depth rest) :
      Tail (depth + 1) (inner ++ .close name :: rest)

namespace Tail

variable {depth : Nat} {rest : List Event}

theorem characters {event : Event} {text : String} (adds : event.characters? = some text)
    (tail : Tail depth rest) : Tail depth (event :: rest) := by
  cases tail with
  | last content => exact .last (.characters adds content)
  | closing name content later => exact .closing name (.characters adds content) later

theorem empty (name : String) (attributes : Table String) (tail : Tail depth rest) :
    Tail depth (.empty name attributes :: rest) := by
  cases tail with
  | last content => exact .last (.empty name attributes content)
  | closing closing content later => exact .closing closing (.empty name attributes content) later

/-- An element that opens here takes the first closing tag for itself. -/
theorem start (name : String) (attributes : Table String) (tail : Tail (depth + 1) rest) :
    Tail depth (.start name attributes :: rest) := by
  cases tail with
  | closing closing inside later =>
      cases later with
      | last content => exact .last (.nested name attributes closing inside content)
      | closing outer content later =>
          have whole := Tail.closing outer (.nested name attributes closing inside content) later
          simpa using whole

end Tail

theorem tail_of_balanced {depth : Nat} {events : List Event}
    (nested : balanced depth events = true) (resolved : ∀ event ∈ events, event.resolves = true) :
    Tail depth events := by
  induction events generalizing depth with
  | nil =>
      obtain rfl : depth = 0 := by simpa [balanced] using nested
      exact .last .nil
  | cons event rest ih =>
      obtain ⟨here, later⟩ := List.forall_mem_cons.mp resolved
      cases event with
      | start name attributes => exact .start name attributes (ih nested later)
      | empty name attributes => exact .empty name attributes (ih nested later)
      | close name =>
          cases depth with
          | zero => simp [balanced] at nested
          | succ depth => exact .closing name .nil (ih nested later)
      | text text => exact .characters rfl (ih nested later)
      | data text => exact .characters rfl (ih nested later)
      | reference name =>
          obtain ⟨character, stands⟩ := Option.isSome_iff_exists.mp here
          have adds : (Event.reference name).characters? = some (String.singleton character) := by
            simp [Event.characters?, stands]
          exact .characters adds (ih nested later)
      | ignorable => exact .characters rfl (ih nested later)

/-! ## What a well nested stretch accounts for -/

section Levels

variable {event : Event} {text : String}

theorem level_characters (adds : event.characters? = some text) (rest : List Event) :
    level 0 (event :: rest) = event :: level 0 rest := by
  cases event <;> first | rfl | cases adds

theorem level_succ_characters (adds : event.characters? = some text) (depth : Nat)
    (rest : List Event) : level (depth + 1) (event :: rest) = level (depth + 1) rest := by
  cases event <;> first | rfl | cases adds

theorem opening?_of_characters? (adds : event.characters? = some text) :
    event.opening? = none := by
  cases event <;> first | rfl | cases adds

theorem accounts_characters (adds : event.characters? = some text) (rest : List Event) :
    accounts (event :: rest) = accounts rest := by
  cases event <;> first | rfl | cases adds

@[simp] theorem written_nil : written [] = "" := by
  rfl

theorem written_characters (adds : event.characters? = some text) (rest : List Event) :
    written (event :: rest) = text ++ written rest := by
  simp [written, adds, String.join_cons]

theorem written_tag (silent : event.characters? = none) (rest : List Event) :
    written (event :: rest) = written rest := by
  simp [written, silent]

end Levels

theorem head_accounts (events : List Event) :
    (accounts events).map Account.head = events.filterMap Event.opening? := by
  induction events with
  | nil => rfl
  | cons event rest ih =>
      cases event with
      | start name attributes => exact congrArg ((name, attributes) :: ·) ih
      | empty name attributes => exact congrArg ((name, attributes) :: ·) ih
      | close | text | data | reference | ignorable => exact ih

namespace Content

variable {events : List Event} {text : String} {children : List Element}

/-- Inside an element that is passed over, a well nested stretch is passed over too. -/
theorem level_succ (content : Content events text children) (depth : Nat) (rest : List Event) :
    level (depth + 1) (events ++ rest) = level (depth + 1) rest := by
  induction content generalizing depth rest with
  | nil => rfl
  | characters adds _ ih =>
      rw [List.cons_append, level_succ_characters adds]
      exact ih depth rest
  | empty name attributes _ ih => exact ih depth rest
  | nested name attributes closing _ _ inside later =>
      rw [List.cons_append, List.append_assoc, level, inside (depth + 1)]
      exact later depth rest

theorem written_level (content : Content events text children) (rest : List Event)
    (ends : level 0 rest = []) : written (level 0 (events ++ rest)) = text := by
  induction content with
  | nil => rw [List.nil_append, ends, written_nil]
  | characters adds _ ih =>
      rw [List.cons_append, level_characters adds, written_characters adds, ih]
  | empty name attributes _ ih => exact ih
  | nested name attributes closing inside _ _ ih =>
      rw [List.cons_append, List.append_assoc, level, inside.level_succ, written_tag rfl]
      exact ih

theorem openings_level (content : Content events text children) (rest : List Event)
    (ends : level 0 rest = []) :
    (level 0 (events ++ rest)).filterMap Event.opening? = children.map Element.head := by
  induction content with
  | nil =>
      rw [List.nil_append, ends]
      rfl
  | characters adds _ ih =>
      rw [List.cons_append, level_characters adds,
        List.filterMap_cons_none (opening?_of_characters? adds), ih]
  | empty name attributes _ ih => exact congrArg ((name, attributes) :: ·) ih
  | nested name attributes closing inside _ _ ih =>
      rw [List.cons_append, List.append_assoc, level, inside.level_succ, List.map_cons,
        Element.head_settle]
      exact congrArg ((name, attributes) :: ·) ih

/-- The elements of a well nested stretch, in preorder, are what its opening events account for. -/
theorem accounts_append (content : Content events text children) (rest : List Event)
    (ends : level 0 rest = []) :
    accounts (events ++ rest) =
      (Element.preorderAll children).map Element.account ++ accounts rest := by
  induction content generalizing rest with
  | nil => rfl
  | characters adds _ ih => rw [List.cons_append, accounts_characters adds, ih rest ends]
  | empty name attributes _ ih =>
      exact congrArg (Account.mk (name, attributes) "" [] :: ·) (ih rest ends)
  | @nested name attributes closing inner later own text grandchildren children inside _ first
      second =>
      -- The closing tag ends the level of what stands inside, so nothing after it is counted there.
      have account : Account.ofContent (name, attributes)
          (level 0 (inner ++ .close closing :: (later ++ rest))) =
          (Assembly.settle ⟨name, attributes, own, grandchildren⟩).account := by
        rw [Account.ofContent, inside.written_level _ rfl, inside.openings_level _ rfl,
          Element.account_settle]
        simp [Element.head]
      rw [List.cons_append, List.append_assoc, List.cons_append, accounts, account, first _ rfl,
        Element.preorderAll, Element.preorder_eq, Element.children_settle]
      simp [accounts, second rest ends]

end Content

/-- Balanced events whose references resolve are well nested, and what stands on their outermost
level is what the grammar says. -/
theorem exists_content {events : List Event} (nested : balanced 0 events = true)
    (resolved : ∀ event ∈ events, event.resolves = true) :
    ∃ text children, Content events text children ∧ written (level 0 events) = text ∧
      (level 0 events).filterMap Event.opening? = children.map Element.head := by
  cases tail_of_balanced nested resolved with
  | @last _ text children content =>
      have text := content.written_level [] rfl
      have openings := content.openings_level [] rfl
      rw [List.append_nil] at text openings
      exact ⟨_, _, content, text, openings⟩

end Xib.Xml
