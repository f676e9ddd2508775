import Xib.Proofs.Nesting
import Xib.Proofs.RoundTrip

/-!
# The tree holds what the events say

A well nested stretch adds its text and its elements to the innermost open element, whatever else
is open (`Content.feed_inside`); outside the root it is taken only if its text is blank and it adds
the one root (`Content.feed_outside`). Every event that is taken keeps the count of what is open
(`Assembly.balanced_feed`), so what becomes a tree is well nested. Main statement:
`Element.ofEvents_conserves`.
-/

namespace Xib

set_option autoImplicit false

theorem Text.isBlank_append (first second : String) :
    isBlank (first ++ second) = (isBlank first && isBlank second) := by
  simp [isBlank]

namespace Xml

/-! ## Feeding a well nested stretch -/

theorem ok_of_bind {α β ε : Type} {first : Except ε α} {next : α → Except ε β} {result : β}
    (done : (first >>= next) = .ok result) :
    ∃ value, first = .ok value ∧ next value = .ok result := by
  cases first with
  | error reason => cases done
  | ok value => exact ⟨value, rfl, done⟩

namespace Assembly

theorem feed_cons {assembly grown : Assembly} {event : Event}
    (fed : assembly.feed event = .ok grown) (rest : List Event) :
    (event :: rest).foldlM feed assembly = rest.foldlM feed grown := by
  rw [List.foldlM_cons, fed]
  rfl

theorem feed_append {assembly grown : Assembly} {events : List Event}
    (fed : events.foldlM feed assembly = .ok grown) (rest : List Event) :
    (events ++ rest).foldlM feed assembly = rest.foldlM feed grown := by
  rw [List.foldlM_append, fed]
  rfl

theorem feed_characters {event : Event} {text : String} (adds : event.characters? = some text)
    (assembly : Assembly) : assembly.feed event = assembly.addText text := by
  cases event with
  | start name attributes => cases adds
  | empty name attributes => cases adds
  | close name => cases adds
  | text content => exact congrArg assembly.addText (Option.some.inj adds)
  | data content => exact congrArg assembly.addText (Option.some.inj adds)
  | reference name =>
      obtain ⟨character, stands, rfl⟩ := Option.map_eq_some_iff.mp adds
      simp only [feed, stands]
  | ignorable =>
      obtain rfl : "" = text := Option.some.inj adds
      obtain ⟨_ | ⟨innermost, others⟩, root⟩ := assembly
      · rfl
      · have added : addText ⟨innermost :: others, root⟩ "" =
            .ok ⟨innermost.withText "" :: others, root⟩ := rfl
        rw [added, Element.withText_empty]
        rfl

end Assembly

namespace Content

open Assembly

variable {events : List Event} {text : String} {children : List Element}

theorem feed_inside (content : Content events text children) (parent : Element)
    (others : List Element) (root : Option Element) :
    events.foldlM feed ⟨parent :: others, root⟩ =
      .ok ⟨(parent.withText text).withChildren children :: others, root⟩ := by
  induction content generalizing parent others with
  | nil =>
      rw [Element.withText_empty, Element.withChildren_nil]
      rfl
  | @characters event rest text more children adds _ ih =>
      have fed : feed ⟨parent :: others, root⟩ event =
          .ok ⟨parent.withText text :: others, root⟩ := feed_characters adds _
      rw [feed_cons fed, ih, Element.withText_withText]
  | @empty name attributes rest text children _ ih =>
      have fed : feed ⟨parent :: others, root⟩ (.empty name attributes) =
          .ok ⟨parent.withChildren [⟨name, attributes, "", []⟩] :: others, root⟩ := rfl
      rw [feed_cons fed, ih]
      simp [Element.withText, Element.withChildren]
  | @nested name attributes closing inner rest own text grandchildren children _ _ inside later =>
      have opened : feed ⟨parent :: others, root⟩ (.start name attributes) =
          .ok ⟨⟨name, attributes, "", []⟩ :: parent :: others, root⟩ := rfl
      have closed : feed ⟨⟨name, attributes, own, grandchildren⟩ :: parent :: others, root⟩
          (.close closing) =
          .ok ⟨parent.withChildren [settle ⟨name, attributes, own, grandchildren⟩] :: others,
            root⟩ := rfl
      rw [feed_cons opened, feed_append (inside _ _), Element.withText_withChildren_leaf,
        feed_cons closed, later]
      simp [Element.withText, Element.withChildren]

/-- An element outside the root becomes the root, or is refused if there is one. -/
theorem attach_outside {rest : List Event} {grown : Assembly} {blank : Prop} (element : Element)
    (later : ∀ root, rest.foldlM feed ⟨[], root⟩ = .ok grown ↔
      blank ∧ grown.opened = [] ∧ root.toList ++ children = grown.root.toList)
    (root : Option Element) :
    (attach ⟨[], root⟩ element >>= fun assembly => rest.foldlM feed assembly) = .ok grown ↔
      blank ∧ grown.opened = [] ∧ root.toList ++ element :: children = grown.root.toList := by
  cases root with
  | none => exact later (some element)
  | some first =>
      constructor
      · intro done
        cases done
      · rintro ⟨-, -, same⟩
        have lengths := congrArg List.length same
        cases last : grown.root <;> simp [last] at lengths

/-- Outside the root, a well nested stretch is taken if it writes nothing and adds the root. -/
theorem feed_outside (content : Content events text children) (root : Option Element)
    (grown : Assembly) :
    events.foldlM feed ⟨[], root⟩ = .ok grown ↔
      Text.isBlank text = true ∧ grown.opened = [] ∧
        root.toList ++ children = grown.root.toList := by
  induction content generalizing root with
  | nil =>
      constructor
      · intro done
        cases done
        exact ⟨rfl, rfl, List.append_nil _⟩
      · rintro ⟨-, closed, same⟩
        obtain ⟨opened, last⟩ := grown
        obtain rfl : opened = [] := closed
        obtain rfl : root = last := by
          cases root <;> cases last <;> simp_all
        rfl
  | @characters event rest text more children adds _ ih =>
      rw [Text.isBlank_append, Bool.and_eq_true, List.foldlM_cons, feed_characters adds]
      by_cases blank : Text.isBlank text = true
      · have added : addText ⟨[], root⟩ text = .ok ⟨[], root⟩ := if_pos blank
        rw [added]
        exact (ih root).trans (by simp [blank])
      · have refused : addText ⟨[], root⟩ text = .error .textOutsideRoot := if_neg blank
        rw [refused]
        exact ⟨fun impossible => (nomatch impossible), fun ⟨⟨whole, _⟩, _⟩ => absurd whole blank⟩
  | empty name attributes _ ih =>
      rw [List.foldlM_cons]
      exact attach_outside _ ih root
  | @nested name attributes closing inner rest own text grandchildren children inside _ _ ih =>
      have opened : feed ⟨[], root⟩ (.start name attributes) =
          .ok ⟨[⟨name, attributes, "", []⟩], root⟩ := rfl
      have closed : feed ⟨[⟨name, attributes, own, grandchildren⟩], root⟩ (.close closing) =
          attach ⟨[], root⟩ (settle ⟨name, attributes, own, grandchildren⟩) := rfl
      rw [feed_cons opened, feed_append (inside.feed_inside _ _ _),
        Element.withText_withChildren_leaf, List.foldlM_cons, closed]
      exact attach_outside _ ih root

theorem ofEvents_eq_ok_iff (content : Content events text children) (tree : Element) :
    Element.ofEvents events = .ok tree ↔ Text.isBlank text = true ∧ children = [tree] := by
  constructor
  · intro done
    obtain ⟨⟨opened, root⟩, fed, finished⟩ := ok_of_bind done
    obtain ⟨blank, closed, same⟩ := (content.feed_outside none _).mp fed
    obtain rfl : opened = [] := closed
    obtain ⟨found, rfl⟩ : ∃ found, root = some found := by
      cases root with
      | none => cases finished
      | some found => exact ⟨found, rfl⟩
    cases finished
    exact ⟨blank, same⟩
  · rintro ⟨blank, rfl⟩
    have fed : events.foldlM feed .initial = .ok ⟨[], some tree⟩ :=
      (content.feed_outside none _).mpr ⟨blank, rfl, rfl⟩
    rw [Element.ofEvents, fed]
    rfl

end Content

/-! ## What is accepted is well nested -/

namespace Assembly

variable {assembly grown : Assembly}

theorem attach_opened {element : Element} (attached : assembly.attach element = .ok grown) :
    grown.opened.length = assembly.opened.length := by
  unfold attach at attached
  split at attached
  case h_1 shape =>
    cases attached
    simp [shape]
  case h_2 shape _ =>
    cases attached
    simp [shape]
  case h_3 => cases attached

theorem addText_opened {text : String} (added : assembly.addText text = .ok grown) :
    grown.opened.length = assembly.opened.length := by
  unfold addText at added
  split at added
  case h_1 shape =>
    cases added
    simp [shape]
  case h_2 shape =>
    split at added
    · cases added
      rfl
    · cases added

theorem balanced_feed {event : Event} (fed : assembly.feed event = .ok grown)
    (rest : List Event) :
    event.resolves = true ∧
      balanced assembly.opened.length (event :: rest) = balanced grown.opened.length rest := by
  cases event with
  | start name attributes =>
      cases fed
      exact ⟨rfl, rfl⟩
  | empty name attributes => exact ⟨rfl, congrArg (balanced · rest) (attach_opened fed).symm⟩
  | close name =>
      obtain ⟨_ | ⟨closed, others⟩, root⟩ := assembly
      · cases fed
      · exact ⟨rfl, congrArg (balanced · rest) (attach_opened fed).symm⟩
  | text content => exact ⟨rfl, congrArg (balanced · rest) (addText_opened fed).symm⟩
  | data content => exact ⟨rfl, congrArg (balanced · rest) (addText_opened fed).symm⟩
  | reference name =>
      cases stands : Reference.inText? name.toList with
      | none => simp [feed, stands] at fed
      | some character =>
          simp only [feed, stands] at fed
          have kept : balanced assembly.opened.length rest = balanced grown.opened.length rest :=
            congrArg (balanced · rest) (addText_opened fed).symm
          exact ⟨by simp [Event.resolves, stands], kept⟩
  | ignorable =>
      cases fed
      exact ⟨rfl, rfl⟩

theorem balanced_of_finish {events : List Event} {tree : Element}
    (done : (events.foldlM feed assembly >>= finish) = .ok tree) :
    balanced assembly.opened.length events = true ∧ ∀ event ∈ events, event.resolves = true := by
  induction events generalizing assembly with
  | nil =>
      obtain ⟨_ | ⟨innermost, others⟩, root⟩ := assembly
      · exact ⟨rfl, List.forall_mem_nil _⟩
      · cases done
  | cons event rest ih =>
      obtain ⟨last, fed, finished⟩ := ok_of_bind done
      obtain ⟨grown, first, later⟩ := ok_of_bind fed
      obtain ⟨resolves, nesting⟩ := balanced_feed first rest
      have continued : (rest.foldlM feed grown >>= finish) = .ok tree := by
        rw [later]
        exact finished
      obtain ⟨nested, resolved⟩ := ih continued
      exact ⟨nesting.trans nested, List.forall_mem_cons.mpr ⟨resolves, resolved⟩⟩

end Assembly

namespace Element

theorem ofEvents_isOk_iff (events : List Event) :
    (∃ tree, ofEvents events = .ok tree) ↔ Whole events := by
  constructor
  · rintro ⟨tree, done⟩
    obtain ⟨nested, resolved⟩ := Assembly.balanced_of_finish done
    obtain ⟨text, children, content, rfl, openings⟩ := exists_content nested resolved
    obtain ⟨blank, rfl⟩ := (content.ofEvents_eq_ok_iff tree).mp done
    exact ⟨nested, by rw [openings]; rfl, resolved, blank⟩
  · rintro ⟨nested, single, resolved, blank⟩
    obtain ⟨text, children, content, rfl, openings⟩ := exists_content nested resolved
    rw [openings, List.length_map] at single
    obtain ⟨tree, rfl⟩ := List.length_eq_one_iff.mp single
    exact ⟨tree, (content.ofEvents_eq_ok_iff tree).mpr ⟨blank, rfl⟩⟩

theorem accounts_of_ofEvents {events : List Event} {tree : Element}
    (done : ofEvents events = .ok tree) : tree.preorder.map account = accounts events := by
  obtain ⟨nested, resolved⟩ := Assembly.balanced_of_finish done
  obtain ⟨text, children, content, -, -⟩ := exists_content nested resolved
  obtain ⟨-, rfl⟩ := (content.ofEvents_eq_ok_iff tree).mp done
  have whole := content.accounts_append [] rfl
  simpa [preorderAll, accounts] using whole.symm

end Element

/-! ## Events that change nothing -/

namespace Element

/-- Events may be exchanged for others that do the same to every tree under construction. -/
theorem ofEvents_exchange {some others : List Event}
    (same : ∀ assembly : Assembly, some.foldlM Assembly.feed assembly =
      others.foldlM Assembly.feed assembly) (before after : List Event) :
    ofEvents (before ++ some ++ after) = ofEvents (before ++ others ++ after) := by
  simp only [ofEvents, List.foldlM_append, same]

end Element

namespace Assembly

theorem feed_ignorable (assembly : Assembly) :
    [Event.ignorable].foldlM feed assembly = [].foldlM feed assembly := by
  rfl

theorem addText_append (assembly : Assembly) (first second : String) :
    assembly.addText (first ++ second) =
      assembly.addText first >>= fun grown => grown.addText second := by
  obtain ⟨_ | ⟨innermost, others⟩, root⟩ := assembly
  · by_cases blank : Text.isBlank first = true
    · have added : addText ⟨[], root⟩ first = .ok ⟨[], root⟩ := if_pos blank
      rw [added]
      simp only [addText, Text.isBlank_append, blank, Bool.true_and]
      rfl
    · have refused : addText ⟨[], root⟩ first = .error .textOutsideRoot := if_neg blank
      rw [refused]
      simp only [addText, Text.isBlank_append, blank, Bool.false_and]
      rfl
  · exact congrArg (fun element => Except.ok (Assembly.mk (element :: others) root))
      (innermost.withText_withText first second).symm

theorem feed_split (first second : String) (assembly : Assembly) :
    [Event.text (first ++ second)].foldlM feed assembly =
      [Event.text first, .text second].foldlM feed assembly := by
  simp only [List.foldlM_cons, List.foldlM_nil, feed, addText_append, bind_assoc]

theorem feed_empty (name : String) (attributes : Table String) (closing : String)
    (assembly : Assembly) :
    [Event.empty name attributes].foldlM feed assembly =
      [Event.start name attributes, .close closing].foldlM feed assembly := by
  rfl

end Assembly

/-! ## Events that were read -/

theorem namesMatch_ofPiece {opened names : List String} {start : List Char} {piece : Piece}
    {event : Event} (meant : Event.ofPiece opened start piece = .ok (event, names))
    (rest : List Event) : namesMatch opened (event :: rest) = namesMatch names rest := by
  cases piece with
  | text content | reference content | data content | ignorable =>
      cases meant
      rfl
  | openTag content | emptyTag content =>
      simp only [Event.ofPiece] at meant
      split at meant <;> cases meant
      rfl
  | closeTag name =>
      cases opened with
      | nil => cases meant
      | cons expected others =>
          simp only [Event.ofPiece] at meant
          split at meant
          case isTrue same =>
            cases meant
            simp [namesMatch, same]
          case isFalse => cases meant

theorem namesMatch_readEvents (fuel : Nat) (opened : List String) (text : List Char) :
    namesMatch opened (readEvents fuel opened text).1 = true := by
  induction fuel generalizing opened text with
  | zero => rfl
  | succ fuel ih =>
      cases text with
      | nil => rfl
      | cons first rest =>
          simp only [readEvents]
          split
          case h_1 => rfl
          case h_2 piece after read =>
            split
            case h_1 => rfl
            case h_2 event names meant =>
              rw [namesMatch_ofPiece meant]
              exact ih names after

namespace Element

theorem parse_eq_ofEvents {source : String} {events : List Event}
    (read : readEvents (dropMark source.toList).length [] (dropMark source.toList) =
      (events, none)) : parse source = (ofEvents events).mapError Fault.assembly := by
  simp only [parse, read, ofEvents]
  cases events.foldlM Assembly.feed Assembly.initial <;> rfl

/-- Events become a tree exactly if they describe one element and nothing beside it, and the tree
then holds in preorder what the opening events account for. It does not depend on ignorable events,
on how text is cut up, or on the form of an empty element. The events of a text are matched by
name, and the text is read as what they describe. -/
theorem ofEvents_conserves (events : List Event) :
    ((∃ tree, ofEvents events = .ok tree) ↔ Whole events) ∧
      (∀ tree, ofEvents events = .ok tree →
        tree.preorder.map head = events.filterMap Event.opening? ∧
          tree.preorder.map account = accounts events) ∧
      (∀ before after, events = before ++ after →
        ofEvents (before ++ .ignorable :: after) = ofEvents events) ∧
      (∀ before first second after, events = before ++ .text (first ++ second) :: after →
        ofEvents (before ++ .text first :: .text second :: after) = ofEvents events) ∧
      (∀ before name attributes closing after, events = before ++ .empty name attributes :: after →
        ofEvents (before ++ .start name attributes :: .close closing :: after) =
          ofEvents events) ∧
      (∀ source,
        readEvents (dropMark source.toList).length [] (dropMark source.toList) = (events, none) →
          namesMatch [] events = true ∧
            parse source = (ofEvents events).mapError Fault.assembly) := by
  refine ⟨ofEvents_isOk_iff events, ?_, ?_, ?_, ?_, ?_⟩
  · intro tree done
    have told := accounts_of_ofEvents done
    refine ⟨?_, told⟩
    rw [← head_accounts, ← told, List.map_map]
    rfl
  · rintro before after rfl
    simpa using ofEvents_exchange Assembly.feed_ignorable before after
  · rintro before first second after rfl
    simpa using (ofEvents_exchange (Assembly.feed_split first second) before after).symm
  · rintro before name attributes closing after rfl
    simpa using (ofEvents_exchange (Assembly.feed_empty name attributes closing) before after).symm
  · intro source read
    let text := dropMark source.toList
    have matched : namesMatch [] (readEvents text.length [] text).1 = true :=
      namesMatch_readEvents _ _ _
    rw [read] at matched
    exact ⟨matched, parse_eq_ofEvents read⟩

example : Whole [.ignorable, .start "a" .empty, .text "\n ", .empty "b" .empty, .reference "#32",
    .start "c" .empty, .data " ", .close "c", .close "a", .text "\n"] :=
  ⟨by decide, by decide, by decide, by decide⟩

example : (accounts [.start "a" .empty, .text "\n ", .empty "b" .empty, .reference "#32",
    .start "c" .empty, .data " ", .close "c", .close "a"]).map Account.text = ["", "", " "] := by
  decide

end Element

end Xml

end Xib
