import Xib.Document.Build
import Xib.Proofs.Forest

/-!
# Built documents are preorder forests

A build only ever appends: what it adds for some elements is a forest of its own, with positions
after everything that was there. The objects that contain these elements are still unfinished then,
but they are never looked at again before they are completed, so nothing has to be said of them.
-/

namespace Xib

set_option autoImplicit false

open Xml (Element)
open scoped List

namespace Owns

variable {children embedded positions : List Nat}

theorem nothing : Owns [] [] [] :=
  ⟨List.Sublist.refl [], List.Perm.refl []⟩

theorem addChildren (owns : Owns children embedded positions) (more : List Nat) :
    Owns (children ++ more) embedded (positions ++ more) where
  ordered := owns.ordered.append (List.Sublist.refl more)
  complete := by
    calc (children ++ more) ++ embedded
      _ = children ++ (more ++ embedded) := List.append_assoc ..
      _ ~ children ++ (embedded ++ more) := List.perm_append_comm.append_left children
      _ = (children ++ embedded) ++ more := (List.append_assoc ..).symm
      _ ~ positions ++ more := owns.complete.append_right more

theorem addEmbedded (owns : Owns children embedded positions) (index : Nat) :
    Owns children (embedded ++ [index]) (positions ++ [index]) where
  ordered := owns.ordered.trans (List.sublist_append_left positions [index])
  complete := by
    rw [← List.append_assoc]
    exact owns.complete.append_right [index]

end Owns

namespace Contents

variable (label : String) (element : Element)

/-- Contents that concern their owner alone embed nothing. -/
def EmbedsNothing (contents : Contents) : Prop :=
  contents.auxiliaries.filterMap Auxiliary.embedded? = []

theorem concat_embeds_nothing {elements : List Element} {contents : Element → Contents}
    (each : ∀ element, (contents element).EmbedsNothing) :
    (concat elements contents).EmbedsNothing := by
  induction elements with
  | nil => rfl
  | cons element rest ih =>
      have first := each element
      simp only [EmbedsNothing, concat, List.foldr_cons, append, List.filterMap_append,
        List.append_eq_nil_iff] at first ih ⊢
      exact ⟨first, ih⟩

theorem ofConstraint_embeds_nothing : (ofConstraint label element).EmbedsNothing := by
  unfold ofConstraint
  split <;> rfl

theorem ofConnection_embeds_nothing : (ofConnection label element).EmbedsNothing := by
  unfold ofConnection
  split <;> rfl

theorem ofRuntimeAttribute_embeds_nothing : (ofRuntimeAttribute label element).EmbedsNothing := by
  unfold ofRuntimeAttribute
  split
  · split <;> rfl
  · rfl

theorem ofState_embeds_nothing : (ofState label element).EmbedsNothing := by
  unfold ofState
  split <;> rfl

theorem ofElement?_embeds_nothing {value : Auxiliary}
    (found : Auxiliary.ofElement? element = some value) :
    value.embedded? = none := by
  simp only [Auxiliary.ofElement?, Option.bind_eq_bind, Option.bind_eq_some_iff] at found
  rcases found with ⟨key, _, read⟩
  split at read <;> cases read <;> rfl

theorem of_embeds_nothing : (Contents.of label element).EmbedsNothing := by
  unfold Contents.of
  split
  · exact concat_embeds_nothing (ofConstraint_embeds_nothing label)
  · exact concat_embeds_nothing (ofConnection_embeds_nothing label)
  · exact concat_embeds_nothing (ofRuntimeAttribute_embeds_nothing label)
  · exact ofState_embeds_nothing label element
  · rfl
  · split
    · rfl
    · split
      · rename_i value found
        simp [EmbedsNothing, Contents.value, ofElement?_embeds_nothing element found]
      · rfl

end Contents

namespace Document

/-- What building some elements does: it appends a forest, and leaves the roots alone. -/
structure Adds (parent : Option Nat) (before after : Document) (tops : List Nat) : Prop where
  forest : ∃ added, after.objects = before.objects ++ added ∧ Forest parent before.size added tops
  roots : after.roots = before.roots
  tables : before.TablesBounded → after.TablesBounded

namespace Adds

variable {parent : Option Nat} {first second third : Document} {tops laterTops : List Nat}

/-- A step that only touches the tables or the warnings adds no object. -/
theorem nothing (objects : second.objects = first.objects) (roots : second.roots = first.roots)
    (tables : first.TablesBounded → second.TablesBounded) : Adds parent first second [] :=
  ⟨⟨[], by rw [objects, List.append_nil], .nil⟩, roots, tables⟩

theorem trans (former : Adds parent first second tops)
    (latter : Adds parent second third laterTops) :
    Adds parent first third (tops ++ laterTops) := by
  rcases former.forest with ⟨added, formerObjects, formerForest⟩
  rcases latter.forest with ⟨more, latterObjects, latterForest⟩
  refine ⟨⟨added ++ more, ?_, ?_⟩, latter.roots.trans former.roots, latter.tables ∘ former.tables⟩
  · rw [latterObjects, formerObjects, List.append_assoc]
  · have start : second.size = first.size + added.length := by
      simp [size, formerObjects]
    rw [start] at latterForest
    exact formerForest.append latterForest

theorem size_le (adds : Adds parent first second tops) : first.size ≤ second.size := by
  rcases adds.forest with ⟨added, objects, _⟩
  simp [size, objects]

end Adds

variable {registry : Registry} {parent : Option Nat} {document : Document}

/-- A document may grow, and its tables gain entries that are bounded by its new size. -/
theorem TablesBounded.grow {after : Document} (tables : document.TablesBounded)
    (larger : document.size ≤ after.size)
    (identifiers : ∀ entry ∈ after.identifiers.entries,
      entry ∈ document.identifiers.entries ∨ entry.2 < after.size)
    (guides : ∀ entry ∈ after.guides.entries,
      entry ∈ document.guides.entries ∨ entry.2.owner < after.size) : after.TablesBounded where
  identifiers := by
    intro entry member
    rcases identifiers entry member with former | bounded
    · exact Nat.lt_of_lt_of_le (tables.identifiers entry former) larger
    · exact bounded
  guides := by
    intro entry member
    rcases guides entry member with former | bounded
    · exact Nat.lt_of_lt_of_le (tables.guides entry former) larger
    · exact bounded

theorem push_ok {object : Object} {after : Document} (pushed : document.push object = .ok after) :
    after.objects = document.objects ++ [object] ∧ after.roots = document.roots ∧
      (document.TablesBounded → after.TablesBounded) := by
  unfold push at pushed
  split at pushed
  · cases pushed
    refine ⟨rfl, rfl, fun tables => tables.grow (by simp [size]) ?_ ?_⟩
    · exact fun entry member => .inl member
    · exact fun entry member => .inl member
  · split at pushed
    · cases pushed
    · cases pushed
      refine ⟨rfl, rfl, fun tables => tables.grow (by simp [size]) ?_ ?_⟩
      · intro entry member
        rcases mem_upsert member with same | former
        · exact .inr (by simp [same, size])
        · exact .inl former
      · exact fun entry member => .inl member

theorem addGuide_adds {owner : Nat} {key : String} {identifier : Option String} {after : Document}
    (inside : owner < document.size) (added : document.addGuide owner key identifier = .ok after) :
    Adds parent document after [] := by
  unfold addGuide at added
  split at added
  · cases added
    exact .nothing rfl rfl id
  · unfold registerGuide at added
    split at added
    · cases added
    · cases added
      refine .nothing rfl rfl fun tables => tables.grow (Nat.le_refl _) ?_ ?_
      · exact fun entry member => .inl member
      · intro entry member
        rcases mem_upsert member with same | former
        · exact .inr (by rw [same]; exact inside)
        · exact .inl former

private theorem modify_after {change : Object → Object} (earlier : List Object) (object : Object)
    (added : List Object) :
    (earlier ++ object :: added).modify earlier.length change =
      earlier ++ change object :: added := by
  induction earlier with
  | nil => rfl
  | cons first rest ih => simp [ih]

theorem TablesBounded.modify (tables : document.TablesBounded) (index : Nat)
    (change : Object → Object) : (document.modify index change).TablesBounded := by
  apply tables.grow
  · simp [size, Document.modify]
  · exact fun entry member => .inl member
  · exact fun entry member => .inl member

theorem complete_adds {object : Object} {pushed built : Document} {gathered : Gathered}
    {tops : List Nat} (started : document.push object = .ok pushed)
    (inner : Adds (some document.size) pushed built tops)
    (owns : Owns gathered.children (gathered.auxiliaries.filterMap Auxiliary.embedded?) tops)
    (numbered : object.index = document.size) (child : object.parent = parent) :
    Adds parent document (built.modify document.size gathered.complete) [document.size] := by
  rcases push_ok started with ⟨pushedObjects, pushedRoots, pushedTables⟩
  rcases inner.forest with ⟨added, builtObjects, forest⟩
  have start : pushed.size = document.size + 1 := by simp [size, pushedObjects]
  rw [start] at forest
  refine ⟨⟨gathered.complete object :: added, ?_, ?_⟩, ?_, ?_⟩
  · simp only [modify, builtObjects, pushedObjects, List.append_assoc, List.singleton_append]
    exact modify_after document.objects object added
  · exact Forest.single numbered child owns forest
  · exact inner.roots.trans pushedRoots
  · exact fun tables => (inner.tables (pushedTables tables)).modify _ _

/-- What one child element of an object does to the document and to what is gathered. -/
inductive PartStep (registry : Registry) (owner : Nat) (label : String) (document : Document)
    (gathered : Gathered) (element : Element) : Document → Gathered → Prop where
  | subviews {built : Document} {indices : List Nat}
      (place : Place.of registry element = .subviews)
      (visited : visitAll registry (some owner) document element.children = .ok (built, indices)) :
      PartStep registry owner label document gathered element built (gathered.addChildren indices)
  | guide {built : Document} {key : String} {identifier : Option String}
      (place : Place.of registry element = .guide key identifier)
      (added : document.addGuide owner key identifier = .ok built) :
      PartStep registry owner label document gathered element built
        (gathered.addValue (.guide key identifier))
  | embedded {built : Document} {key : String}
      (place : Place.of registry element = .embedded key)
      (visited : visit registry (some owner) document element = .ok built) :
      PartStep registry owner label document gathered element built
        (gathered.addValue (.embedded key document.size))
  | contents (place : Place.of registry element = .contents) :
      PartStep registry owner label document gathered element
        (document.warn (Contents.of label element).warnings)
        (gathered.addContents (Contents.of label element))

theorem visit_ok {element : Element} {built : Document}
    (done : visit registry parent document element = .ok built) :
    ∃ kind pushed inner gathered,
      registry.kind? element = some kind ∧
      document.push (.ofElement document.size kind parent element) = .ok pushed ∧
      visitParts registry document.size
        (Object.ofElement document.size kind parent element).describe pushed .nothing
        element.children = .ok (inner, gathered) ∧
      built = inner.modify document.size gathered.complete := by
  rcases element with ⟨name, attributes, text, children⟩
  simp only [visit] at done
  split at done
  · cases done
  · rename_i kind known
    split at done
    · cases done
    · rename_i pushed started
      split at done
      · cases done
      · rename_i inner gathered visited
        cases done
        exact ⟨kind, pushed, inner, gathered, known, started, visited, rfl⟩

theorem visitAll_cons_ok {element : Element} {rest : List Element} {built : Document}
    {indices : List Nat}
    (done : visitAll registry parent document (element :: rest) = .ok (built, indices)) :
    ∃ middle others, visit registry parent document element = .ok middle ∧
      visitAll registry parent middle rest = .ok (built, others) ∧
      indices = document.size :: others := by
  simp only [visitAll] at done
  split at done
  · cases done
  · rename_i middle visited
    split at done
    · cases done
    · rename_i final others visitedRest
      cases done
      exact ⟨middle, others, visited, visitedRest, rfl⟩

theorem visitParts_cons_ok {owner : Nat} {label : String} {gathered result : Gathered}
    {element : Element} {rest : List Element} {built : Document}
    (done : visitParts registry owner label document gathered (element :: rest) =
      .ok (built, result)) :
    ∃ middle next, PartStep registry owner label document gathered element middle next ∧
      visitParts registry owner label middle next rest = .ok (built, result) := by
  rcases element with ⟨name, attributes, text, children⟩
  simp only [visitParts] at done
  split at done
  · rename_i place
    split at done
    · cases done
    · rename_i middle indices visited
      exact ⟨middle, _, .subviews place visited, done⟩
  · rename_i place
    split at done
    · cases done
    · rename_i middle added
      exact ⟨middle, _, .guide place added, done⟩
  · rename_i place
    split at done
    · cases done
    · rename_i middle visited
      exact ⟨middle, _, .embedded place visited, done⟩
  · rename_i place
    exact ⟨_, _, .contents place, done⟩

mutual

theorem visit_adds {parent : Option Nat} {document built : Document} :
    (element : Element) → visit registry parent document element = .ok built →
      Adds parent document built [document.size]
  | ⟨name, attributes, text, children⟩, done => by
      rcases visit_ok done with ⟨kind, pushed, inner, gathered, _, started, visited, rfl⟩
      have inside : document.size < pushed.size := by
        simp [size, (push_ok started).1]
      rcases visitParts_adds children inside Owns.nothing visited with ⟨tops, adds, owns⟩
      exact complete_adds started adds owns rfl rfl

theorem visitAll_adds {parent : Option Nat} {document built : Document} {indices : List Nat} :
    (elements : List Element) → visitAll registry parent document elements = .ok (built, indices) →
      Adds parent document built indices
  | [], done => by
      cases done
      exact .nothing rfl rfl id
  | element :: rest, done => by
      rcases visitAll_cons_ok done with ⟨middle, others, visited, visitedRest, rfl⟩
      exact (visit_adds element visited).trans (visitAll_adds rest visitedRest)

/-- Going through the children of an object adds what they contain, and gathers exactly the
positions of the topmost objects added. -/
theorem visitParts_adds {owner : Nat} {label : String} {document built : Document}
    {gathered result : Gathered} {positions : List Nat} :
    (elements : List Element) → owner < document.size →
      Owns gathered.children (gathered.auxiliaries.filterMap Auxiliary.embedded?) positions →
      visitParts registry owner label document gathered elements = .ok (built, result) →
      ∃ tops, Adds (some owner) document built tops ∧
        Owns result.children (result.auxiliaries.filterMap Auxiliary.embedded?) (positions ++ tops)
  | [], _, owns, done => by
      cases done
      exact ⟨[], .nothing rfl rfl id, by simpa using owns⟩
  | ⟨name, attributes, text, children⟩ :: rest, inside, owns, done => by
      rcases visitParts_cons_ok done with ⟨middle, next, step, continued⟩
      -- One child adds the trees at some positions and gathers these; the rest goes on from there.
      have stepped : ∃ tops, Adds (some owner) document middle tops ∧
          Owns next.children (next.auxiliaries.filterMap Auxiliary.embedded?)
            (positions ++ tops) := by
        cases step with
        | @subviews _ indices _ visited =>
            exact ⟨indices, visitAll_adds children visited, owns.addChildren indices⟩
        | guide _ added =>
            refine ⟨[], addGuide_adds inside added, ?_⟩
            simpa [Gathered.addValue, List.filterMap_cons, Auxiliary.embedded?] using owns
        | embedded _ visited =>
            refine ⟨[document.size], visit_adds ⟨name, attributes, text, children⟩ visited, ?_⟩
            simpa [Gathered.addValue, Auxiliary.embedded?] using owns.addEmbedded document.size
        | contents _ =>
            refine ⟨[], .nothing rfl rfl fun tables => ⟨tables.identifiers, tables.guides⟩, ?_⟩
            have none := Contents.of_embeds_nothing label ⟨name, attributes, text, children⟩
            rw [Contents.EmbedsNothing] at none
            simpa [Gathered.addContents, none] using owns
      rcases stepped with ⟨tops, adds, holds⟩
      have stillInside := Nat.lt_of_lt_of_le inside adds.size_le
      rcases visitParts_adds rest stillInside holds continued with ⟨more, addsRest, holdsRest⟩
      exact ⟨tops ++ more, adds.trans addsRest, by simpa using holdsRest⟩

end

theorem foldl_addRoot (document : Document) (indices : List Nat) :
    indices.foldl addRoot document = { document with roots := document.roots ++ indices } := by
  induction indices generalizing document with
  | nil => simp
  | cons index rest ih =>
      rw [List.foldl_cons, ih]
      simp [addRoot]

/-- The objects of a built document are one forest, whose topmost objects are the roots. -/
theorem ofElement_forest {root : Element} (built : ofElement registry root = .ok document) :
    Forest none 0 document.objects document.roots ∧ document.TablesBounded := by
  unfold ofElement at built
  split at built
  · cases built
  · rename_i visitedDocument indices visited
    cases built
    have adds := visitAll_adds (topLevel root) visited
    rcases adds.forest with ⟨added, objects, forest⟩
    have all : visitedDocument.objects = added := by simpa [empty] using objects
    have tops : visitedDocument.roots = [] := adds.roots
    have tables := adds.tables ⟨by simp [empty, Table.empty], by simp [empty, Table.empty]⟩
    rw [foldl_addRoot]
    have start : empty.size = 0 := rfl
    rw [start] at forest
    constructor
    · simpa [all, tops] using forest
    · exact ⟨tables.identifiers, tables.guides⟩

theorem ofText_ok {source : String} (built : ofText registry source = .ok document) :
    ∃ root, Element.parse source = .ok root ∧ ofElement registry root = .ok document := by
  unfold ofText at built
  split at built
  · cases built
  · rename_i root parsed
    exact ⟨root, parsed, built⟩

/-- Every document that is built at all is a forest in preorder whose objects carry their positions,
for any text and any registry. -/
theorem ofText_isPreorder (registry : Registry) (source : String) (document : Document)
    (built : ofText registry source = .ok document) : document.IsPreorder := by
  rcases ofText_ok built with ⟨root, _, made⟩
  rcases ofElement_forest made with ⟨forest, tables⟩
  exact isPreorder_of_forest forest tables

def interleavedSource : String :=
  "<view><subviews><label/></subviews><view key='backgroundView'/><viewLayoutGuide id='g'/>" ++
    "<subviews><view/></subviews></view>"

theorem ofText_isPreorder_interleaved :
    ∃ document, ofText .cocoaTouch interleavedSource = .ok document ∧ document.size = 4 ∧
      document.IsPreorder := by
  have succeeds : (ofText .cocoaTouch interleavedSource).toOption.map size = some 4 := by
    decide +kernel
  cases built : ofText .cocoaTouch interleavedSource with
  | error reason =>
      rw [built] at succeeds
      cases succeeds
  | ok document =>
      rw [built] at succeeds
      have count : document.size = 4 := Option.some.inj succeeds
      exact ⟨document, rfl, count, ofText_isPreorder _ _ _ built⟩

end Document

end Xib
