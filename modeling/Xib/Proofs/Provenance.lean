import Xib.Proofs.Build
import Xib.Proofs.Entries

/-!
# Where everything in a document comes from

A build is followed with two records on the side: the elements that objects are built from, by
position, and the warnings with the position of the object each is about. A finished object holds
what the entries of its element contribute, in their order, and the warnings about it are theirs.
Objects that are still open are told apart by their position alone: they come before everything
that is being built.
-/

namespace Xib.Document

set_option autoImplicit false

open Xml (Element)

def about (log : List (Nat × Warning)) (index : Nat) : List Warning :=
  (log.filter fun entry => entry.1 = index).map Prod.snd

theorem about_append (log more : List (Nat × Warning)) (index : Nat) :
    about (log ++ more) index = about log index ++ about more index := by
  simp [about]

theorem about_eq_nil {log : List (Nat × Warning)} {index : Nat}
    (others : ∀ entry ∈ log, entry.1 ≠ index) : about log index = [] := by
  rw [about, List.map_eq_nil_iff, List.filter_eq_nil_iff]
  intro entry member
  simpa using others entry member

theorem about_own (index : Nat) (warnings : List Warning) :
    about (warnings.map (Prod.mk index)) index = warnings := by
  induction warnings with
  | nil => rfl
  | cons warning rest ih => simpa [about] using ih

/-- An object holds what the entries of its element contribute, each list in their order, and the
warnings about it are those of the entries. -/
structure Accounts (registry : Registry) (elements : List Element) (log : List (Nat × Warning))
    (index : Nat) (element : Element) (object : Object) (contributions : List Contribution) :
    Prop where
  made : ∃ kind parent, registry.kind? element = some kind ∧
    object = { Object.ofElement index kind parent element with
      children := object.children
      constraints := object.constraints
      auxiliaries := object.auxiliaries }
  entries : List.Forall₂ (Contributes registry object.describe elements) (Entry.ofElement element)
    contributions
  children : object.children = contributions.filterMap Contribution.child?
  constraints : object.constraints = contributions.filterMap Contribution.constraint?
  auxiliaries : object.auxiliaries = contributions.filterMap Contribution.auxiliary?
  warnings : about log index = contributions.flatMap Contribution.warnings

theorem stands_append {elements : List Element} (more : List Element) (index : Nat)
    (element : Element) (stands : elements[index]? = some element) :
    (elements ++ more)[index]? = some element := by
  obtain ⟨bounded, _⟩ := List.getElem?_eq_some_iff.mp stands
  rw [List.getElem?_append_left bounded, stands]

/-- More elements and more warnings about other objects change nothing. -/
theorem Accounts.grow {registry : Registry} {elements more : List Element}
    {log wider : List (Nat × Warning)} {index : Nat} {element : Element} {object : Object}
    {contributions : List Contribution}
    (accounts : Accounts registry elements log index element object contributions)
    (same : about wider index = about log index) :
    Accounts registry (elements ++ more) wider index element object contributions where
  made := accounts.made
  entries := accounts.entries.imp fun _ _ contributes => contributes.mono (stands_append more)
  children := accounts.children
  constraints := accounts.constraints
  auxiliaries := accounts.auxiliaries
  warnings := same.trans accounts.warnings

/-- What a part of a build does, after some elements. It warns about the objects it adds and, if
it goes through the children of an open object, about that. -/
structure Records (registry : Registry) (owner : Option Nat) (before after : Document)
    (earlier added : List Element) (log : List (Nat × Warning)) : Prop where
  size : after.size = before.size + added.length
  kept : ∀ index, index < before.size → after.object? index = before.object? index
  warnings : after.warnings = before.warnings ++ log.map Prod.snd
  bounded : ∀ entry ∈ log, entry.1 < after.size ∧ (before.size ≤ entry.1 ∨ owner = some entry.1)
  accounts : ∀ index element object, before.size ≤ index →
    (earlier ++ added)[index]? = some element → after.object? index = some object →
    ∃ contributions, Accounts registry (earlier ++ added) log index element object contributions

section

variable {registry : Registry} {first second third : Document} {earlier added more : List Element}
  {log later : List (Nat × Warning)}

/-- A step that adds no object, with warnings about the open one. -/
theorem Records.quiet {owner : Option Nat} (objects : second.objects = first.objects)
    (warned : second.warnings = first.warnings ++ log.map Prod.snd)
    (logged : ∀ entry ∈ log, entry.1 < first.size ∧ owner = some entry.1) :
    Records registry owner first second earlier [] log where
  size := by simp [Document.size, objects]
  kept := by
    intro index _
    rw [object?, object?, objects]
  warnings := warned
  bounded := by
    intro entry member
    obtain ⟨inside, same⟩ := logged entry member
    refine ⟨?_, .inr same⟩
    simpa [Document.size, objects] using inside
  accounts := by
    intro index element object beyond _ found
    rw [object?, objects, List.getElem?_eq_none beyond] at found
    cases found

/-- What is built by itself warns only about objects of its own. -/
theorem Records.widen (records : Records registry none first second earlier added log)
    (owner : Option Nat) : Records registry owner first second earlier added log :=
  { records with
    bounded := by
      intro entry member
      obtain ⟨below, above | outer⟩ := records.bounded entry member
      · exact ⟨below, .inl above⟩
      · cases outer }

theorem Records.about_eq_nil (records : Records registry none first second earlier added log)
    {owner : Nat} (outside : owner < first.size) : about log owner = [] := by
  apply Document.about_eq_nil
  intro entry member same
  obtain ⟨_, above | outer⟩ := records.bounded entry member
  · omega
  · cases outer

theorem Records.trans {owner : Option Nat} (inside : ∀ above ∈ owner, above < first.size)
    (aligned : earlier.length = first.size)
    (former : Records registry owner first second earlier added log)
    (latter : Records registry owner second third (earlier ++ added) more later) :
    Records registry owner first third earlier (added ++ more) (log ++ later) where
  size := by
    rw [latter.size, former.size, List.length_append]
    omega
  kept := by
    intro index low
    have between : index < second.size := by
      rw [former.size]
      omega
    rw [latter.kept index between, former.kept index low]
  warnings := by
    rw [latter.warnings, former.warnings, List.map_append, List.append_assoc]
  bounded := by
    have grows := former.size
    have growsOn := latter.size
    intro entry member
    rcases List.mem_append.mp member with old | new
    · obtain ⟨below, place⟩ := former.bounded entry old
      exact ⟨by omega, place⟩
    · obtain ⟨below, place⟩ := latter.bounded entry new
      refine ⟨below, place.imp_left fun above => ?_⟩
      omega
  accounts := by
    intro index element object beyond stands found
    rw [← List.append_assoc] at stands ⊢
    have reach : (earlier ++ added).length = second.size := by
      rw [List.length_append, former.size, aligned]
    -- An object is finished in one of the two parts, and the other part has no warning about it.
    by_cases old : index < second.size
    · rw [List.getElem?_append_left (by omega)] at stands
      rw [latter.kept index old] at found
      obtain ⟨contributions, accounts⟩ := former.accounts index element object beyond stands found
      refine ⟨contributions, accounts.grow ?_⟩
      have silent : about later index = [] := by
        apply Document.about_eq_nil
        intro entry member same
        rcases (latter.bounded entry member).2 with above | outer
        · omega
        · have low := inside entry.1 outer
          omega
      rw [about_append, silent, List.append_nil]
    · obtain ⟨contributions, accounts⟩ :=
        latter.accounts index element object (by omega) stands found
      refine ⟨contributions, ?_⟩
      have silent : about log index = [] := by
        apply Document.about_eq_nil
        intro entry member same
        have below := (former.bounded entry member).1
        omega
      have same : about (log ++ later) index = about later index := by
        rw [about_append, silent, List.nil_append]
      rw [← List.append_nil ((earlier ++ added) ++ more)]
      exact accounts.grow same

/-- What going through some children of an object does: it records what they contain, and every
entry contributes to the object. -/
structure Collects (registry : Registry) (owner : Nat) (label : String) (before after : Document)
    (earlier added : List Element) (entries : List Entry) (contributions : List Contribution)
    (log : List (Nat × Warning)) : Prop
    extends Records registry (some owner) before after earlier added log where
  contribute : List.Forall₂ (Contributes registry label (earlier ++ added)) entries contributions
  own : about log owner = contributions.flatMap Contribution.warnings

theorem Collects.trans {owner : Nat} {label : String} {entries others : List Entry}
    {contributions further : List Contribution} (inside : owner < first.size)
    (aligned : earlier.length = first.size)
    (former : Collects registry owner label first second earlier added entries contributions log)
    (latter : Collects registry owner label second third (earlier ++ added) more others further
      later) :
    Collects registry owner label first third earlier (added ++ more) (entries ++ others)
      (contributions ++ further) (log ++ later) where
  toRecords := former.toRecords.trans (by simpa using inside) aligned latter.toRecords
  contribute := by
    have sooner := former.contribute.imp fun _ _ contributes =>
      contributes.mono (stands_append more)
    rw [← List.append_assoc]
    exact List.rel_append sooner latter.contribute
  own := by rw [about_append, List.flatMap_append, former.own, latter.own]

end

def Gathered.add (gathered : Gathered) (contributions : List Contribution) : Gathered where
  children := gathered.children ++ contributions.filterMap Contribution.child?
  auxiliaries := gathered.auxiliaries ++ contributions.filterMap Contribution.auxiliary?
  constraints := gathered.constraints ++ contributions.filterMap Contribution.constraint?

theorem Gathered.add_add (gathered : Gathered) (contributions more : List Contribution) :
    (gathered.add contributions).add more = gathered.add (contributions ++ more) := by
  simp [Gathered.add]

theorem Gathered.addValue_eq (gathered : Gathered) (value : Auxiliary) :
    gathered.addValue value = gathered.add [.value value] := by
  simp [Gathered.addValue, Gathered.add, Contribution.value, Contribution.child?,
    Contribution.auxiliary?, Contribution.constraint?]

theorem Gathered.addContents_eq {gathered : Gathered} {contents : Contents}
    {contributions : List Contribution} (sums : contents.Sums contributions) :
    gathered.addContents contents = gathered.add contributions := by
  simp [Gathered.addContents, Gathered.add, sums.children, sums.constraints, sums.auxiliaries]

theorem push_warnings {document after : Document} {object : Object}
    (pushed : document.push object = .ok after) : after.warnings = document.warnings := by
  unfold push at pushed
  split at pushed
  · cases pushed
    rfl
  · split at pushed
    · cases pushed
    · cases pushed
      rfl

theorem addGuide_quiet {document after : Document} {owner : Nat} {key : String}
    {identifier : Option String} (added : document.addGuide owner key identifier = .ok after) :
    after.objects = document.objects ∧ after.warnings = document.warnings := by
  unfold addGuide at added
  split at added
  · cases added
    exact ⟨rfl, rfl⟩
  · unfold registerGuide at added
    split at added
    · cases added
    · cases added
      exact ⟨rfl, rfl⟩

theorem object?_modify (document : Document) (index other : Nat) (change : Object → Object) :
    (document.modify index change).object? other =
      if index = other then (document.object? other).map change else document.object? other := by
  rw [object?, modify, List.getElem?_modify, object?]
  split <;> simp

section

variable {registry : Registry} {parent : Option Nat} {document pushed inner : Document}
  {earlier added : List Element} {log : List (Nat × Warning)}

theorem complete_records {kind : Kind} {element : Element} {contributions : List Contribution}
    (known : registry.kind? element = some kind) (aligned : earlier.length = document.size)
    (started : document.push (.ofElement document.size kind parent element) = .ok pushed)
    (collects : Collects registry document.size
      (Object.ofElement document.size kind parent element).describe pushed inner
      (earlier ++ [element]) added (Entry.ofElement element) contributions log) :
    Records registry none document
      (inner.modify document.size (Gathered.nothing.add contributions).complete) earlier
      (element :: added) log := by
  have objects := (push_ok started).1
  have grown : pushed.size = document.size + 1 := by simp [size, objects]
  have own : inner.object? document.size =
      some (.ofElement document.size kind parent element) := by
    rw [collects.kept _ (by omega), object?, objects]
    simp [size]
  have total : (inner.modify document.size (Gathered.nothing.add contributions).complete).size =
      inner.size := by
    simp [size, modify]
  constructor
  case size =>
    rw [total, collects.size, grown, List.length_cons]
    omega
  case kept =>
    intro index low
    rw [object?_modify, if_neg (by omega), collects.kept index (by omega), object?, objects,
      List.getElem?_append_left low]
    rfl
  case warnings =>
    have warned := collects.warnings
    rw [push_warnings started] at warned
    exact warned
  case bounded =>
    intro entry member
    obtain ⟨below, above⟩ := collects.bounded entry member
    refine ⟨by omega, .inl ?_⟩
    rcases above with later | here
    · omega
    · exact Nat.le_of_eq (Option.some.inj here)
  case accounts =>
    intro index other object beyond stands found
    rw [List.append_cons] at stands ⊢
    rw [object?_modify] at found
    -- The object itself is completed just now; everything after it was finished inside.
    by_cases here : document.size = index
    · subst here
      rw [if_pos rfl, own] at found
      cases found
      have same : other = element := by
        rw [← aligned] at stands
        simpa using stands.symm
      subst same
      refine ⟨contributions, ⟨kind, parent, known, rfl⟩, collects.contribute, ?_, ?_, ?_,
        collects.own⟩
      · simp [Gathered.complete, Gathered.add, Gathered.nothing]
      · simp [Gathered.complete, Gathered.add, Gathered.nothing]
      · simp [Gathered.complete, Gathered.add, Gathered.nothing]
    · rw [if_neg here] at found
      exact collects.accounts index other object (by omega) stands found

theorem keyed_of_place {element : Element} {key : String}
    (place : Place.of registry element = .embedded key) :
    element.attribute? "key" = some key := by
  unfold Place.of at place
  split at place
  · cases place
  · split at place
    · cases place
    · split at place
      · cases place
      · split at place
        · cases place
        · rename_i keyed
          split at place
          · cases place
          · split at place
            · cases place
              exact keyed
            · cases place

theorem subviews_contribute {label : String} {elements children : List Element}
    {indices : List Nat}
    (stand : List.Forall₂ (fun index element => elements[index]? = some element) indices children) :
    List.Forall₂ (Contributes registry label elements)
      (children.map (Entry.mk (some .subviews)))
      (indices.map fun index => ⟨some (.child index), []⟩) := by
  rw [List.forall₂_map_left_iff, List.forall₂_map_right_iff]
  exact stand.flip.imp fun _ _ stands => .subview stands

variable {owner : Nat} {label : String} {gathered next : Gathered} {middle : Document}

theorem guide_collects {element : Element} {key : String} {identifier : Option String}
    (place : Place.of registry element = .guide key identifier)
    (added : document.addGuide owner key identifier = .ok middle) :
    Collects registry owner label document middle earlier [] (Entry.ofChild element)
      [.value (.guide key identifier)] [] := by
  obtain ⟨objects, warnings⟩ := addGuide_quiet added
  have fits := placed registry element
  rw [place] at fits
  cases fits with
  | guide named =>
      have list : element.name ≠ "subviews" := by
        rw [named]
        decide
      rw [Place.of, if_neg list, if_pos named] at place
      cases place
      have direct : Container.ofName? element.name = none := by
        rw [named]
        rfl
      rw [Entry.ofChild, direct]
      exact ⟨.quiet objects (by simpa using warnings) (by simp), .cons (.guide named) .nil, rfl⟩

theorem contents_collects {element : Element} (inside : owner < document.size)
    (place : Place.of registry element = .contents) :
    ∃ contributions, Collects registry owner label document
        (document.warn (Contents.of label element).warnings) earlier [] (Entry.ofChild element)
        contributions ((Contents.of label element).warnings.map (Prod.mk owner)) ∧
      gathered.addContents (Contents.of label element) = gathered.add contributions := by
  obtain ⟨contributions, contribute, sums⟩ :=
    Contents.of_sums registry label (earlier ++ []) place
  refine ⟨contributions, ⟨.quiet rfl ?_ ?_, contribute, ?_⟩, Gathered.addContents_eq sums⟩
  · simp [warn, Function.comp_def]
  · simpa using fun _ _ => inside
  · rw [about_own, sums.warnings]

theorem embedded_collects {element : Element} {key : String} (inside : owner < document.size)
    (aligned : earlier.length = document.size)
    (place : Place.of registry element = .embedded key)
    (records : Records registry none document middle earlier (element :: added) log) :
    Collects registry owner label document middle earlier (element :: added)
      (Entry.ofChild element) [.value (.embedded key document.size)] log := by
  have fits := placed registry element
  rw [place] at fits
  cases fits with
  | embedded embedded =>
      have unclaimed : Unclaimed element := embedded.unclaimed
      have stands : (earlier ++ element :: added)[document.size]? = some element := by
        rw [← aligned]
        simp
      rw [Entry.ofChild, unclaimed.direct]
      exact ⟨records.widen _, .cons (.embedded embedded (keyed_of_place place) stands) .nil,
        records.about_eq_nil inside⟩

theorem subviews_collects {element : Element} {indices : List Nat} (inside : owner < document.size)
    (place : Place.of registry element = .subviews)
    (records : Records registry none document middle earlier added log)
    (stand : List.Forall₂ (fun index child => (earlier ++ added)[index]? = some child) indices
      element.children) :
    Collects registry owner label document middle earlier added (Entry.ofChild element)
        (indices.map fun index => ⟨some (.child index), []⟩) log ∧
      gathered.addChildren indices =
        gathered.add (indices.map fun index => ⟨some (.child index), []⟩) := by
  have fits := placed registry element
  rw [place] at fits
  cases fits with
  | subviews named =>
      constructor
      · rw [Entry.ofChild, named]
        refine ⟨records.widen _, subviews_contribute stand, ?_⟩
        rw [records.about_eq_nil inside]
        simp [List.flatMap_map]
      · simp [Gathered.addChildren, Gathered.add, List.filterMap_map, Function.comp_def,
          Contribution.child?, Contribution.auxiliary?, Contribution.constraint?]

end

variable {registry : Registry}

theorem elements_ofElement (registry : Registry) (element : Element) :
    Mark.elements (Mark.ofElement registry element) =
      element :: Mark.elements (Mark.ofParts registry element.children) := by
  rw [Mark.ofElement_eq, Mark.elements_cons]
  rfl

theorem elements_ofAll_cons (registry : Registry) (element : Element) (rest : List Element) :
    Mark.elements (Mark.ofAll registry (element :: rest)) =
      Mark.elements (Mark.ofElement registry element) ++
        Mark.elements (Mark.ofAll registry rest) := by
  rw [Mark.ofAll, Mark.elements_append]

theorem elements_ofParts_cons (registry : Registry) (element : Element) (rest : List Element) :
    Mark.elements (Mark.ofParts registry (element :: rest)) =
      Mark.elements (Mark.ofPart registry element) ++
        Mark.elements (Mark.ofParts registry rest) := by
  rw [Mark.ofParts_eq, List.flatMap_cons, ← Mark.ofParts_eq, Mark.elements_append]

mutual

theorem visit_records {parent : Option Nat} {document built : Document} {earlier : List Element} :
    (element : Element) → earlier.length = document.size →
      visit registry parent document element = .ok built →
      ∃ log, Records registry none document built earlier
        (Mark.elements (Mark.ofElement registry element)) log
  | ⟨name, attributes, text, children⟩, aligned, done => by
      obtain ⟨kind, pushed, inner, gathered, known, started, visited, rfl⟩ := visit_ok done
      have grown : pushed.size = document.size + 1 := by simp [size, (push_ok started).1]
      have alignedInside :
          (earlier ++ [(⟨name, attributes, text, children⟩ : Element)]).length = pushed.size := by
        rw [List.length_append, aligned, grown]
        rfl
      obtain ⟨contributions, log, collects, rfl⟩ :=
        visitParts_collects children (by omega) alignedInside visited
      rw [elements_ofElement]
      exact ⟨log, complete_records known aligned started collects⟩

theorem visitAll_records {parent : Option Nat} {document built : Document} {indices : List Nat}
    {earlier : List Element} :
    (elements : List Element) → earlier.length = document.size →
      visitAll registry parent document elements = .ok (built, indices) →
      ∃ log, Records registry none document built earlier
          (Mark.elements (Mark.ofAll registry elements)) log ∧
        List.Forall₂ (fun index element =>
          (earlier ++ Mark.elements (Mark.ofAll registry elements))[index]? = some element)
          indices elements
  | [], _, done => by
      cases done
      rw [Mark.ofAll]
      exact ⟨[], .quiet rfl (by simp) (by simp), .nil⟩
  | element :: rest, aligned, done => by
      obtain ⟨middle, others, visited, visitedRest, rfl⟩ := visitAll_cons_ok done
      obtain ⟨log, records⟩ := visit_records element aligned visited
      have alignedRest : (earlier ++ Mark.elements (Mark.ofElement registry element)).length =
          middle.size := by
        rw [List.length_append, aligned, records.size]
      obtain ⟨later, recordsRest, stand⟩ := visitAll_records rest alignedRest visitedRest
      rw [elements_ofAll_cons, ← List.append_assoc]
      refine ⟨log ++ later, records.trans (by simp) aligned recordsRest, .cons ?_ stand⟩
      rw [elements_ofElement, ← aligned]
      simp

theorem visitParts_collects {owner : Nat} {label : String} {document built : Document}
    {gathered result : Gathered} {earlier : List Element} :
    (elements : List Element) → owner < document.size → earlier.length = document.size →
      visitParts registry owner label document gathered elements = .ok (built, result) →
      ∃ contributions log, Collects registry owner label document built earlier
          (Mark.elements (Mark.ofParts registry elements)) (elements.flatMap Entry.ofChild)
          contributions log ∧
        result = gathered.add contributions
  | [], _, _, done => by
      cases done
      rw [Mark.ofParts]
      exact ⟨[], [], ⟨.quiet rfl (by simp) (by simp), .nil, rfl⟩, by simp [Gathered.add]⟩
  | ⟨name, attributes, text, children⟩ :: rest, inside, aligned, done => by
      obtain ⟨middle, next, step, continued⟩ := visitParts_cons_ok done
      -- The entries of one child contribute; the rest goes on with more elements behind it.
      have stepped : ∃ contributions log, Collects registry owner label document middle earlier
          (Mark.elements (Mark.ofPart registry ⟨name, attributes, text, children⟩))
          (Entry.ofChild ⟨name, attributes, text, children⟩) contributions log ∧
          next = gathered.add contributions := by
        cases step with
        | subviews place visited =>
            obtain ⟨log, records, stand⟩ := visitAll_records children aligned visited
            rw [Mark.ofPart, place]
            exact ⟨_, log, subviews_collects inside place records stand⟩
        | @guide _ key identifier place added =>
            have none : Mark.elements (identifier.toList.map Mark.guide) = [] := by
              cases identifier <;> rfl
            rw [Mark.ofPart, place, none]
            exact ⟨_, [], guide_collects place added, Gathered.addValue_eq ..⟩
        | embedded place visited =>
            obtain ⟨log, records⟩ :=
              visit_records ⟨name, attributes, text, children⟩ aligned visited
            rw [elements_ofElement] at records
            rw [Mark.ofPart, place, elements_ofElement]
            exact ⟨_, log, embedded_collects inside aligned place records, Gathered.addValue_eq ..⟩
        | contents place =>
            obtain ⟨contributions, collects, gathers⟩ := contents_collects inside place
            rw [Mark.ofPart, place]
            exact ⟨contributions, _, collects, gathers⟩
      obtain ⟨contributions, log, collects, rfl⟩ := stepped
      have alignedRest : (earlier ++ Mark.elements (Mark.ofPart registry
          ⟨name, attributes, text, children⟩)).length = middle.size := by
        rw [List.length_append, aligned, collects.size]
      have insideRest : owner < middle.size := by
        rw [collects.size]
        omega
      obtain ⟨further, later, collectsRest, rfl⟩ :=
        visitParts_collects rest insideRest alignedRest continued
      rw [elements_ofParts_cons, List.flatMap_cons, Gathered.add_add]
      exact ⟨_, _, collects.trans inside aligned collectsRest, rfl⟩

end

theorem ofElement_records {document : Document} {root : Element}
    (built : ofElement registry root = .ok document) :
    ∃ log, Records registry none empty document [] (Mark.elements (outline registry root)) log := by
  unfold ofElement at built
  split at built
  · cases built
  · rename_i visitedDocument indices visited
    cases built
    have aligned : ([] : List Element).length = empty.size := rfl
    obtain ⟨log, records, _⟩ := visitAll_records (topLevel root) aligned visited
    rw [foldl_addRoot]
    exact ⟨log, records.size, records.kept, records.warnings, records.bounded, records.accounts⟩

end Xib.Document
