import Mathlib.Data.List.Nodup
import Xib.Swift.Scope

/-!
# Names are exact and do not collide

The names taken before an object are the reserved ones and those of earlier objects that have no
reserved identifier; the fixed names of the owner and of the first responder are reserved from the
start and add nothing. `LeastFree` says which name is the right one, without reference to how it is
searched for. That the search ends rests on numerals being distinct: among one more candidates than
names taken, one is free.
-/

namespace Xib

set_option autoImplicit false

namespace Swift

/-- The base if it is free, or else the base with the least number from two on that makes it so. -/
def LeastFree (taken : String → Prop) (base name : String) : Prop :=
  ¬taken base ∧ name = base ∨
    taken base ∧ ∃ number, 2 ≤ number ∧ name = base ++ toString number ∧ ¬taken name ∧
      ∀ smaller, 2 ≤ smaller → smaller < number → taken (base ++ toString smaller)

theorem LeastFree.free {taken : String → Prop} {base name : String}
    (least : LeastFree taken base name) : ¬taken name := by
  obtain ⟨free, rfl⟩ | ⟨_, number, _, _, free, _⟩ := least
  · exact free
  · exact free

theorem numeral_injective {first second : Nat} (same : toString first = toString second) :
    first = second := by
  have digits : Nat.toDigits 10 first = Nat.toDigits 10 second := by
    simpa [Nat.toString_eq_repr, Nat.toList_repr] using congrArg String.toList same
  calc first
    _ = Nat.ofDigitChars 10 (Nat.toDigits 10 first) 0 := Nat.ofDigitChars_ten_toDigits.symm
    _ = Nat.ofDigitChars 10 (Nat.toDigits 10 second) 0 := by rw [digits]
    _ = second := Nat.ofDigitChars_ten_toDigits

section FreeName

variable (taken : List String) (base : String)

def candidate (count : Nat) : String :=
  base ++ toString (count + 2)

theorem candidates_nodup (count : Nat) : ((List.range count).map (candidate base)).Nodup := by
  apply List.nodup_range.map
  intro first second same
  have numerals : toString (first + 2) = toString (second + 2) :=
    (String.append_right_inj base).mp same
  have equal := numeral_injective numerals
  omega

theorem exists_free_candidate :
    ∃ count ∈ List.range (taken.length + 1), candidate base count ∉ taken := by
  by_contra none
  have inside : (List.range (taken.length + 1)).map (candidate base) ⊆ taken := by
    intro name member
    obtain ⟨count, bounded, rfl⟩ := List.mem_map.mp member
    by_contra free
    exact none ⟨count, bounded, free⟩
  have short := (candidates_nodup base (taken.length + 1)).length_le_of_subset inside
  simp only [List.length_map, List.length_range] at short
  omega

theorem search_eq (counts : List Nat) :
    (counts.findSome? fun count =>
        let name := base ++ toString (count + 2)
        if taken.contains name then none else some name) =
      (counts.find? fun count => !taken.contains (candidate base count)).map (candidate base) := by
  induction counts with
  | nil => rfl
  | cons count rest ih =>
      have named : base ++ toString (count + 2) = candidate base count := rfl
      rw [List.findSome?_cons, ih, List.find?_cons]
      simp only [named]
      cases taken.contains (candidate base count) <;> rfl

/-- The search stops at the first candidate that is free, and there is one. -/
theorem freeName_of_mem (used : base ∈ taken) :
    ∃ count, freeName taken base = candidate base count ∧ candidate base count ∉ taken ∧
      ∀ smaller < count, candidate base smaller ∈ taken := by
  have contained : taken.contains base = true := by simpa using used
  rw [freeName, if_pos contained, search_eq]
  cases found : (List.range (taken.length + 1)).find?
      fun count => !taken.contains (candidate base count) with
  | none =>
      obtain ⟨count, bounded, free⟩ := exists_free_candidate taken base
      have blocked := List.find?_eq_none.mp found count bounded
      simp [free] at blocked
  | some count =>
      obtain ⟨free, _, blocked⟩ := List.find?_range_eq_some.mp found
      exact ⟨count, rfl, by simpa using free, by simpa using blocked⟩

theorem freeName_leastFree : LeastFree (· ∈ taken) base (freeName taken base) := by
  by_cases used : base ∈ taken
  · right
    obtain ⟨count, named, free, blocked⟩ := freeName_of_mem taken base used
    rw [named]
    refine ⟨used, count + 2, by omega, rfl, free, ?_⟩
    intro smaller low high
    have blocking := blocked (smaller - 2) (by omega)
    rw [candidate, Nat.sub_add_cancel low] at blocking
    exact blocking
  · left
    exact ⟨used, by simp [freeName, used]⟩

end FreeName

section Assigning

variable (ownerName : String)

theorem assignNames_length (taken : List String) (objects : List Object) :
    (assignNames ownerName taken objects).length = objects.length := by
  induction objects generalizing taken with
  | nil => rfl
  | cons object rest ih =>
      rw [assignNames]
      cases fixedName? ownerName object with
      | some name => simp [ih]
      | none => simp [ih]

/-- A name given to an object without a reserved identifier, before a position. -/
def GivenBefore (objects : List Object) (names : List String) (index : Nat) (name : String) :
    Prop :=
  ∃ earlier object, earlier < index ∧ objects[earlier]? = some object ∧
    fixedName? ownerName object = none ∧ names[earlier]? = some name

variable {ownerName}

theorem not_givenBefore_zero {objects : List Object} {names : List String} {name : String} :
    ¬GivenBefore ownerName objects names 0 name := by
  rintro ⟨earlier, _, before, _⟩
  omega

theorem givenBefore_cons {object : Object} {objects : List Object} {first name : String}
    {names : List String} {index : Nat} :
    GivenBefore ownerName (object :: objects) (first :: names) (index + 1) name ↔
      fixedName? ownerName object = none ∧ first = name ∨
        GivenBefore ownerName objects names index name := by
  constructor
  · rintro ⟨earlier, other, before, found, free, named⟩
    cases earlier with
    | zero =>
        simp only [List.getElem?_cons_zero, Option.some.injEq] at found named
        exact .inl ⟨by rw [found]; exact free, named⟩
    | succ earlier =>
        exact .inr ⟨earlier, other, by omega, by simpa using found, free, by simpa using named⟩
  · rintro (⟨free, rfl⟩ | ⟨earlier, other, before, found, free, named⟩)
    · exact ⟨0, object, by omega, rfl, free, rfl⟩
    · exact ⟨earlier + 1, other, by omega, by simpa using found, free, by simpa using named⟩

def RightName (ownerName : String) (taken : String → Prop) (object : Object) (name : String) :
    Prop :=
  match fixedName? ownerName object with
  | some fixed => name = fixed
  | none => LeastFree taken (baseName object) name

theorem RightName.congr {taken other : String → Prop} {object : Object} {name : String}
    (same : ∀ candidate, taken candidate ↔ other candidate)
    (right : RightName ownerName taken object name) : RightName ownerName other object name := by
  have equal : taken = other := funext fun candidate => propext (same candidate)
  rw [← equal]
  exact right

theorem assignNames_right (ownerName : String) (taken : List String) {objects : List Object}
    {index : Nat} {object : Object} (found : objects[index]? = some object) :
    ∃ name, (assignNames ownerName taken objects)[index]? = some name ∧
      RightName ownerName (fun candidate => candidate ∈ taken ∨
        GivenBefore ownerName objects (assignNames ownerName taken objects) index candidate)
        object name := by
  induction objects generalizing taken index with
  | nil => simp at found
  | cons first rest ih =>
      cases index with
      | zero =>
          cases found
          rw [assignNames]
          unfold RightName
          cases fixedName? ownerName object with
          | some name => exact ⟨name, rfl, rfl⟩
          | none =>
              refine ⟨_, rfl, ?_⟩
              simpa [not_givenBefore_zero] using freeName_leastFree taken (baseName object)
      | succ index =>
          have later : rest[index]? = some object := by simpa using found
          rw [assignNames]
          cases fixed : fixedName? ownerName first with
          | some fixedName =>
              obtain ⟨name, named, right⟩ := ih taken later
              refine ⟨name, by simpa using named, right.congr fun candidate => ?_⟩
              simp [givenBefore_cons, fixed]
          | none =>
              obtain ⟨name, named, right⟩ := ih (freeName taken (baseName first) :: taken) later
              refine ⟨name, by simpa using named, right.congr fun candidate => ?_⟩
              simp only [givenBefore_cons, fixed, true_and, List.mem_cons, ← or_assoc]
              rw [eq_comm, or_comm (a := candidate ∈ taken)]

end Assigning

end Swift

namespace Object

def IsUnreserved (object : Object) : Prop :=
  object.identifier ≠ some ownerIdentifier ∧ object.identifier ≠ some firstResponderIdentifier

theorem reserved_cases {object : Object} (fixed : ¬object.IsUnreserved) :
    object.identifier = some ownerIdentifier ∨
      object.identifier = some firstResponderIdentifier := by
  by_cases owner : object.identifier = some ownerIdentifier
  · exact .inl owner
  · exact .inr (by simpa [IsUnreserved, owner] using fixed)

end Object

def Document.UniqueIdentifiers (document : Document) : Prop :=
  ∀ first second object other, document.object? first = some object →
    document.object? second = some other → object.identifier = other.identifier →
    object.identifier.isSome = true → first = second

namespace Swift

section Document

variable {document : Document} {options : Options} {index : Nat} {object : Object}

theorem fixedName?_eq_none {ownerName : String} :
    fixedName? ownerName object = none ↔ object.IsUnreserved := by
  unfold fixedName? Object.IsUnreserved
  split
  · simp_all
  · split <;> simp_all

/-- What is taken when an object gets its name: the reserved names, and those of the objects before
it whose identifiers are not reserved. -/
def TakenBefore (document : Document) (options : Options) (index : Nat) (name : String) : Prop :=
  name ∈ reserved options.ownerName ∨
    ∃ earlier object, earlier < index ∧ document.object? earlier = some object ∧
      object.IsUnreserved ∧ (Scope.initial document options).nameOf earlier = name

theorem names_getElem? (options : Options) (found : document.object? index = some object) :
    (names document options.ownerName)[index]? =
      some ((Scope.initial document options).nameOf index) := by
  obtain ⟨name, named, _⟩ :=
    assignNames_right options.ownerName (reserved options.ownerName) found
  have known : (names document options.ownerName)[index]? = some name := named
  simp [Scope.nameOf, Scope.initial, known]

theorem initial_rightName (options : Options) (found : document.object? index = some object) :
    RightName options.ownerName (TakenBefore document options index) object
      ((Scope.initial document options).nameOf index) := by
  obtain ⟨name, named, right⟩ :=
    assignNames_right options.ownerName (reserved options.ownerName) found
  have same : some ((Scope.initial document options).nameOf index) = some name :=
    (names_getElem? options found).symm.trans named
  rw [Option.some.inj same]
  apply right.congr
  intro candidate
  apply or_congr_right
  constructor
  · rintro ⟨earlier, other, before, there, free, given⟩
    have known := (names_getElem? options there).symm.trans given
    exact ⟨earlier, other, before, there, fixedName?_eq_none.mp free, Option.some.inj known⟩
  · rintro ⟨earlier, other, before, there, free, rfl⟩
    exact ⟨earlier, other, before, there, fixedName?_eq_none.mpr free, names_getElem? options there⟩

theorem nameOf_owner (options : Options) (found : document.object? index = some object)
    (owner : object.identifier = some ownerIdentifier) :
    (Scope.initial document options).nameOf index = options.ownerName := by
  have right := initial_rightName options found
  simpa [RightName, fixedName?, owner] using right

theorem nameOf_firstResponder (options : Options) (found : document.object? index = some object)
    (responder : object.identifier = some firstResponderIdentifier) :
    (Scope.initial document options).nameOf index = firstResponderName := by
  have right := initial_rightName options found
  have different : firstResponderIdentifier ≠ ownerIdentifier := by decide
  simpa [RightName, fixedName?, responder, different] using right

theorem nameOf_unreserved (options : Options) (found : document.object? index = some object)
    (free : object.IsUnreserved) :
    LeastFree (TakenBefore document options index) (baseName object)
      ((Scope.initial document options).nameOf index) := by
  have right := initial_rightName options found
  rw [RightName, fixedName?_eq_none.mpr free] at right
  exact right

theorem nameOf_not_reserved (options : Options) (found : document.object? index = some object)
    (free : object.IsUnreserved) :
    (Scope.initial document options).nameOf index ∉ reserved options.ownerName := by
  intro taken
  exact (nameOf_unreserved options found free).free (.inl taken)

theorem nameOf_reserved (options : Options) (found : document.object? index = some object)
    (fixed : ¬object.IsUnreserved) :
    (Scope.initial document options).nameOf index ∈ reserved options.ownerName := by
  obtain owner | responder := Object.reserved_cases fixed
  · rw [nameOf_owner options found owner]
    exact List.mem_cons_self
  · rw [nameOf_firstResponder options found responder]
    exact List.mem_cons_of_mem _ List.mem_cons_self

/-- Objects that share a fixed name share the identifier that fixes it. -/
theorem identifier_eq_of_fixed {other : Nat} {second : Object}
    (distinct : options.ownerName ≠ firstResponderName)
    (found : document.object? index = some object) (fixed : ¬object.IsUnreserved)
    (there : document.object? other = some second) (otherFixed : ¬second.IsUnreserved)
    (same : (Scope.initial document options).nameOf index =
      (Scope.initial document options).nameOf other) :
    object.identifier = second.identifier ∧ object.identifier.isSome = true := by
  obtain owner | responder := Object.reserved_cases fixed
  · obtain otherOwner | otherResponder := Object.reserved_cases otherFixed
    · simp [owner, otherOwner]
    · rw [nameOf_owner options found owner,
        nameOf_firstResponder options there otherResponder] at same
      exact absurd same distinct
  · obtain otherOwner | otherResponder := Object.reserved_cases otherFixed
    · rw [nameOf_firstResponder options found responder,
        nameOf_owner options there otherOwner] at same
      exact absurd same.symm distinct
    · simp [responder, otherResponder]

theorem nameOf_ne_of_lt {other : Nat} {second : Object}
    (distinct : options.ownerName ≠ firstResponderName) (unique : document.UniqueIdentifiers)
    (found : document.object? index = some object) (there : document.object? other = some second)
    (before : index < other) :
    (Scope.initial document options).nameOf index ≠
      (Scope.initial document options).nameOf other := by
  intro same
  by_cases free : object.IsUnreserved
  · by_cases otherFree : second.IsUnreserved
    · exact (nameOf_unreserved options there otherFree).free
        (.inr ⟨index, object, before, found, free, same⟩)
    · have taken := nameOf_reserved options there otherFree
      rw [← same] at taken
      exact nameOf_not_reserved options found free taken
  · by_cases otherFree : second.IsUnreserved
    · have taken := nameOf_reserved options found free
      rw [same] at taken
      exact nameOf_not_reserved options there otherFree taken
    · obtain ⟨identifiers, carried⟩ :=
        identifier_eq_of_fixed distinct found free there otherFree same
      have equal := unique index other object second found there identifiers carried
      omega

theorem names_nodup (distinct : options.ownerName ≠ firstResponderName)
    (unique : document.UniqueIdentifiers) : (names document options.ownerName).Nodup := by
  rw [List.Nodup, List.pairwise_iff_getElem]
  intro first second firstBounded secondBounded before same
  have length : (names document options.ownerName).length = document.objects.length :=
    assignNames_length options.ownerName _ _
  have found : document.object? first = some (document.objects[first]) :=
    List.getElem?_eq_getElem (length ▸ firstBounded)
  have there : document.object? second = some (document.objects[second]) :=
    List.getElem?_eq_getElem (length ▸ secondBounded)
  have firstName := names_getElem? options found
  have secondName := names_getElem? options there
  rw [List.getElem?_eq_getElem firstBounded] at firstName
  rw [List.getElem?_eq_getElem secondBounded] at secondName
  apply nameOf_ne_of_lt distinct unique found there before
  rw [← Option.some.inj firstName, ← Option.some.inj secondName]
  exact same

end Document

/-- Which name every object has, for any document and options: the fixed one of its identifier, or
the least that is free after the reserved names and the earlier objects. So no other object has a
reserved name, and names are distinct where identifiers are. -/
theorem every_name_exact (document : Document) (options : Options) :
    let scope := Scope.initial document options
    scope.names.length = document.size ∧
    (∀ index object, document.object? index = some object →
      (object.identifier = some ownerIdentifier → scope.nameOf index = options.ownerName) ∧
      (object.identifier = some firstResponderIdentifier →
        scope.nameOf index = firstResponderName) ∧
      (object.IsUnreserved →
        LeastFree (TakenBefore document options index) (baseName object) (scope.nameOf index) ∧
        scope.nameOf index ∉ reserved options.ownerName)) ∧
    (options.ownerName ≠ firstResponderName → document.UniqueIdentifiers →
      scope.names.Nodup) := by
  intro scope
  refine ⟨assignNames_length options.ownerName _ _, ?_, names_nodup⟩
  intro index object found
  refine ⟨nameOf_owner options found, nameOf_firstResponder options found, ?_⟩
  intro free
  exact ⟨nameOf_unreserved options found free, nameOf_not_reserved options found free⟩

def clashingDocument : Document where
  objects :=
    [{ Object.bare "placeholder" .placeholder with identifier := some "-1" },
      { Object.bare "view" .view with index := 1 },
      { Object.bare "view" .view with index := 2, userLabel := some "View 2" },
      { Object.bare "view" .view with index := 3 },
      { Object.bare "switch" .switch with index := 4 }]
  roots := [0, 1, 2, 3, 4]
  identifiers := Table.empty.insert "-1" 0
  guides := .empty
  warnings := []

theorem clashingDocument_unique : clashingDocument.UniqueIdentifiers := by
  have only : ∀ index object, clashingDocument.object? index = some object →
      object.identifier.isSome = true → index = 0 := by
    intro index object found carried
    rcases index with _ | _ | _ | _ | _ | index <;> cases found
    · rfl
    all_goals cases carried
  intro first second object other found there same carried
  rw [only first object found carried, only second other there (same ▸ carried)]

theorem clashingDocument_names_exact :
    let scope := Scope.initial clashingDocument .standard
    scope.names = ["fileOwner", "view", "view2", "view3", "switch2"] ∧
    (∃ view, clashingDocument.object? 3 = some view ∧ view.IsUnreserved ∧
      LeastFree (TakenBefore clashingDocument .standard 3) "view" "view3") ∧
    Options.standard.ownerName ≠ firstResponderName ∧ clashingDocument.UniqueIdentifiers ∧
    scope.names.Nodup := by
  intro scope
  have known : scope.names = ["fileOwner", "view", "view2", "view3", "switch2"] := by
    decide +kernel
  obtain ⟨_, named, distinct⟩ := every_name_exact clashingDocument .standard
  have different : Options.standard.ownerName ≠ firstResponderName := by decide
  refine ⟨known, ⟨_, rfl, ?_, ?_⟩, different, clashingDocument_unique,
    distinct different clashingDocument_unique⟩
  · exact ⟨by decide, by decide⟩
  · have least := ((named 3 _ rfl).2.2 ⟨by decide, by decide⟩).1
    have base : baseName { Object.bare "view" .view with index := 3 } = "view" := by decide +kernel
    have name : scope.nameOf 3 = "view3" := by
      rw [Scope.nameOf, known]
      rfl
    rw [base, name] at least
    exact least

end Swift

end Xib
