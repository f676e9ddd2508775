import Xib.Document

/-!
# Preorder forests

Objects form a forest when each one is followed at once by everything inside it. The relation
`Forest` says this of a stretch of objects that starts at a given position; it is closed under
appending, so a build can keep it while objects that contain the stretch are still unfinished.
Everything a finished document promises about positions follows from it.
-/

namespace Xib

set_option autoImplicit false

def Auxiliary.embedded? : Auxiliary → Option Nat
  | .embedded _ object => some object
  | _ => none

namespace Object

def embedded (object : Object) : List Nat :=
  object.auxiliaries.filterMap Auxiliary.embedded?

/-- Positions of everything an object directly contains. -/
def owned (object : Object) : List Nat :=
  object.children ++ object.embedded

end Object

/-- Subviews and embedded objects may alternate; together they are all that is contained. -/
structure Owns (children embedded positions : List Nat) : Prop where
  ordered : children.Sublist positions
  complete : (children ++ embedded).Perm positions

/-- A stretch of objects in preorder, from a position on, each with its position as its index. The
topmost ones, whose positions are listed, have a common parent. -/
inductive Forest : (parent : Option Nat) → (start : Nat) → List Object → List Nat → Prop where
  | nil {parent : Option Nat} {start : Nat} : Forest parent start [] []
  | cons {parent : Option Nat} {start : Nat} {object : Object} {inner rest : List Object}
      {owned others : List Nat}
      (numbered : object.index = start) (child : object.parent = parent)
      (owns : Owns object.children object.embedded owned)
      (inside : Forest (some start) (start + 1) inner owned)
      (beside : Forest parent (start + 1 + inner.length) rest others) :
      Forest parent start (object :: (inner ++ rest)) (start :: others)

namespace Forest

variable {parent : Option Nat} {start : Nat} {objects : List Object} {tops : List Nat}

theorem single {object : Object} {inner : List Object} {owned : List Nat}
    (numbered : object.index = start) (child : object.parent = parent)
    (owns : Owns object.children object.embedded owned)
    (inside : Forest (some start) (start + 1) inner owned) :
    Forest parent start (object :: inner) [start] := by
  have whole : Forest parent start (object :: (inner ++ [])) [start] :=
    cons numbered child owns inside .nil
  simpa using whole

theorem append {later : List Object} {laterTops : List Nat}
    (first : Forest parent start objects tops)
    (second : Forest parent (start + objects.length) later laterTops) :
    Forest parent start (objects ++ later) (tops ++ laterTops) := by
  induction first with
  | nil => simpa using second
  | @cons parent start object inner rest owned others numbered child owns inside _ _ ih =>
      have shifted : start + (object :: (inner ++ rest)).length =
          start + 1 + inner.length + rest.length := by
        simp only [List.length_cons, List.length_append]
        omega
      rw [shifted] at second
      have joined := cons numbered child owns inside (ih second)
      simpa using joined

theorem tops_bounded (forest : Forest parent start objects tops) :
    ∀ top ∈ tops, start ≤ top ∧ top < start + objects.length := by
  induction forest with
  | nil => simp
  | cons _ _ _ _ _ _ ih =>
      intro top member
      simp only [List.length_cons, List.length_append]
      rcases List.mem_cons.mp member with same | later
      · omega
      · have bounds := ih top later
        omega

theorem tops_increasing (forest : Forest parent start objects tops) :
    tops.Pairwise (· < ·) := by
  induction forest with
  | nil => exact List.Pairwise.nil
  | cons _ _ _ _ beside _ ih =>
      refine List.Pairwise.cons ?_ ih
      intro top member
      have bounds := beside.tops_bounded top member
      omega

/-- The numbered objects of a stretch: its first object, what that contains, and the rest. -/
private theorem mem_numbered {object : Object} {inner rest : List Object} {entry : Object × Nat} :
    entry ∈ (object :: (inner ++ rest)).zipIdx start ↔
      entry = (object, start) ∨ entry ∈ inner.zipIdx (start + 1) ∨
        entry ∈ rest.zipIdx (start + 1 + inner.length) := by
  rw [List.zipIdx_cons, List.zipIdx_append, List.mem_cons, List.mem_append]

private theorem numbered_bounds {object : Object} {index : Nat}
    (member : (object, index) ∈ objects.zipIdx start) :
    start ≤ index ∧ index < start + objects.length :=
  ⟨List.le_snd_of_mem_zipIdx member, List.snd_lt_add_of_mem_zipIdx member⟩

theorem index_eq (forest : Forest parent start objects tops) {object : Object} {index : Nat}
    (member : (object, index) ∈ objects.zipIdx start) : object.index = index := by
  induction forest with
  | nil => simp at member
  | cons numbered _ _ _ _ insideIndex besideIndex =>
      rcases mem_numbered.mp member with same | within | after
      · cases same
        exact numbered
      · exact insideIndex within
      · exact besideIndex after

/-- An object of the stretch is topmost, or its parent comes earlier in the stretch. -/
theorem parent_cases (forest : Forest parent start objects tops) {object : Object} {index : Nat}
    (member : (object, index) ∈ objects.zipIdx start) :
    (index ∈ tops ∧ object.parent = parent) ∨
      (index ∉ tops ∧ ∃ above, object.parent = some above ∧ start ≤ above ∧ above < index) := by
  induction forest with
  | nil => simp at member
  | @cons parent start first inner rest _ others _ child _ inside beside insideCases besideCases =>
      have othersBounds := beside.tops_bounded
      rcases mem_numbered.mp member with same | within | after
      · cases same
        exact .inl ⟨List.mem_cons_self, child⟩
      · have bounds := numbered_bounds within
        right
        constructor
        · intro top
          rcases List.mem_cons.mp top with same | later
          · omega
          · have besideBounds := othersBounds index later
            omega
        · rcases insideCases within with ⟨_, direct⟩ | ⟨_, above, deeper, low, high⟩
          · exact ⟨start, direct, Nat.le_refl _, bounds.1⟩
          · exact ⟨above, deeper, by omega, high⟩
      · have bounds := numbered_bounds after
        rcases besideCases after with ⟨top, direct⟩ | ⟨notTop, above, deeper, low, high⟩
        · exact .inl ⟨List.mem_cons_of_mem _ top, direct⟩
        · right
          constructor
          · intro top
            rcases List.mem_cons.mp top with same | later
            · omega
            · exact notTop later
          · exact ⟨above, deeper, by omega, high⟩

/-- The parent of an object comes before it, in the stretch unless the object is topmost. -/
private theorem parent_earlier (forest : Forest parent start objects tops) {bound : Nat}
    (before : ∀ above ∈ parent, above < bound) (bounded : bound ≤ start) {object : Object}
    {index above : Nat} (member : (object, index) ∈ objects.zipIdx start)
    (direct : object.parent = some above) :
    above < index ∧ (above < bound ∨ start ≤ above) := by
  have bounds := numbered_bounds member
  rcases forest.parent_cases member with ⟨_, top⟩ | ⟨_, found, deeper, low, high⟩
  · have earlier := before above (top.symm.trans direct)
    exact ⟨by omega, .inl earlier⟩
  · have same : found = above := Option.some.inj (deeper.symm.trans direct)
    subst same
    exact ⟨high, .inr low⟩

/-- What an object contains comes after it, inside the stretch. -/
theorem owned_bounded (forest : Forest parent start objects tops) {object : Object} {index : Nat}
    (member : (object, index) ∈ objects.zipIdx start) :
    ∀ position ∈ object.owned, index < position ∧ position < start + objects.length := by
  induction forest with
  | nil => simp at member
  | @cons parent start first inner rest owned _ _ _ owns inside _ insideBounds besideBounds =>
      intro position contained
      simp only [List.length_cons, List.length_append]
      rcases mem_numbered.mp member with same | within | after
      · cases same
        have bounds := inside.tops_bounded position (owns.complete.mem_iff.mp contained)
        omega
      · have bounds := insideBounds within position contained
        omega
      · have bounds := besideBounds after position contained
        omega

/-- An object contains each position at most once, its subviews in order. -/
theorem owned_distinct (forest : Forest parent start objects tops) {object : Object} {index : Nat}
    (member : (object, index) ∈ objects.zipIdx start) :
    object.owned.Nodup ∧ object.children.Pairwise (· < ·) := by
  induction forest with
  | nil => simp at member
  | cons _ _ owns inside _ insideDistinct besideDistinct =>
      rcases mem_numbered.mp member with same | within | after
      · cases same
        have increasing := inside.tops_increasing
        have distinct := increasing.imp fun less => Nat.ne_of_lt less
        exact ⟨owns.complete.nodup_iff.mpr distinct, increasing.sublist owns.ordered⟩
      · exact insideDistinct within
      · exact besideDistinct after

private theorem self_before_inside : ∀ above ∈ some start, above < start + 1 := by
  intro above same
  cases same
  exact Nat.lt_succ_self start

section Cons

/-! A stretch splits into its first object, what that contains, and the rest. The following facts
say how containment and parents behave across these parts. -/

variable {first object owner : Object} {inner rest : List Object} {owned others : List Nat}
  {index holder stop : Nat}

private theorem mem_owned_iff_of_le (forest : Forest parent start objects tops)
    (before : ∀ above ∈ parent, above < start) (member : (object, index) ∈ objects.zipIdx start)
    (holding : (owner, holder) ∈ objects.zipIdx start) (early : index ≤ holder) :
    index ∈ owner.owned ↔ object.parent = some holder := by
  constructor
  · intro contained
    have later := (forest.owned_bounded holding index contained).1
    omega
  · intro direct
    have earlier := (forest.parent_earlier before (Nat.le_refl _) member direct).1
    omega

private theorem mem_first_owned_iff (owns : Owns first.children first.embedded owned)
    (inside : Forest (some start) (start + 1) inner owned)
    (within : (object, index) ∈ inner.zipIdx (start + 1)) :
    index ∈ first.owned ↔ object.parent = some start := by
  rw [Object.owned, owns.complete.mem_iff]
  rcases inside.parent_cases within with ⟨top, direct⟩ | ⟨notTop, above, deeper, low, _⟩
  · simp [top, direct]
  · have different : above ≠ start := by omega
    simp [notTop, deeper, different]

/-- The parent of an object after the first tree is outside that tree. -/
private theorem parent_outside (beside : Forest parent (start + 1 + inner.length) rest others)
    (before : ∀ above ∈ parent, above < start) {above : Nat}
    (after : (object, index) ∈ rest.zipIdx (start + 1 + inner.length))
    (direct : object.parent = some above) : above < start ∨ start + 1 + inner.length ≤ above :=
  (beside.parent_earlier before (by omega) after direct).2

private theorem mem_owned_iff_across (tree : Forest parent start (first :: inner) [start])
    (beside : Forest parent (start + 1 + inner.length) rest others)
    (before : ∀ above ∈ parent, above < start)
    (holding : (owner, holder) ∈ (first :: inner).zipIdx start)
    (after : (object, index) ∈ rest.zipIdx (start + 1 + inner.length)) :
    index ∈ owner.owned ↔ object.parent = some holder := by
  have bounds := numbered_bounds after
  have holderBounds := numbered_bounds holding
  simp only [List.length_cons] at holderBounds
  constructor
  · intro contained
    have near := (tree.owned_bounded holding index contained).2
    simp only [List.length_cons] at near
    omega
  · intro direct
    have far := parent_outside beside before after direct
    omega

end Cons

/-- An object contains exactly the objects that have it as their parent. -/
theorem mem_owned_iff (forest : Forest parent start objects tops)
    (before : ∀ above ∈ parent, above < start) {object owner : Object} {index holder : Nat}
    (member : (object, index) ∈ objects.zipIdx start)
    (holding : (owner, holder) ∈ objects.zipIdx start) :
    index ∈ owner.owned ↔ object.parent = some holder := by
  induction forest with
  | nil => simp at member
  | @cons parent start first inner rest owned others numbered child owns inside beside
      insideIff besideIff =>
      have whole := cons numbered child owns inside beside
      have tree := single numbered child owns inside
      rcases mem_numbered.mp member with same | within | after
      · cases same
        exact whole.mem_owned_iff_of_le before member holding (numbered_bounds holding).1
      · rcases mem_numbered.mp holding with same | holdingWithin | holdingAfter
        · cases same
          exact mem_first_owned_iff owns inside within
        · exact insideIff self_before_inside within holdingWithin
        · have bounds := numbered_bounds within
          have besideBounds := numbered_bounds holdingAfter
          exact whole.mem_owned_iff_of_le before member holding (by omega)
      · rcases mem_numbered.mp holding with same | holdingWithin | holdingAfter
        · cases same
          exact mem_owned_iff_across tree beside before List.mem_cons_self after
        · apply mem_owned_iff_across tree beside before _ after
          exact List.mem_cons_of_mem _ holdingWithin
        · have besideBefore : ∀ above ∈ parent, above < start + 1 + inner.length :=
            fun above outer => Nat.lt_of_lt_of_le (before above outer) (by omega)
          exact besideIff besideBefore after holdingAfter

/-- Where the inside of an object stops: every object up to there has its parent at or after the
first, and no object from there on has its parent in between. -/
def StopsAt (entries : List (Object × Nat)) (index stop : Nat) : Prop :=
  ∀ object position, (object, position) ∈ entries →
    (index < position → position < stop →
      ∃ above, object.parent = some above ∧ index ≤ above ∧ above < position) ∧
    (stop ≤ position → ∀ above, object.parent = some above → above < index ∨ stop ≤ above)

section Stop

variable {first : Object} {inner rest : List Object} {owned others : List Nat} {index stop : Nat}

private theorem stopsAt_first (inside : Forest (some start) (start + 1) inner owned)
    (beside : Forest parent (start + 1 + inner.length) rest others)
    (before : ∀ above ∈ parent, above < start) :
    StopsAt ((first :: (inner ++ rest)).zipIdx start) start (start + 1 + inner.length) := by
  intro object position numbered
  rcases mem_numbered.mp numbered with same | within | after
  · cases same
    exact ⟨fun later => absurd later (Nat.lt_irrefl _), fun far => by omega⟩
  · have bounds := numbered_bounds within
    refine ⟨fun _ _ => ?_, fun far => by omega⟩
    rcases inside.parent_cases within with ⟨_, direct⟩ | ⟨_, above, deeper, low, high⟩
    · exact ⟨start, direct, Nat.le_refl _, bounds.1⟩
    · exact ⟨above, deeper, by omega, high⟩
  · have bounds := numbered_bounds after
    exact ⟨fun _ near => by omega, fun _ above => parent_outside beside before after⟩

private theorem stopsAt_inside (beside : Forest parent (start + 1 + inner.length) rest others)
    (before : ∀ above ∈ parent, above < start) (later : start < index) (nonempty : index < stop)
    (bounded : stop ≤ start + 1 + inner.length)
    (stops : StopsAt (inner.zipIdx (start + 1)) index stop) :
    StopsAt ((first :: (inner ++ rest)).zipIdx start) index stop := by
  intro object position numbered
  rcases mem_numbered.mp numbered with same | within | after
  · cases same
    exact ⟨fun behind => by omega, fun far => by omega⟩
  · exact stops object position within
  · have bounds := numbered_bounds after
    refine ⟨fun _ near => by omega, fun _ above direct => ?_⟩
    have far := parent_outside beside before after direct
    omega

private theorem stopsAt_beside (later : start + 1 + inner.length ≤ index) (nonempty : index < stop)
    (stops : StopsAt (rest.zipIdx (start + 1 + inner.length)) index stop) :
    StopsAt ((first :: (inner ++ rest)).zipIdx start) index stop := by
  intro object position numbered
  rcases mem_numbered.mp numbered with same | within | after
  · cases same
    exact ⟨fun behind => by omega, fun far => by omega⟩
  · have bounds := numbered_bounds within
    exact ⟨fun behind => by omega, fun far => by omega⟩
  · exact stops object position after

end Stop

theorem exists_stop (forest : Forest parent start objects tops)
    (before : ∀ above ∈ parent, above < start) {top : Object} {index : Nat}
    (member : (top, index) ∈ objects.zipIdx start) :
    ∃ stop, index < stop ∧ stop ≤ start + objects.length ∧
      StopsAt (objects.zipIdx start) index stop := by
  induction forest with
  | nil => simp at member
  | @cons parent start first inner rest _ _ _ _ _ inside beside insideStop besideStop =>
      simp only [List.length_cons, List.length_append]
      rcases mem_numbered.mp member with same | within | after
      · cases same
        exact ⟨_, by omega, by omega, stopsAt_first inside beside before⟩
      · rcases insideStop self_before_inside within with ⟨stop, nonempty, bounded, stops⟩
        have later := (numbered_bounds within).1
        exact ⟨stop, nonempty, by omega,
          stopsAt_inside beside before later nonempty (by omega) stops⟩
      · have besideBefore : ∀ above ∈ parent, above < start + 1 + inner.length := fun above outer =>
          Nat.lt_of_lt_of_le (before above outer) (by omega)
        rcases besideStop besideBefore after with ⟨stop, nonempty, bounded, stops⟩
        have later := (numbered_bounds after).1
        exact ⟨stop, nonempty, by omega, stopsAt_beside later nonempty stops⟩

end Forest

namespace Document

inductive Inside (document : Document) (top : Nat) : Nat → Prop where
  | direct {index : Nat} {object : Object} (found : document.object? index = some object)
      (child : object.parent = some top) : Inside document top index
  | deeper {index above : Nat} {object : Object} (found : document.object? index = some object)
      (child : object.parent = some above) (within : Inside document top above) :
      Inside document top index

/-- Objects carry their positions. All positions that a document stores are positions of its
objects, and its objects are the nodes of a forest in preorder. -/
structure IsPreorder (document : Document) : Prop where
  index_eq : ∀ index object, document.object? index = some object → object.index = index
  owned_bounded : ∀ index object, document.object? index = some object →
    ∀ position ∈ object.owned, position < document.size
  guides_bounded : ∀ entry ∈ document.guides.entries, entry.2.owner < document.size
  identifiers_bounded : ∀ entry ∈ document.identifiers.entries, entry.2 < document.size
  roots_bounded : ∀ root ∈ document.roots, root < document.size
  roots_increasing : document.roots.Pairwise (· < ·)
  mem_roots : ∀ index object, document.object? index = some object →
    (index ∈ document.roots ↔ object.parent = none)
  parent_earlier : ∀ index object, document.object? index = some object →
    ∀ above, object.parent = some above → above < index
  /-- An object is contained once in its parent and in no other object. -/
  owned_once : ∀ index object, document.object? index = some object →
    ∀ holder owner, document.object? holder = some owner →
      owner.owned.count index = if object.parent = some holder then 1 else 0
  children_increasing : ∀ index object, document.object? index = some object →
    object.children.Pairwise (· < ·)
  inside_interval : ∀ index < document.size, ∃ stop, index < stop ∧ stop ≤ document.size ∧
    ∀ position, document.Inside index position ↔ index < position ∧ position < stop

structure TablesBounded (document : Document) : Prop where
  identifiers : ∀ entry ∈ document.identifiers.entries, entry.2 < document.size
  guides : ∀ entry ∈ document.guides.entries, entry.2.owner < document.size

variable {document : Document}

theorem object?_eq_some_iff {index : Nat} {object : Object} :
    document.object? index = some object ↔ (object, index) ∈ document.objects.zipIdx := by
  rw [List.mem_zipIdx_iff_getElem?]
  rfl

theorem inside_iff_of_stop (forest : Forest none 0 document.objects document.roots)
    {index stop : Nat} (later : index < stop) (bounded : stop ≤ document.size)
    (stops : Forest.StopsAt document.objects.zipIdx index stop) (position : Nat) :
    document.Inside index position ↔ index < position ∧ position < stop := by
  have earlier : ∀ {position above object}, document.object? position = some object →
      object.parent = some above → above < position := by
    intro position above object found child
    exact (forest.parent_earlier (by simp) (Nat.le_refl 0) (object?_eq_some_iff.mp found) child).1
  constructor
  · intro inside
    induction inside with
    | @direct position object found child =>
        have after := earlier found child
        have beyond := (stops object position (object?_eq_some_iff.mp found)).2
        refine ⟨after, Nat.lt_of_not_le fun far => ?_⟩
        have outside := beyond far index child
        omega
    | @deeper position above object found child _ between =>
        have after := earlier found child
        have beyond := (stops object position (object?_eq_some_iff.mp found)).2
        refine ⟨by omega, Nat.lt_of_not_le fun far => ?_⟩
        have outside := beyond far above child
        omega
  · -- Going up from a position inside the stretch ends at its first object.
    induction position using Nat.strongRecOn with
    | ind position climb =>
        rintro ⟨after, near⟩
        have exists_object : position < document.objects.length := Nat.lt_of_lt_of_le near bounded
        have found : document.object? position = some document.objects[position] :=
          List.getElem?_eq_getElem exists_object
        have member := object?_eq_some_iff.mp found
        rcases (stops _ position member).1 after near with ⟨above, child, low, high⟩
        rcases Nat.lt_or_eq_of_le low with between | same
        · exact .deeper found child (climb above high ⟨between, by omega⟩)
        · exact .direct found (same ▸ child)

theorem isPreorder_of_forest (forest : Forest none 0 document.objects document.roots)
    (tables : document.TablesBounded) : document.IsPreorder where
  index_eq := by
    intro index object found
    exact forest.index_eq (object?_eq_some_iff.mp found)
  owned_bounded := by
    intro index object found position contained
    have bounds := forest.owned_bounded (object?_eq_some_iff.mp found) position contained
    simpa [size] using bounds.2
  guides_bounded := tables.guides
  identifiers_bounded := tables.identifiers
  roots_bounded := by
    intro root member
    have bounds := forest.tops_bounded root member
    simpa [size] using bounds.2
  roots_increasing := forest.tops_increasing
  mem_roots := by
    intro index object found
    have member := object?_eq_some_iff.mp found
    rcases forest.parent_cases member with ⟨top, root⟩ | ⟨notTop, above, child, _⟩
    · simp [top, root]
    · simp [notTop, child]
  parent_earlier := by
    intro index object found above child
    exact (forest.parent_earlier (by simp) (Nat.le_refl 0) (object?_eq_some_iff.mp found) child).1
  owned_once := by
    intro index object found holder owner held
    have member := object?_eq_some_iff.mp found
    have holding := object?_eq_some_iff.mp held
    have contained := forest.mem_owned_iff (by simp) member holding
    have distinct := (forest.owned_distinct holding).1
    rw [distinct.count]
    simp only [contained]
  children_increasing := by
    intro index object found
    exact (forest.owned_distinct (object?_eq_some_iff.mp found)).2
  inside_interval := by
    intro index bounded
    have found : document.object? index = some document.objects[index] :=
      List.getElem?_eq_getElem bounded
    have member := object?_eq_some_iff.mp found
    rcases forest.exists_stop (by simp) member with ⟨stop, later, short, stops⟩
    have short : stop ≤ document.size := by simpa [size] using short
    exact ⟨stop, later, short, inside_iff_of_stop forest later short stops⟩

end Document

end Xib
