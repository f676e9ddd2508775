import Xib.Swift.Plan

/-!
# Passes over a document

A pass writes one block of lines for each declared object, last discovered first. So the lines of
an object stand together, and the objects of earlier blocks have higher positions.
-/

namespace Xib

set_option autoImplicit false

namespace Document

variable (document : Document)

theorem mem_generationOrder {index : Nat} :
    index ∈ document.generationOrder ↔ index < document.size := by
  rw [generationOrder, List.mem_reverse, List.mem_range]

theorem generationOrder_decreasing : document.generationOrder.Pairwise (· > ·) := by
  rw [generationOrder, List.pairwise_reverse]
  exact List.pairwise_lt_range

theorem generationOrder_nodup : document.generationOrder.Nodup :=
  document.generationOrder_decreasing.imp fun greater => Nat.ne_of_gt greater

theorem lt_size_of_object? {index : Nat} {object : Object}
    (found : document.object? index = some object) : index < document.size := by
  rcases List.getElem?_eq_some_iff.mp found with ⟨bounded, _⟩
  exact bounded

end Document

namespace Swift

variable {scope : Scope} {yield : Nat → Object → Yield}

/-- What a pass yields for one position: nothing if no object is declared there. -/
def yieldAt (scope : Scope) (yield : Nat → Object → Yield) (index : Nat) : Yield :=
  match scope.document.object? index with
  | none => .nothing
  | some object => if scope.isExcluded index then .nothing else yield index object

def blockAt (scope : Scope) (yield : Nat → Object → Yield) (index : Nat) : List Line :=
  (yieldAt scope yield index).statements.map (Line.mk index)

theorem pass_eq (scope : Scope) (yield : Nat → Object → Yield) (order : List Nat) :
    pass scope yield order =
      (order.flatMap (blockAt scope yield),
        order.flatMap fun index => (yieldAt scope yield index).warnings) := by
  induction order with
  | nil => rfl
  | cons index rest ih =>
      rw [pass, ih, List.flatMap_cons, List.flatMap_cons]
      cases found : scope.document.object? index with
      | none => simp [blockAt, yieldAt, found, Yield.nothing]
      | some object =>
          cases excluded : scope.isExcluded index with
          | true => simp [blockAt, yieldAt, found, excluded, Yield.nothing]
          | false => simp [blockAt, yieldAt, found, excluded]

theorem yieldAt_declared {index : Nat} {object : Object}
    (found : scope.document.object? index = some object)
    (declared : scope.isExcluded index = false) :
    yieldAt scope yield index = yield index object := by
  simp [yieldAt, found, declared]

theorem mem_blockAt {index : Nat} {line : Line} :
    line ∈ blockAt scope yield index ↔
      line.owner = index ∧ ∃ object, scope.document.object? index = some object ∧
        scope.isExcluded index = false ∧ line.statement ∈ (yield index object).statements := by
  rcases line with ⟨owner, statement⟩
  cases found : scope.document.object? index with
  | none => simp [blockAt, yieldAt, found, Yield.nothing]
  | some object =>
      cases excluded : scope.isExcluded index with
      | true => simp [blockAt, yieldAt, found, excluded, Yield.nothing]
      | false =>
          simp only [blockAt, yieldAt_declared found excluded, List.mem_map, Line.mk.injEq,
            Option.some.injEq, exists_eq_left', true_and]
          constructor
          · rintro ⟨written, member, same, rfl⟩
            exact ⟨same.symm, member⟩
          · rintro ⟨same, member⟩
            exact ⟨statement, member, same.symm, rfl⟩

def passLines (scope : Scope) (yield : Nat → Object → Yield) : List Line :=
  scope.document.generationOrder.flatMap (blockAt scope yield)

theorem mem_passLines {line : Line} :
    line ∈ passLines scope yield ↔
      ∃ object, scope.document.object? line.owner = some object ∧
        scope.isExcluded line.owner = false ∧
        line.statement ∈ (yield line.owner object).statements := by
  constructor
  · intro member
    rcases List.mem_flatMap.mp member with ⟨index, _, inside⟩
    rcases mem_blockAt.mp inside with ⟨rfl, written⟩
    exact written
  · rintro ⟨object, found, written⟩
    have bounded := scope.document.lt_size_of_object? found
    exact List.mem_flatMap.mpr ⟨line.owner, scope.document.mem_generationOrder.mpr bounded,
      mem_blockAt.mpr ⟨rfl, object, found, written⟩⟩

/-- Later lines belong to objects that were discovered earlier. -/
theorem passLines_owners (scope : Scope) (yield : Nat → Object → Yield) :
    (passLines scope yield).Pairwise fun first second => second.owner ≤ first.owner := by
  rw [passLines, List.pairwise_flatMap]
  constructor
  · intro index _
    have any : (blockAt scope yield index).Pairwise fun _ _ => True :=
      List.pairwise_of_forall fun _ _ => trivial
    apply any.imp_of_mem
    intro first second inFirst inSecond _
    have firstOwner := (mem_blockAt.mp inFirst).1
    have secondOwner := (mem_blockAt.mp inSecond).1
    omega
  · refine scope.document.generationOrder_decreasing.imp ?_
    intro earlier later greater first inFirst second inSecond
    have firstOwner := (mem_blockAt.mp inFirst).1
    have secondOwner := (mem_blockAt.mp inSecond).1
    omega

/-- The block of an object stands together, and no other line belongs to the object. -/
theorem passLines_split (scope : Scope) (yield : Nat → Object → Yield) {index : Nat}
    (bounded : index < scope.document.size) :
    ∃ before after, passLines scope yield = before ++ blockAt scope yield index ++ after ∧
      ∀ line ∈ before ++ after, line.owner ≠ index := by
  obtain ⟨higher, lower, split⟩ :=
    List.append_of_mem (scope.document.mem_generationOrder.mpr bounded)
  have distinct := scope.document.generationOrder_nodup
  rw [split, List.nodup_append] at distinct
  refine ⟨higher.flatMap (blockAt scope yield), lower.flatMap (blockAt scope yield), ?_, ?_⟩
  · rw [passLines, split]
    simp
  · intro line member
    rw [← List.flatMap_append] at member
    rcases List.mem_flatMap.mp member with ⟨other, inside, written⟩
    rw [(mem_blockAt.mp written).1]
    rintro rfl
    rcases List.mem_append.mp inside with before | after
    · exact distinct.2.2 other before other List.mem_cons_self rfl
    · exact (List.nodup_cons.mp distinct.2.1).1 after

theorem exists_of_declared {index : Nat} (declared : scope.isExcluded index = false) :
    ∃ object, scope.document.object? index = some object := by
  cases found : scope.document.object? index with
  | some object => exact ⟨object, rfl⟩
  | none => simp [Scope.isExcluded, found] at declared

def Scope.declared (scope : Scope) : List Nat :=
  scope.document.generationOrder.filter fun index => !scope.isExcluded index

theorem Scope.mem_declared {index : Nat} :
    index ∈ scope.declared ↔ scope.isExcluded index = false := by
  rw [declared, List.mem_filter, Document.mem_generationOrder, Bool.not_eq_true']
  apply and_iff_right_of_imp
  intro declared
  obtain ⟨object, found⟩ := exists_of_declared declared
  exact scope.document.lt_size_of_object? found

theorem Scope.declared_decreasing (scope : Scope) : scope.declared.Pairwise (· > ·) :=
  scope.document.generationOrder_decreasing.filter _

/-- What excluded objects do not contribute to can be taken over the declared ones. -/
theorem Scope.flatMap_declared {α : Type} (scope : Scope) {each : Nat → List α}
    (silent : ∀ index, scope.isExcluded index = true → each index = []) :
    scope.document.generationOrder.flatMap each = scope.declared.flatMap each := by
  unfold declared
  induction scope.document.generationOrder with
  | nil => rfl
  | cons index rest ih =>
      cases excluded : scope.isExcluded index with
      | true => simp [silent index excluded, excluded, ih]
      | false => simp [excluded, ih]

theorem yieldAt_excluded {index : Nat} (excluded : scope.isExcluded index = true) :
    yieldAt scope yield index = .nothing := by
  unfold yieldAt
  split
  · rfl
  · rw [if_pos excluded]

theorem passLines_eq_declared (scope : Scope) (yield : Nat → Object → Yield) :
    passLines scope yield = scope.declared.flatMap (blockAt scope yield) := by
  apply scope.flatMap_declared
  intro index excluded
  rw [blockAt, yieldAt_excluded excluded]
  rfl

theorem passWarnings_eq_declared (scope : Scope) (yield : Nat → Object → Yield) :
    (pass scope yield scope.document.generationOrder).2 =
      scope.declared.flatMap fun index => (yieldAt scope yield index).warnings := by
  rw [pass_eq]
  apply scope.flatMap_declared
  intro index excluded
  rw [yieldAt_excluded excluded]
  rfl

end Swift

end Xib
