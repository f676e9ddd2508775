import Xib.Proofs.Exclusion
import Xib.Swift.Code

/-!
# Resolving identifiers and referring to them

`Scope.resolve` says what an identifier stands for, `Scope.reference` the same unless that has no
declaration. They look into the same tables in a different order: a reference gives up on the
identifier of the first responder before it looks for a guide. So the two agree, in errors and in
targets, on every identifier but one: that of the first responder, where a guide of a declared object
has it and no object does.
-/

namespace Xib.Swift

set_option autoImplicit false

namespace Scope

def Undeclared (scope : Scope) : Target → Prop
  | .owner => False
  | .object index | .guide index _ => scope.isExcluded index = true
  | .firstResponder => True

def LeadsNowhere (scope : Scope) (identifier : String) : Prop :=
  identifier ≠ ownerIdentifier ∧
    ∃ target, scope.resolve identifier = .ok target ∧ scope.Undeclared target

/-- A guide of a declared object goes by the identifier of the first responder, and no object
does. -/
def HidesGuide (scope : Scope) (identifier : String) : Prop :=
  identifier = firstResponderIdentifier ∧ scope.document.find? identifier = none ∧
    ∃ guide, scope.document.guide? identifier = some guide ∧
      scope.isExcluded guide.owner = false

/-- The five sources of a meaning, with what both look-ups make of each. -/
inductive Source (scope : Scope) (identifier : String) : Prop where
  | owner (same : identifier = ownerIdentifier)
      (resolved : scope.resolve identifier = .ok .owner)
      (referred : scope.reference identifier = .ok (some .owner))
  | object (index : Nat) (other : identifier ≠ ownerIdentifier)
      (found : scope.document.find? identifier = some index)
      (resolved : scope.resolve identifier = .ok (.object index))
      (referred : scope.reference identifier =
        .ok (if scope.isExcluded index then none else some (.object index)))
  | guide (guide : Guide) (other : identifier ≠ ownerIdentifier)
      (noObject : scope.document.find? identifier = none)
      (found : scope.document.guide? identifier = some guide)
      (resolved : scope.resolve identifier = .ok (.guide guide.owner guide.key))
      (referred : scope.reference identifier =
        .ok (if identifier = firstResponderIdentifier ∨ scope.isExcluded guide.owner = true then
          none else some (.guide guide.owner guide.key)))
  | firstResponder (same : identifier = firstResponderIdentifier)
      (noObject : scope.document.find? identifier = none)
      (noGuide : scope.document.guide? identifier = none)
      (resolved : scope.resolve identifier = .ok .firstResponder)
      (referred : scope.reference identifier = .ok none)
  | unknown (notOwner : identifier ≠ ownerIdentifier)
      (notResponder : identifier ≠ firstResponderIdentifier)
      (noObject : scope.document.find? identifier = none)
      (noGuide : scope.document.guide? identifier = none)
      (resolved : scope.resolve identifier = .error (.danglingReference identifier))
      (referred : scope.reference identifier = .error (.danglingReference identifier))

theorem source (scope : Scope) (identifier : String) : Source scope identifier := by
  have referred := scope.reference_eq identifier
  by_cases owner : identifier = ownerIdentifier
  · rw [if_pos owner] at referred
    exact .owner owner (by rw [resolve, if_pos owner]) referred
  · rw [if_neg owner] at referred
    have resolved : scope.resolve identifier = _ := if_neg owner
    cases object : scope.document.find? identifier with
    | some index =>
        rw [object] at referred resolved
        exact .object index owner object resolved referred
    | none =>
        rw [object] at referred
        cases known : scope.document.guide? identifier with
        | some guide =>
            rw [object, known] at resolved
            refine .guide guide owner object known resolved ?_
            by_cases responder : identifier = firstResponderIdentifier
            · simpa only [responder, true_or, if_true] using referred
            · simpa only [responder, known, if_false, false_or] using referred
        | none =>
            rw [object, known] at resolved
            by_cases responder : identifier = firstResponderIdentifier
            · simp only [if_pos responder] at resolved referred
              exact .firstResponder responder object known resolved referred
            · simp only [if_neg responder, known] at resolved referred
              exact .unknown owner responder object known resolved referred

variable {scope : Scope} {identifier : String}

theorem resolve_error_iff {error : GenerationError} :
    scope.resolve identifier = .error error ↔
      error = .danglingReference identifier ∧ identifier ≠ ownerIdentifier ∧
        identifier ≠ firstResponderIdentifier ∧ scope.document.find? identifier = none ∧
        scope.document.guide? identifier = none := by
  cases scope.source identifier with
  | owner same resolved referred =>
      rw [resolved]
      simp [same]
  | object index other found resolved referred => simp [resolved, found]
  | guide guide other noObject found resolved referred => simp [resolved, found]
  | firstResponder same noObject noGuide resolved referred =>
      rw [resolved]
      simp [same]
  | unknown notOwner notResponder noObject noGuide resolved referred =>
      simp [resolved, notOwner, notResponder, noObject, noGuide, eq_comm]

theorem resolve_firstResponder_iff :
    scope.resolve identifier = .ok .firstResponder ↔
      identifier = firstResponderIdentifier ∧ scope.document.find? identifier = none ∧
        scope.document.guide? identifier = none := by
  have different : ownerIdentifier ≠ firstResponderIdentifier := by decide
  cases scope.source identifier with
  | owner same resolved referred =>
      rw [resolved]
      simp [same, different]
  | object index other found resolved referred => simp [resolved, found]
  | guide guide other noObject found resolved referred => simp [resolved, found]
  | firstResponder same noObject noGuide resolved referred =>
      exact iff_of_true resolved ⟨same, noObject, noGuide⟩
  | unknown notOwner notResponder noObject noGuide resolved referred =>
      simp [resolved, notResponder]

/-- A reference fails exactly as resolving does. -/
theorem reference_error_iff {error : GenerationError} :
    scope.reference identifier = .error error ↔ scope.resolve identifier = .error error := by
  cases scope.source identifier with
  | owner same resolved referred => simp [resolved, referred]
  | object index other found resolved referred => simp [resolved, referred]
  | guide guide other noObject found resolved referred => simp [resolved, referred]
  | firstResponder same noObject noGuide resolved referred => simp [resolved, referred]
  | unknown notOwner notResponder noObject noGuide resolved referred =>
      simp [resolved, referred]

/-- What is referred to is what the identifier stands for. -/
theorem resolve_of_reference {target : Target}
    (found : scope.reference identifier = .ok (some target)) :
    scope.resolve identifier = .ok target := by
  cases scope.source identifier with
  | owner same resolved referred => simp_all
  | object index other object resolved referred =>
      rw [referred] at found
      split at found
      · cases found
      · cases found
        exact resolved
  | guide guide other noObject known resolved referred =>
      rw [referred] at found
      split at found
      · cases found
      · cases found
        exact resolved
  | firstResponder same noObject noGuide resolved referred =>
      rw [referred] at found
      cases found
  | unknown notOwner notResponder noObject noGuide resolved referred =>
      rw [referred] at found
      cases found

theorem express_of_reference {code : String}
    (written : (scope.reference identifier).map (Option.map scope.express) = .ok (some code)) :
    (scope.resolve identifier).map scope.express = .ok code := by
  cases referred : scope.reference identifier with
  | error reason =>
      rw [referred] at written
      cases written
  | ok found =>
      rw [referred] at written
      cases found with
      | none => cases written
      | some target =>
          cases written
          rw [resolve_of_reference referred]
          rfl

/-- There is nothing to refer to exactly if the identifier leads nowhere, or its guide is hidden. -/
theorem reference_none_iff :
    scope.reference identifier = .ok none ↔
      scope.LeadsNowhere identifier ∨ scope.HidesGuide identifier := by
  have different : firstResponderIdentifier ≠ ownerIdentifier := by decide
  unfold LeadsNowhere HidesGuide
  cases scope.source identifier with
  | owner same resolved referred =>
      rw [referred]
      simp [same, different.symm]
  | object index other found resolved referred =>
      simp [resolved, referred, found, other, Undeclared]
  | guide guide other noObject found resolved referred =>
      simp only [resolved, referred, found, noObject, Undeclared]
      cases excluded : scope.isExcluded guide.owner <;> simp [excluded, other]
  | firstResponder same noObject noGuide resolved referred =>
      rw [resolved, referred, noGuide]
      simp [Undeclared, same, different]
  | unknown notOwner notResponder noObject noGuide resolved referred =>
      simp [resolved, referred, noGuide]

/-- What is hidden has a declaration that could be referred to. -/
theorem HidesGuide.not_leadsNowhere (hides : scope.HidesGuide identifier) :
    ¬scope.LeadsNowhere identifier := by
  obtain ⟨_, noObject, guide, found, declared⟩ := hides
  rintro ⟨other, target, resolved, undeclared⟩
  have stands : scope.resolve identifier = .ok (.guide guide.owner guide.key) := by
    rw [resolve, if_neg other, noObject, found]
  rw [stands] at resolved
  cases resolved
  rw [Undeclared, declared] at undeclared
  cases undeclared

end Scope

/-- For every scope and identifier: both look-ups fail together and say the same, a reference is
what the identifier stands for, and it is nothing exactly if that has no declaration, except where
the identifier of the first responder hides a guide. -/
theorem reference_agrees_unless_guide_hidden (scope : Scope) (identifier : String) :
    (∀ error, scope.reference identifier = .error error ↔
      scope.resolve identifier = .error error) ∧
    (∀ error, scope.resolve identifier = .error error ↔
      error = .danglingReference identifier ∧ identifier ≠ ownerIdentifier ∧
        identifier ≠ firstResponderIdentifier ∧ scope.document.find? identifier = none ∧
        scope.document.guide? identifier = none) ∧
    (∀ target, scope.reference identifier = .ok (some target) →
      scope.resolve identifier = .ok target) ∧
    (∀ code, (scope.reference identifier).map (Option.map scope.express) = .ok (some code) →
      (scope.resolve identifier).map scope.express = .ok code) ∧
    (scope.reference identifier = .ok none ↔
      scope.LeadsNowhere identifier ∨ scope.HidesGuide identifier) ∧
    ((scope.reference identifier = .ok none ↔ scope.LeadsNowhere identifier) ↔
      ¬scope.HidesGuide identifier) ∧
    (scope.resolve identifier = .ok .firstResponder ↔
      identifier = firstResponderIdentifier ∧ scope.document.find? identifier = none ∧
        scope.document.guide? identifier = none) ∧
    (scope.resolve ownerIdentifier).map scope.express = .ok scope.ownerName := by
  refine ⟨fun _ => Scope.reference_error_iff, fun _ => Scope.resolve_error_iff,
    fun _ => Scope.resolve_of_reference, fun _ => Scope.express_of_reference,
    Scope.reference_none_iff, ?_, Scope.resolve_firstResponder_iff, rfl⟩
  rw [Scope.reference_none_iff]
  constructor
  · intro agree hides
    exact hides.not_leadsNowhere (agree.mp (.inr hides))
  · intro shown
    exact or_iff_left shown

def hiddenGuideSource : String :=
  "<view id='a'><viewLayoutGuide key='safeArea' id='-2'/></view>"

theorem exists_hiddenGuide :
    ∃ document, Document.ofText .cocoaTouch hiddenGuideSource = .ok document ∧
      let scope := Scope.initial document .standard
      document.find? "-2" = none ∧ document.guide? "-2" = some ⟨0, "safeArea"⟩ ∧
        scope.isExcluded 0 = false ∧
        scope.express (.guide 0 "safeArea") = "view.safeAreaLayoutGuide" := by
  have facts : (Document.ofText .cocoaTouch hiddenGuideSource).toOption.map (fun document =>
      let scope := Scope.initial document .standard
      (document.find? "-2", document.guide? "-2", scope.isExcluded 0,
        scope.express (.guide 0 "safeArea"))) =
      some (none, some ⟨0, "safeArea"⟩, false, "view.safeAreaLayoutGuide") := by
    decide +kernel
  cases built : Document.ofText .cocoaTouch hiddenGuideSource with
  | error reason =>
      rw [built] at facts
      cases facts
  | ok document =>
      rw [built] at facts
      refine ⟨document, rfl, ?_⟩
      simpa [Except.toOption] using facts

/-- The guide can be resolved and its view is declared, but there is nothing to refer to. -/
theorem guide_of_declared_view_not_referred :
    ∃ document, Document.ofText .cocoaTouch hiddenGuideSource = .ok document ∧
      let scope := Scope.initial document .standard
      scope.resolve "-2" = .ok (.guide 0 "safeArea") ∧
        scope.express (.guide 0 "safeArea") = "view.safeAreaLayoutGuide" ∧
        scope.isExcluded 0 = false ∧ scope.reference "-2" = .ok none ∧
        ¬(scope.reference "-2" = .ok none ↔ scope.LeadsNowhere "-2") := by
  obtain ⟨document, built, noObject, guided, declared, written⟩ := exists_hiddenGuide
  have hides : (Scope.initial document .standard).HidesGuide "-2" :=
    ⟨rfl, noObject, _, guided, declared⟩
  have nothing := Scope.reference_none_iff.mpr (.inr hides)
  refine ⟨document, built, ?_, written, declared, nothing, ?_⟩
  · have known : (Scope.initial document .standard).document = document := rfl
    rw [Scope.resolve, if_neg (by decide), known, noObject, guided]
  · intro agree
    exact hides.not_leadsNowhere (agree.mp nothing)

end Xib.Swift
