import Mathlib.Data.List.Induction
import Xib.Document

/-!
# Identifier tables

A document is filled by calls that change it in place, and some of them are refused. Here every
call is written out as the steps it takes, in their order, so that a step taken before a refusal
would stay. None is: a refused call leaves the document as it was (`Call.run_eq`). Both tables are
exact after any calls: an identifier leads to the one object that carries it, or to the guide of the
one call that registered it, and never to both.
-/

namespace Xib

set_option autoImplicit false

/-! ## Calls in place -/

/-- Work on a document in place. What was written before a refusal stays written. -/
abbrev Edit (α : Type) : Type :=
  ExceptT BuildError (StateM Document) α

namespace Edit

/-- Refuses an identifier that is in one of the tables. -/
def refuseTaken (identifier : String) : Edit Unit := do
  if (← get).isTaken identifier then throw (.duplicateIdentifier identifier)

def enterIdentifier (identifier : String) (index : Nat) : Edit Unit := do
  refuseTaken identifier
  modify fun document =>
    { document with identifiers := document.identifiers.insert identifier index }

/-- The identifier is entered before the object is stored. -/
def pushObject (object : Object) : Edit Unit := do
  let index := (← get).size
  if let some identifier := object.identifier then
    enterIdentifier identifier index
  modify fun document => { document with objects := document.objects ++ [object] }

def enterGuide (identifier : String) (guide : Guide) : Edit Unit := do
  refuseTaken identifier
  modify fun document => { document with guides := document.guides.insert identifier guide }

/-- What some steps answer, and the document they leave behind. -/
def on {α : Type} (edit : Edit α) (document : Document) : Except BuildError α × Document :=
  edit.run.run document

theorem bind_on {α β : Type} (first : Edit α) (next : α → Edit β) (document : Document) :
    (first >>= next).on document =
      match first.on document with
      | (.ok value, after) => (next value).on after
      | (.error error, after) => (.error error, after) := by
  rw [on, ExceptT.run_bind, StateT.run_bind]
  cases ran : first.on document with
  | mk answer after =>
      rw [on] at ran
      rw [ran]
      cases answer <;> rfl

variable (document : Document)

theorem refuseTaken_on (identifier : String) :
    (refuseTaken identifier).on document =
      if document.isTaken identifier then (.error (.duplicateIdentifier identifier), document)
      else (.ok (), document) := by
  rw [refuseTaken, bind_on]
  change on (if document.isTaken identifier then throw _ else pure ()) document = _
  split <;> rfl

theorem enterIdentifier_on (identifier : String) (index : Nat) :
    (enterIdentifier identifier index).on document =
      if document.isTaken identifier then (.error (.duplicateIdentifier identifier), document)
      else
        (.ok (), { document with
          identifiers := document.identifiers.insert identifier index }) := by
  rw [enterIdentifier, bind_on, refuseTaken_on]
  cases document.isTaken identifier <;> rfl

end Edit

/-- A call that fills a document. An object is always pushed at the next position. -/
inductive Call where
  | push (object : Object)
  | registerGuide (identifier : String) (guide : Guide)
  | addRoot (index : Nat)
  | warn (warning : Warning)

namespace Call

def steps : Call → Edit Unit
  | .push object => Edit.pushObject object
  | .registerGuide identifier guide => Edit.enterGuide identifier guide
  | .addRoot index => modify (·.addRoot index)
  | .warn warning => modify (·.warn [warning])

/-- What a call answers, and the document it leaves behind. -/
def run (call : Call) (document : Document) : Except BuildError Unit × Document :=
  call.steps.on document

/-- The document that a call makes of another one, if it is not refused. -/
def result (call : Call) (document : Document) : Except BuildError Document :=
  match call with
  | .push object => document.push object
  | .registerGuide identifier guide => document.registerGuide identifier guide
  | .addRoot index => .ok (document.addRoot index)
  | .warn warning => .ok (document.warn [warning])

/-- Taking the steps of a call comes to its result. A refused call has changed nothing. -/
theorem run_eq (call : Call) (document : Document) :
    call.run document =
      match call.result document with
      | .ok after => (.ok (), after)
      | .error error => (.error error, document) := by
  cases call with
  | push object =>
      simp only [run, steps, result, Edit.pushObject, Document.push]
      rw [Edit.bind_on]
      change Edit.on _ document = _
      cases object.identifier with
      | none => rfl
      | some identifier =>
          simp only
          rw [Edit.bind_on, Edit.enterIdentifier_on]
          cases document.isTaken identifier <;> rfl
  | registerGuide identifier guide =>
      simp only [run, steps, result, Edit.enterGuide, Document.registerGuide]
      rw [Edit.bind_on, Edit.refuseTaken_on]
      cases document.isTaken identifier <;> rfl
  | addRoot index => rfl
  | warn warning => rfl

variable {call : Call} {document : Document}

theorem run_of_ok {after : Document} (done : call.result document = .ok after) :
    call.run document = (.ok (), after) := by
  rw [run_eq, done]

theorem run_of_error {error : BuildError} (refused : call.result document = .error error) :
    call.run document = (.error error, document) := by
  rw [run_eq, refused]

end Call

namespace Document

def ofCalls (calls : List Call) : Document :=
  calls.foldl (fun document call => (call.run document).2) .empty

theorem ofCalls_snoc (calls : List Call) (call : Call) :
    ofCalls (calls ++ [call]) = (call.run (ofCalls calls)).2 := by
  simp [ofCalls]

/-! ## Tables and objects -/

variable {document after : Document} {object : Object} {index : Nat} {identifier : String}
  {guide : Guide}

def Carries (document : Document) (index : Nat) (identifier : String) : Prop :=
  ∃ object, document.object? index = some object ∧ object.identifier = some identifier

def Knows (document : Document) (identifier : String) : Prop :=
  (∃ index, document.find? identifier = some index) ∨
    ∃ guide, document.guide? identifier = some guide

theorem isTaken_iff : document.isTaken identifier = true ↔ document.Knows identifier := by
  rw [isTaken, ← Table.isSome_get?, ← Table.isSome_get?, Bool.or_eq_true,
    Option.isSome_iff_exists, Option.isSome_iff_exists]
  rfl

/-- The table of identifiers says what the objects say, and shares nothing with the guides. -/
structure Exact (document : Document) : Prop where
  leads_iff : ∀ identifier index,
    document.find? identifier = some index ↔ document.Carries index identifier
  apart : ∀ identifier index,
    document.find? identifier = some index → document.guide? identifier = none

theorem Exact.empty : Exact .empty := by
  refine ⟨fun identifier index => ⟨?_, ?_⟩, ?_⟩
  · intro leads
    cases leads
  · rintro ⟨object, found, _⟩
    cases found
  · intro identifier index leads
    cases leads

theorem object?_snoc {other : Object} (objects : after.objects = document.objects ++ [object]) :
    after.object? index = some other ↔
      document.object? index = some other ∨ index = document.size ∧ object = other := by
  simp only [object?, size, objects]
  rcases Nat.lt_trichotomy index document.objects.length with before | rfl | beyond
  · simp [List.getElem?_append_left before, Nat.ne_of_lt before]
  · simp
  · have outside : document.objects[index]? = none := List.getElem?_eq_none (by omega)
    have beside : (document.objects ++ [object])[index]? = none :=
      List.getElem?_eq_none (by simp; omega)
    simp [outside, beside, Nat.ne_of_gt beyond]

theorem carries_snoc (objects : after.objects = document.objects ++ [object]) :
    after.Carries index identifier ↔
      document.Carries index identifier ∨
        index = document.size ∧ object.identifier = some identifier := by
  simp only [Carries, object?_snoc objects]
  constructor
  · rintro ⟨other, earlier | ⟨last, rfl⟩, carried⟩
    · exact .inl ⟨other, earlier, carried⟩
    · exact .inr ⟨last, carried⟩
  · rintro (⟨other, earlier, carried⟩ | ⟨last, carried⟩)
    · exact ⟨other, .inl earlier, carried⟩
    · exact ⟨object, .inr ⟨last, rfl⟩, carried⟩

theorem push_cases (pushed : document.push object = .ok after) :
    after.objects = document.objects ++ [object] ∧ after.guides = document.guides ∧
      (object.identifier = none ∧ after.identifiers = document.identifiers ∨
        ∃ identifier, object.identifier = some identifier ∧ ¬document.Knows identifier ∧
          after.identifiers = document.identifiers.insert identifier document.size) := by
  unfold push at pushed
  split at pushed
  · rename_i unnamed
    cases pushed
    exact ⟨rfl, rfl, .inl ⟨unnamed, rfl⟩⟩
  · rename_i identifier named
    split at pushed
    · cases pushed
    · rename_i free
      cases pushed
      exact ⟨rfl, rfl, .inr ⟨identifier, named, fun known => free (isTaken_iff.mpr known), rfl⟩⟩

theorem registerGuide_cases (registered : document.registerGuide identifier guide = .ok after) :
    ¬document.Knows identifier ∧
      after = { document with guides := document.guides.insert identifier guide } := by
  unfold registerGuide at registered
  split at registered
  · cases registered
  · rename_i free
    cases registered
    exact ⟨fun known => free (isTaken_iff.mpr known), rfl⟩

namespace Exact

theorem push (exact : document.Exact) (pushed : document.push object = .ok after) :
    after.Exact := by
  obtain ⟨objects, guides, ⟨unnamed, identifiers⟩ | ⟨fresh, named, unknown, identifiers⟩⟩ :=
    push_cases pushed
  · refine ⟨fun identifier index => ?_, fun identifier index leads => ?_⟩
    · rw [carries_snoc objects, ← exact.leads_iff, find?, identifiers]
      simp [unnamed, find?]
    · rw [find?, identifiers] at leads
      rw [guide?, guides]
      exact exact.apart identifier index leads
  · refine ⟨fun identifier index => ?_, fun identifier index leads => ?_⟩
    · rw [carries_snoc objects, ← exact.leads_iff, find?, identifiers, Table.get?_insert, named]
      by_cases same : identifier = fresh
      · have absent : document.find? identifier ≠ some index := by
          rintro leads
          exact unknown (.inl ⟨index, same ▸ leads⟩)
        simp [same ▸ absent, same, eq_comm]
      · simp [same, Ne.symm same, find?]
    · rw [find?, identifiers, Table.get?_insert] at leads
      rw [guide?, guides]
      split at leads
      · rename_i same
        rw [same]
        cases guided : document.guides.get? fresh with
        | none => rfl
        | some guide => exact absurd (.inr ⟨guide, guided⟩) unknown
      · exact exact.apart identifier index leads

theorem registerGuide (exact : document.Exact)
    (registered : document.registerGuide identifier guide = .ok after) : after.Exact := by
  obtain ⟨unknown, rfl⟩ := registerGuide_cases registered
  refine ⟨exact.leads_iff, fun other index leads => ?_⟩
  have different : other ≠ identifier := by
    rintro rfl
    exact unknown (.inl ⟨index, leads⟩)
  rw [guide?, Table.get?_insert, if_neg different]
  exact exact.apart other index leads

/-- One call keeps the tables exact, refused or not. -/
theorem run (exact : document.Exact) (call : Call) : (call.run document).2.Exact := by
  cases done : call.result document with
  | error error =>
      rw [Call.run_of_error done]
      exact exact
  | ok after =>
      rw [Call.run_of_ok done]
      cases call with
      | push object => exact exact.push done
      | registerGuide identifier guide => exact exact.registerGuide done
      | addRoot index =>
          cases done
          exact ⟨exact.leads_iff, exact.apart⟩
      | warn warning =>
          cases done
          exact ⟨exact.leads_iff, exact.apart⟩

end Exact

theorem ofCalls_exact (calls : List Call) : (ofCalls calls).Exact := by
  induction calls using List.reverseRecOn with
  | nil => exact Exact.empty
  | append_singleton calls call ih =>
      rw [ofCalls_snoc]
      exact ih.run call

/-! ## Refusals -/

theorem push_refused_iff {error : BuildError} :
    ((Call.push object).run document).1 = .error error ↔
      ∃ identifier, object.identifier = some identifier ∧
        error = .duplicateIdentifier identifier ∧ document.Knows identifier := by
  rw [Call.run_eq, Call.result, Document.push]
  cases object.identifier with
  | none => simp
  | some identifier =>
      simp only [Option.some.injEq, exists_eq_left', ← isTaken_iff]
      cases document.isTaken identifier
      · simp
      · simpa using eq_comm

theorem registerGuide_refused_iff {error : BuildError} :
    ((Call.registerGuide identifier guide).run document).1 = .error error ↔
      error = .duplicateIdentifier identifier ∧ document.Knows identifier := by
  rw [Call.run_eq, Call.result, Document.registerGuide, ← isTaken_iff]
  cases document.isTaken identifier
  · simp
  · simpa using eq_comm

/-! ## Guides -/

def Registers (calls : List Call) (position : Nat) (identifier : String) (guide : Guide) : Prop :=
  calls[position]? = some (.registerGuide identifier guide) ∧
    ((Call.registerGuide identifier guide).run (ofCalls (calls.take position))).1 = .ok ()

/-- A call adds the guide that it registers, and changes no other. -/
theorem guide?_run (call : Call) :
    (call.run document).2.guide? identifier = some guide ↔
      document.guide? identifier = some guide ∨
        call = .registerGuide identifier guide ∧ (call.run document).1 = .ok () := by
  cases done : call.result document with
  | error error => simp [Call.run_of_error done]
  | ok after =>
      rw [Call.run_of_ok done]
      cases call with
      | push object =>
          obtain ⟨_, guides, _⟩ := push_cases done
          simp [guide?, guides]
      | registerGuide other registered =>
          obtain ⟨unknown, rfl⟩ := registerGuide_cases done
          simp only [guide?, Table.get?_insert, Call.registerGuide.injEq, and_true]
          by_cases same : identifier = other
          · have absent : document.guides.get? identifier ≠ some guide := by
              intro earlier
              exact unknown (.inr ⟨guide, same ▸ earlier⟩)
            simp [same ▸ absent, same]
          · simp [same, Ne.symm same]
      | addRoot index =>
          cases done
          simp [guide?, addRoot]
      | warn warning =>
          cases done
          simp [guide?, warn]

theorem registers_snoc {calls : List Call} {call : Call} {position : Nat} :
    Registers (calls ++ [call]) position identifier guide ↔
      Registers calls position identifier guide ∨
        position = calls.length ∧ call = .registerGuide identifier guide ∧
          (call.run (ofCalls calls)).1 = .ok () := by
  unfold Registers
  rcases Nat.lt_trichotomy position calls.length with before | rfl | beyond
  · rw [List.getElem?_append_left before, List.take_append_of_le_length (Nat.le_of_lt before)]
    simp [Nat.ne_of_lt before]
  · rw [List.getElem?_concat_length, List.take_left]
    have outside : calls[calls.length]? = none := List.getElem?_eq_none (Nat.le_refl _)
    simp only [outside, Option.some.injEq, reduceCtorEq, false_and, false_or, true_and]
    constructor
    · rintro ⟨rfl, accepted⟩
      exact ⟨rfl, accepted⟩
    · rintro ⟨rfl, accepted⟩
      exact ⟨rfl, accepted⟩
  · have outside : calls[position]? = none := List.getElem?_eq_none (by omega)
    have beside : (calls ++ [call])[position]? = none :=
      List.getElem?_eq_none (by simp; omega)
    simp [outside, beside, Nat.ne_of_gt beyond]

theorem guide?_ofCalls (calls : List Call) :
    (ofCalls calls).guide? identifier = some guide ↔
      ∃ position, Registers calls position identifier guide := by
  induction calls using List.reverseRecOn with
  | nil =>
      constructor
      · intro leads
        cases leads
      · rintro ⟨position, registered, _⟩
        simp at registered
  | append_singleton calls call ih =>
      rw [ofCalls_snoc, guide?_run, ih]
      simp only [registers_snoc, exists_or, exists_eq_left]

/-- An identifier is registered at most once. -/
theorem Registers.unique {calls : List Call} {first second : Nat} {other : Guide}
    (here : Registers calls first identifier guide)
    (there : Registers calls second identifier other) : first = second := by
  induction calls using List.reverseRecOn with
  | nil =>
      obtain ⟨registered, _⟩ := here
      simp at registered
  | append_singleton calls call ih =>
      -- A call after a registration of the same identifier is refused.
      have refused : ∀ {position : Nat} {earlier later : Guide},
          Registers calls position identifier earlier →
          call = .registerGuide identifier later →
          (call.run (ofCalls calls)).1 ≠ .ok () := by
        rintro position earlier later registered rfl accepted
        have known : (ofCalls calls).Knows identifier :=
          .inr ⟨earlier, (guide?_ofCalls calls).mpr ⟨position, registered⟩⟩
        rw [registerGuide_refused_iff.mpr ⟨rfl, known⟩] at accepted
        cases accepted
      obtain former | ⟨last, same, accepted⟩ := registers_snoc.mp here
      · obtain latter | ⟨_, sameLater, acceptedLater⟩ := registers_snoc.mp there
        · exact ih former latter
        · exact absurd acceptedLater (refused former sameLater)
      · obtain latter | ⟨lastLater, _⟩ := registers_snoc.mp there
        · exact absurd accepted (refused latter same)
        · rw [last, lastLater]

end Document

/-- After any calls, refused ones among them: the tables say what the objects and the accepted
registrations say, no identifier has two meanings, a call is refused exactly if its identifier is in
one of the tables, and a refused call changes nothing. -/
theorem tables_exact_after_calls (calls : List Call) :
    let document := Document.ofCalls calls
    (∀ identifier index, document.find? identifier = some index ↔
      ∃ object, document.object? index = some object ∧ object.identifier = some identifier) ∧
    (∀ first second firstObject secondObject identifier,
      document.object? first = some firstObject → firstObject.identifier = some identifier →
      document.object? second = some secondObject → secondObject.identifier = some identifier →
      first = second) ∧
    (∀ index object identifier, document.object? index = some object →
      object.identifier = some identifier → document.guide? identifier = none) ∧
    (∀ identifier guide, document.guide? identifier = some guide ↔
      ∃ position, Document.Registers calls position identifier guide) ∧
    (∀ first second identifier guide other, Document.Registers calls first identifier guide →
      Document.Registers calls second identifier other → first = second) ∧
    (∀ object error, ((Call.push object).run document).1 = .error error ↔
      ∃ identifier, object.identifier = some identifier ∧
        error = .duplicateIdentifier identifier ∧ document.Knows identifier) ∧
    (∀ identifier guide error,
      ((Call.registerGuide identifier guide).run document).1 = .error error ↔
        error = .duplicateIdentifier identifier ∧ document.Knows identifier) ∧
    ∀ call : Call,
      (∀ error, (call.run document).1 = .error error → (call.run document).2 = document) ∧
      call.run document =
        match call.result document with
        | .ok after => (.ok (), after)
        | .error error => (.error error, document) := by
  intro document
  have exact : document.Exact := Document.ofCalls_exact calls
  refine ⟨exact.leads_iff, ?_, ?_, fun _ _ => Document.guide?_ofCalls calls,
    fun _ _ _ _ _ => Document.Registers.unique, fun _ _ => Document.push_refused_iff,
    fun _ _ _ => Document.registerGuide_refused_iff, fun call => ⟨?_, call.run_eq document⟩⟩
  · intro first second firstObject secondObject identifier here carried there carriedLater
    have leads := (exact.leads_iff identifier first).mpr ⟨firstObject, here, carried⟩
    have leadsLater := (exact.leads_iff identifier second).mpr ⟨secondObject, there, carriedLater⟩
    rw [leads] at leadsLater
    exact Option.some.inj leadsLater
  · intro index object identifier found carried
    exact exact.apart identifier index ((exact.leads_iff identifier index).mpr
      ⟨object, found, carried⟩)
  · intro error refused
    cases done : call.result document with
    | ok after =>
        rw [Call.run_of_ok done] at refused
        cases refused
    | error reason => rw [Call.run_of_error done]

end Xib
