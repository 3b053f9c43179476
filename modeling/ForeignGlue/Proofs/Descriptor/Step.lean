/-
**One operation on the descriptor tables.**

The tables are pushed to, bound, shaped and nullified, by slot or through a handle to an array, and
an operation may fail:

* `step_perform`: all that an operation can do, as a relation;
* `isFailure_perform_iff`: which operations fail, and `perform_of_isFailure`: they change nothing;
* `Step.scalars_eq`, `Step.arrays_eq`: what becomes of a table, as one equation;
* `scalarEntries`, `arrayEntries`: the two tables, under what holds of both.
-/

import ForeignGlue.Context

namespace ForeignGlue

/-! ### Operations -/

/-- An operation on the tables of a module. -/
inductive Package.Operation where
  | pushScalar (scalar : ScalarDescriptor)
  | pushArray (array : ArrayDescriptor)
  | bindScalar (slot : Nat) (address : Address)
  | bindRecord (slot : Nat) (kept : Address)
  | bindArray (slot : Nat) (address : Address)
  | syncShape (slot : Nat) (foreign : List Int)
  /-- Binds through a handle to the array in a slot. -/
  | handleBind (slot : Nat) (address : Address)
  /-- Reports a shape through a handle to the array in a slot. -/
  | handleSync (slot : Nat) (foreign : List Int)
  | nullifyDynamic
  deriving DecidableEq

/-- What an operation gives back. -/
inductive Package.Answer where
  /-- The slot of what was pushed. -/
  | slot (slot : Nat)
  | done
  /-- There is no array to have a handle to. -/
  | absent
  | refused (error : BindError)
  deriving DecidableEq

/-- An operation and its answer. -/
structure Package.Event where
  operation : Package.Operation
  answer : Package.Answer
  deriving DecidableEq

namespace Package

/-- The answer of an operation that is done or refused. -/
def Answer.ofResult : Except BindError Unit → Answer
  | .ok () => .done
  | .error error => .refused error

/-- The answer of an operation through a handle. -/
def Answer.ofHandle : Option (Except BindError Unit) → Answer
  | none => .absent
  | some result => .ofResult result

/-- The tables after an operation, and its answer. -/
def perform (package : Package) : Operation → Package × Answer
  | .pushScalar scalar => (package.pushScalar scalar).map id .slot
  | .pushArray array => (package.pushArray array).map id .slot
  | .bindScalar slot address => (package.bindScalar slot address).map id .ofResult
  | .bindRecord slot kept => (package.bindRecord slot kept).map id .ofResult
  | .bindArray slot address => (package.bindArray slot address).map id .ofResult
  | .syncShape slot foreign => (package.syncShape slot foreign).map id .ofResult
  | .handleBind slot address =>
    (package.throughHandle slot fun array => (array.bind address, .ok ())).map id .ofHandle
  | .handleSync slot foreign =>
    (package.throughHandle slot fun array => array.syncShape foreign).map id .ofHandle
  | .nullifyDynamic => (package.nullifyDynamic, .done)

/-- The event that an operation is, where it is performed. -/
def eventOf (package : Package) (operation : Operation) : Event :=
  ⟨operation, (package.perform operation).2⟩

/-! ### Events -/

namespace Event

/-- The address that an event puts into a slot of the scalar table. -/
def scalarBind? (slot : Nat) (event : Event) : Option Address :=
  match event with
  | ⟨.bindScalar bound address, .done⟩ => if bound = slot then some address else none
  | ⟨.bindRecord bound kept, .done⟩ => if bound = slot then some kept else none
  | _ => none

/-- The address that an event puts into a slot of the array table. -/
def arrayBind? (slot : Nat) (event : Event) : Option Address :=
  match event with
  | ⟨.bindArray bound address, .done⟩ => if bound = slot then some address else none
  | ⟨.handleBind bound address, .done⟩ => if bound = slot then some address else none
  | _ => none

/-- The shape, in foreign axis order, that an event reports for a slot of the array table. -/
def shape? (slot : Nat) (event : Event) : Option (List Int) :=
  match event with
  | ⟨.syncShape reported foreign, .done⟩ => if reported = slot then some foreign else none
  | ⟨.handleSync reported foreign, .done⟩ => if reported = slot then some foreign else none
  | _ => none

/-- Whether an event takes the addresses of dynamic variables away. -/
def isNullify (event : Event) : Bool :=
  event.operation == .nullifyDynamic

end Event

/-! ### What one operation does -/

/-- The scalar that an operation adds. -/
def Operation.pushedScalar? : Operation → Option ScalarDescriptor
  | .pushScalar scalar => some scalar
  | _ => none

/-- The array that an operation adds. -/
def Operation.pushedArray? : Operation → Option ArrayDescriptor
  | .pushArray array => some array
  | _ => none

/-- Whether an answer says that nothing was done. -/
def Answer.isFailure : Answer → Bool
  | .absent => true
  | .refused _ => true
  | _ => false

/-- **What an operation can do.** -/
inductive Step (package : Package) : Operation → Package → Answer → Prop where
  | scalarPushed (scalar : ScalarDescriptor) :
      Step package (.pushScalar scalar) { package with scalars := package.scalars ++ [scalar] }
        (.slot package.scalars.length)
  | arrayPushed (array : ArrayDescriptor) :
      Step package (.pushArray array) { package with arrays := package.arrays ++ [array] }
        (.slot package.arrays.length)
  | scalarBound {operation : Operation} {slot : Nat} {address : Address} {scalar : ScalarDescriptor}
      (binds : operation = .bindScalar slot address ∨ operation = .bindRecord slot address)
      (found : package.scalars[slot]? = some scalar) :
      Step package operation
        { package with scalars := package.scalars.set slot { scalar with address := some address } }
        .done
  | arrayBound {operation : Operation} {slot : Nat} {address : Address} {array : ArrayDescriptor}
      (binds : operation = .bindArray slot address ∨ operation = .handleBind slot address)
      (found : package.arrays[slot]? = some array) :
      Step package operation (package.setArray slot { array with address := some address }) .done
  | shapeReported {operation : Operation} {slot : Nat} {foreign : List Int} {array : ArrayDescriptor}
      (reports : operation = .syncShape slot foreign ∨ operation = .handleSync slot foreign)
      (found : package.arrays[slot]? = some array) (fits : foreign.length = array.rank) :
      Step package operation (package.setArray slot { array with extents := foreign.reverse }) .done
  | nullified : Step package .nullifyDynamic package.nullifyDynamic .done
  | failed {operation : Operation} {answer : Answer} (failure : answer.isFailure)
      (noScalar : operation.pushedScalar? = none) (noArray : operation.pushedArray? = none)
      (notNullified : operation ≠ .nullifyDynamic) : Step package operation package answer

/-- An array that is put where it stands changes nothing. -/
theorem setArray_of_getElem? {package : Package} {slot : Nat} {array : ArrayDescriptor}
    (found : package.arrays[slot]? = some array) : package.setArray slot array = package := by
  obtain ⟨inside, rfl⟩ := List.getElem?_eq_some_iff.mp found
  rw [setArray, List.set_getElem_self]

section Change

variable {package : Package} {operation : Operation} {slot : Nat} {array : ArrayDescriptor}
  (change : ArrayDescriptor → ArrayDescriptor × Except BindError Unit)
  (performs : package.perform operation = (package.changeArray slot change).map id .ofResult ∨
    package.perform operation = (package.throughHandle slot change).map id .ofHandle)
include performs

/-- An array that is there is changed, by slot and through a handle alike. -/
theorem perform_of_found (found : package.arrays[slot]? = some array) : package.perform operation =
    (package.setArray slot (change array).1, .ofResult (change array).2) := by
  rcases performs with bySlot | byHandle
  · rw [bySlot, changeArray, throughHandle, found]
    rfl
  · rw [byHandle, throughHandle, found]
    rfl

/-- Where there is no array, nothing is changed. -/
theorem perform_of_absent (absent : package.arrays[slot]? = none) :
    ∃ answer : Answer, answer.isFailure ∧ package.perform operation = (package, answer) := by
  rcases performs with bySlot | byHandle
  · rw [bySlot, changeArray, throughHandle, absent]
    exact ⟨_, rfl, rfl⟩
  · rw [byHandle, throughHandle, absent]
    exact ⟨_, rfl, rfl⟩

/-- A change of an array is a step, if it is one where there is an array. -/
theorem step_change (fails : ∀ answer : Answer, answer.isFailure → Step package operation package answer)
    (changes : ∀ array, package.arrays[slot]? = some array →
      Step package operation (package.setArray slot (change array).1) (.ofResult (change array).2)) :
    Step package operation (package.perform operation).1 (package.perform operation).2 := by
  cases found : package.arrays[slot]? with
  | none =>
      obtain ⟨answer, failure, performed⟩ := perform_of_absent change performs found
      rw [performed]
      exact fails answer failure
  | some array =>
      rw [perform_of_found change performs found]
      exact changes array found

/-- A change of an array fails if there is none, or if the array refuses it. -/
theorem isFailure_change_iff : (package.perform operation).2.isFailure ↔
    ∀ array, package.arrays[slot]? = some array → (Answer.ofResult (change array).2).isFailure := by
  cases found : package.arrays[slot]? with
  | none =>
      obtain ⟨answer, failure, performed⟩ := perform_of_absent change performs found
      rw [performed]
      exact iff_of_true failure fun array there => by cases there
  | some array =>
      rw [perform_of_found change performs found]
      simp

end Change

/-- A shape that is given by slot or through a handle is stored, or it does not fit the array and
nothing is stored. -/
theorem step_syncShape {package : Package} {operation : Operation} {slot : Nat} {foreign : List Int}
    {array : ArrayDescriptor}
    (reports : operation = .syncShape slot foreign ∨ operation = .handleSync slot foreign)
    (found : package.arrays[slot]? = some array) :
    Step package operation (package.setArray slot (array.syncShape foreign).1)
      (.ofResult (array.syncShape foreign).2) := by
  rw [ArrayDescriptor.syncShape]
  by_cases fits : foreign.length = array.rank
  · rw [if_pos fits]
    exact .shapeReported reports found fits
  · rw [if_neg fits, setArray_of_getElem? found]
    rcases reports with rfl | rfl <;> exact .failed rfl rfl rfl (by simp)

/-- **What is performed is a step.** -/
theorem step_perform (package : Package) (operation : Operation) :
    Step package operation (package.perform operation).1 (package.perform operation).2 := by
  cases operation with
  | pushScalar scalar => exact .scalarPushed scalar
  | pushArray array => exact .arrayPushed array
  | bindScalar slot address =>
      rw [perform, bindScalar]
      split
      · exact .failed rfl rfl rfl (by simp)
      · next scalar found => exact .scalarBound (.inl rfl) found
  | bindRecord slot kept =>
      rw [perform, bindRecord, bindScalar]
      split
      · exact .failed rfl rfl rfl (by simp)
      · next scalar found => exact .scalarBound (.inr rfl) found
  | bindArray slot address =>
      exact step_change (fun array => (array.bind address, .ok ())) (.inl rfl)
        (fun answer failure => .failed failure rfl rfl (by simp)) fun array => .arrayBound (.inl rfl)
  | syncShape slot foreign =>
      exact step_change (fun array => array.syncShape foreign) (.inl rfl)
        (fun answer failure => .failed failure rfl rfl (by simp)) fun array => step_syncShape (.inl rfl)
  | handleBind slot address =>
      exact step_change (fun array => (array.bind address, .ok ())) (.inr rfl)
        (fun answer failure => .failed failure rfl rfl (by simp)) fun array => .arrayBound (.inr rfl)
  | handleSync slot foreign =>
      exact step_change (fun array => array.syncShape foreign) (.inr rfl)
        (fun answer failure => .failed failure rfl rfl (by simp)) fun array => step_syncShape (.inr rfl)
  | nullifyDynamic => exact .nullified

/-- **A failed operation leaves the tables as they were.** -/
theorem perform_of_isFailure {package : Package} {operation : Operation}
    (failure : (package.perform operation).2.isFailure) :
    (package.perform operation).1 = package := by
  have step := step_perform package operation
  generalize (package.perform operation).1 = after, (package.perform operation).2 = answer
    at step failure
  cases step with
  | failed => rfl
  | _ => cases failure

/-- An operation that can be done: the slot is there, and a shape has as many extents as the array
has dimensions. -/
def Operation.IsPossible (operation : Operation) (package : Package) : Prop :=
  match operation with
  | .pushScalar _ | .pushArray _ | .nullifyDynamic => True
  | .bindScalar slot _ | .bindRecord slot _ => slot < package.scalars.length
  | .bindArray slot _ | .handleBind slot _ => slot < package.arrays.length
  | .syncShape slot foreign | .handleSync slot foreign =>
    ∃ array, package.arrays[slot]? = some array ∧ foreign.length = array.rank

/-- An array refuses a shape that does not have its number of dimensions. -/
theorem isFailure_ofResult_syncShape (array : ArrayDescriptor) (foreign : List Int) :
    (Answer.ofResult (array.syncShape foreign).2).isFailure ↔ foreign.length ≠ array.rank := by
  rw [ArrayDescriptor.syncShape]
  by_cases fits : foreign.length = array.rank
  · rw [if_pos fits]
    exact iff_of_false Bool.false_ne_true fun apart => apart fits
  · rw [if_neg fits]
    exact iff_of_true rfl fits

/-- **Only what cannot be done fails.** -/
theorem isFailure_perform_iff (package : Package) (operation : Operation) :
    (package.perform operation).2.isFailure ↔ ¬operation.IsPossible package := by
  cases operation with
  | pushScalar | pushArray | nullifyDynamic =>
      exact iff_of_false Bool.false_ne_true fun never => never trivial
  | bindScalar slot | bindRecord slot =>
      simp only [perform, bindRecord, bindScalar, Operation.IsPossible, Nat.not_lt,
        ← List.getElem?_eq_none_iff]
      cases package.scalars[slot]? <;> simp [Answer.ofResult, Answer.isFailure]
  | bindArray slot address =>
      rw [isFailure_change_iff (fun array => (array.bind address, .ok ())) (.inl rfl),
        Operation.IsPossible, Nat.not_lt, ← List.getElem?_eq_none_iff, Option.eq_none_iff_forall_ne_some]
      simp [Answer.ofResult, Answer.isFailure]
  | handleBind slot address =>
      rw [isFailure_change_iff (fun array => (array.bind address, .ok ())) (.inr rfl),
        Operation.IsPossible, Nat.not_lt, ← List.getElem?_eq_none_iff, Option.eq_none_iff_forall_ne_some]
      simp [Answer.ofResult, Answer.isFailure]
  | syncShape slot foreign =>
      rw [isFailure_change_iff (fun array => array.syncShape foreign) (.inl rfl)]
      simp [Operation.IsPossible, isFailure_ofResult_syncShape]
  | handleSync slot foreign =>
      rw [isFailure_change_iff (fun array => array.syncShape foreign) (.inr rfl)]
      simp [Operation.IsPossible, isFailure_ofResult_syncShape]

/-! ### Entries -/

/-- An entry of the scalar table after an event. -/
def Event.scalarAfter (event : Event) (slot : Nat) (scalar : ScalarDescriptor) : ScalarDescriptor :=
  { scalar with
    address := if scalar.dynamic && event.isNullify then none
      else (event.scalarBind? slot).or scalar.address }

/-- An entry of the array table after an event. -/
def Event.arrayAfter (event : Event) (slot : Nat) (array : ArrayDescriptor) : ArrayDescriptor :=
  { array with
    address := if array.dynamic && event.isNullify then none
      else (event.arrayBind? slot).or array.address
    extents := ((event.shape? slot).map List.reverse).getD array.extents }

/-- An event that gives a slot nothing and does not nullify leaves its entry alone. -/
theorem Event.scalarAfter_eq_self {event : Event} {slot : Nat} (unbound : event.scalarBind? slot = none)
    (kept : event.isNullify = false) (scalar : ScalarDescriptor) :
    event.scalarAfter slot scalar = scalar := by
  rw [scalarAfter, unbound, kept, Bool.and_false]
  rfl

theorem Event.arrayAfter_eq_self {event : Event} {slot : Nat} (unbound : event.arrayBind? slot = none)
    (unreported : event.shape? slot = none) (kept : event.isNullify = false)
    (array : ArrayDescriptor) : event.arrayAfter slot array = array := by
  rw [arrayAfter, unbound, unreported, kept, Bool.and_false]
  rfl

theorem Event.gives_of_isFailure {event : Event} (failure : event.answer.isFailure) (slot : Nat) :
    event.scalarBind? slot = none ∧ event.arrayBind? slot = none ∧ event.shape? slot = none := by
  obtain ⟨operation, answer⟩ := event
  cases answer with
  | absent => cases operation <;> exact ⟨rfl, rfl, rfl⟩
  | refused error => cases operation <;> exact ⟨rfl, rfl, rfl⟩
  | slot pushed => cases failure
  | done => cases failure

/-- A change that leaves every entry alone. -/
theorem mapIdx_eq_self {α : Type} {change : Nat → α → α} {entries : List α}
    (same : ∀ slot entry, change slot entry = entry) : entries.mapIdx change = entries := by
  apply List.ext_getElem?
  intro slot
  rw [List.getElem?_mapIdx]
  cases entries[slot]? with
  | none => rfl
  | some entry => exact congrArg some (same slot entry)

/-- A change of one entry. -/
theorem set_eq_mapIdx {α : Type} {change : Nat → α → α} {entries : List α} {slot : Nat}
    {entry changed : α} (found : entries[slot]? = some entry) (here : change slot entry = changed)
    (others : ∀ other unchanged, slot ≠ other → change other unchanged = unchanged) :
    entries.set slot changed = entries.mapIdx change := by
  apply List.ext_getElem?
  intro place
  rw [List.getElem?_mapIdx, List.getElem?_set]
  by_cases same : slot = place
  · subst same
    obtain ⟨inside, -⟩ := List.getElem?_eq_some_iff.mp found
    rw [if_pos rfl, if_pos inside, found, ← here]
    rfl
  · rw [if_neg same]
    cases entries[place]? with
    | none => rfl
    | some unchanged => exact congrArg some (others place unchanged same).symm

/-- An entry of a table after all entries were changed and one was added. -/
theorem getElem?_mapIdx_append {α : Type} (change : Nat → α → α) (entries : List α)
    (added : Option α) (slot : Nat) : (entries.mapIdx change ++ added.toList)[slot]? =
      match entries[slot]? with
      | some entry => some (change slot entry)
      | none => if slot = entries.length then added else none := by
  by_cases inside : slot < entries.length
  · rw [List.getElem?_append_left (by simpa using inside), List.getElem?_mapIdx,
      List.getElem?_eq_getElem inside]
    rfl
  · have outside : entries.length ≤ slot := Nat.le_of_not_lt inside
    rw [List.getElem?_append_right (by simpa using outside), List.length_mapIdx,
      List.getElem?_eq_none outside]
    by_cases next : slot = entries.length
    · subst next
      cases added <;> simp
    · have beyond : slot - entries.length ≠ 0 := by omega
      cases added <;> simp [next, beyond]

variable {package after : Package} {operation : Operation} {answer : Answer}

/-- **What an operation does to the scalar table**: an entry takes the address that it is bound to, a
dynamic one loses its address, and a pushed one comes last. -/
theorem Step.scalars_eq (step : Step package operation after answer) :
    after.scalars = package.scalars.mapIdx (Event.scalarAfter ⟨operation, answer⟩) ++
      operation.pushedScalar?.toList := by
  cases step with
  | scalarPushed scalar =>
      rw [mapIdx_eq_self fun _ _ => Event.scalarAfter_eq_self rfl rfl _]
      rfl
  | arrayPushed array =>
      rw [mapIdx_eq_self fun _ _ => Event.scalarAfter_eq_self rfl rfl _]
      exact (List.append_nil _).symm
  | @scalarBound _ slot address scalar binds found =>
      have here : Event.scalarAfter ⟨operation, .done⟩ slot scalar =
          { scalar with address := some address } := by
        rcases binds with rfl | rfl <;> simp [Event.scalarAfter, Event.scalarBind?, Event.isNullify]
      have others (other : Nat) (unchanged : ScalarDescriptor) (apart : slot ≠ other) :
          Event.scalarAfter ⟨operation, .done⟩ other unchanged = unchanged := by
        apply Event.scalarAfter_eq_self
        · rcases binds with rfl | rfl <;> exact if_neg apart
        · rcases binds with rfl | rfl <;> rfl
      have pushed : operation.pushedScalar? = none := by rcases binds with rfl | rfl <;> rfl
      rw [pushed, ← set_eq_mapIdx found here others]
      exact (List.append_nil _).symm
  | arrayBound binds found =>
      rcases binds with rfl | rfl <;>
        rw [mapIdx_eq_self fun _ _ => Event.scalarAfter_eq_self rfl rfl _] <;>
        exact (List.append_nil _).symm
  | shapeReported reports found fits =>
      rcases reports with rfl | rfl <;>
        rw [mapIdx_eq_self fun _ _ => Event.scalarAfter_eq_self rfl rfl _] <;>
        exact (List.append_nil _).symm
  | nullified =>
      have each : Event.scalarAfter ⟨.nullifyDynamic, .done⟩ = fun _ scalar =>
          if scalar.dynamic then { scalar with address := none } else scalar := by
        funext slot scalar
        obtain ⟨⟩ := scalar
        cases ‹Bool› <;> rfl
      apply List.ext_getElem?
      intro slot
      simp [nullifyDynamic, Operation.pushedScalar?, each]
  | failed failure noScalar noArray notNullified =>
      have kept : Event.isNullify ⟨operation, answer⟩ = false := by
        simpa [Event.isNullify] using notNullified
      rw [noScalar, mapIdx_eq_self fun slot _ =>
        Event.scalarAfter_eq_self (Event.gives_of_isFailure failure slot).1 kept _]
      exact (List.append_nil _).symm

/-- **What an operation does to the array table**: beside what happens to the address, a shape that
is reported replaces the one before. -/
theorem Step.arrays_eq (step : Step package operation after answer) :
    after.arrays = package.arrays.mapIdx (Event.arrayAfter ⟨operation, answer⟩) ++
      operation.pushedArray?.toList := by
  cases step with
  | arrayPushed array =>
      rw [mapIdx_eq_self fun _ _ => Event.arrayAfter_eq_self rfl rfl rfl _]
      rfl
  | scalarPushed scalar =>
      rw [mapIdx_eq_self fun _ _ => Event.arrayAfter_eq_self rfl rfl rfl _]
      exact (List.append_nil _).symm
  | scalarBound binds found =>
      rcases binds with rfl | rfl <;>
        rw [mapIdx_eq_self fun _ _ => Event.arrayAfter_eq_self rfl rfl rfl _] <;>
        exact (List.append_nil _).symm
  | @arrayBound _ slot address array binds found =>
      have here : Event.arrayAfter ⟨operation, .done⟩ slot array =
          { array with address := some address } := by
        rcases binds with rfl | rfl <;>
          simp [Event.arrayAfter, Event.arrayBind?, Event.shape?, Event.isNullify]
      have others (other : Nat) (unchanged : ArrayDescriptor) (apart : slot ≠ other) :
          Event.arrayAfter ⟨operation, .done⟩ other unchanged = unchanged := by
        apply Event.arrayAfter_eq_self
        · rcases binds with rfl | rfl <;> exact if_neg apart
        · rcases binds with rfl | rfl <;> rfl
        · rcases binds with rfl | rfl <;> rfl
      have pushed : operation.pushedArray? = none := by rcases binds with rfl | rfl <;> rfl
      rw [pushed, ← set_eq_mapIdx found here others]
      exact (List.append_nil _).symm
  | @shapeReported _ slot foreign array reports found fits =>
      have here : Event.arrayAfter ⟨operation, .done⟩ slot array =
          { array with extents := foreign.reverse } := by
        rcases reports with rfl | rfl <;>
          simp [Event.arrayAfter, Event.arrayBind?, Event.shape?, Event.isNullify]
      have others (other : Nat) (unchanged : ArrayDescriptor) (apart : slot ≠ other) :
          Event.arrayAfter ⟨operation, .done⟩ other unchanged = unchanged := by
        apply Event.arrayAfter_eq_self
        · rcases reports with rfl | rfl <;> rfl
        · rcases reports with rfl | rfl <;> exact if_neg apart
        · rcases reports with rfl | rfl <;> rfl
      have pushed : operation.pushedArray? = none := by rcases reports with rfl | rfl <;> rfl
      rw [pushed, ← set_eq_mapIdx found here others]
      exact (List.append_nil _).symm
  | nullified =>
      have each : Event.arrayAfter ⟨.nullifyDynamic, .done⟩ = fun _ array =>
          if array.dynamic then { array with address := none } else array := by
        funext slot array
        obtain ⟨⟩ := array
        cases ‹Bool› <;> rfl
      apply List.ext_getElem?
      intro slot
      simp [nullifyDynamic, Operation.pushedArray?, each]
  | failed failure noScalar noArray notNullified =>
      have kept : Event.isNullify ⟨operation, answer⟩ = false := by
        simpa [Event.isNullify] using notNullified
      have gives := @Event.gives_of_isFailure ⟨operation, answer⟩ failure
      rw [noArray, mapIdx_eq_self fun slot _ =>
        Event.arrayAfter_eq_self (gives slot).2.1 (gives slot).2.2 kept _]
      exact (List.append_nil _).symm

theorem slot_ne_of_absent {α : Type} {entries : List α} {bound slot : Nat} {entry : α}
    (found : entries[bound]? = some entry) (absent : entries[slot]? = none) : bound ≠ slot := by
  rintro rfl
  rw [absent] at found
  cases found

/-- Only a scalar or an array that is there is bound. -/
theorem Step.bind?_of_absent (step : Step package operation after answer) (slot : Nat) :
    (package.scalars[slot]? = none → Event.scalarBind? slot ⟨operation, answer⟩ = none) ∧
      (package.arrays[slot]? = none → Event.arrayBind? slot ⟨operation, answer⟩ = none) := by
  cases step with
  | scalarBound binds found =>
      rcases binds with rfl | rfl <;>
        exact ⟨fun absent => if_neg (slot_ne_of_absent found absent), fun _ => rfl⟩
  | arrayBound binds found =>
      rcases binds with rfl | rfl <;>
        exact ⟨fun _ => rfl, fun absent => if_neg (slot_ne_of_absent found absent)⟩
  | shapeReported reports => rcases reports with rfl | rfl <;> exact ⟨fun _ => rfl, fun _ => rfl⟩
  | failed failure =>
      obtain ⟨scalar, array, -⟩ := @Event.gives_of_isFailure ⟨operation, answer⟩ failure slot
      exact ⟨fun _ => scalar, fun _ => array⟩
  | scalarPushed | arrayPushed | nullified => exact ⟨fun _ => rfl, fun _ => rfl⟩

/-- A shape is reported only for an array that is there, and has as many extents as it has
dimensions. -/
theorem Step.rank_of_shape? (step : Step package operation after answer) {slot : Nat}
    {foreign : List Int} (reported : Event.shape? slot ⟨operation, answer⟩ = some foreign) :
    ∃ array, package.arrays[slot]? = some array ∧ foreign.length = array.rank := by
  cases step with
  | @shapeReported _ place given array reports found fits =>
      have given : (if place = slot then some given else none) = some foreign := by
        rcases reports with rfl | rfl <;> exact reported
      obtain ⟨rfl, same⟩ := Option.ite_none_right_eq_some.mp given
      cases same
      exact ⟨array, found, fits⟩
  | scalarBound binds => rcases binds with rfl | rfl <;> cases reported
  | arrayBound binds => rcases binds with rfl | rfl <;> cases reported
  | failed failure =>
      rw [(@Event.gives_of_isFailure ⟨operation, answer⟩ failure slot).2.2] at reported
      cases reported
  | scalarPushed | arrayPushed | nullified => cases reported

/-! ### The two tables -/

end Package

/-- The descriptor without the address that it is bound to. -/
def ScalarDescriptor.cleared (scalar : ScalarDescriptor) : ScalarDescriptor :=
  { scalar with address := none }

/-- The descriptor without the address that it is bound to and without its extents. -/
def ArrayDescriptor.cleared (array : ArrayDescriptor) : ArrayDescriptor :=
  { array with address := none, extents := [] }

namespace Package

/-- One of the tables of a module, under what the operations do to it. -/
structure Table (α : Type) where
  entries : Package → List α
  /-- What an operation adds. -/
  pushed? : Operation → Option α
  /-- The address that an event puts into a slot. -/
  bind? : Nat → Event → Option Address
  /-- What becomes of the entry in a slot. -/
  changed : Event → Nat → α → α
  address : α → Option Address
  dynamic : α → Bool
  /-- The entry without what is filled in later. -/
  cleared : α → α
  entries_step : ∀ {package after : Package} {operation : Operation} {answer : Answer},
    Step package operation after answer →
      entries after = (entries package).mapIdx (changed ⟨operation, answer⟩) ++
        (pushed? operation).toList
  /-- Only an entry that is there is bound. -/
  bind?_absent : ∀ {package after : Package} {operation : Operation} {answer : Answer} {slot : Nat},
    Step package operation after answer → (entries package)[slot]? = none →
      bind? slot ⟨operation, answer⟩ = none
  bind?_nullify : ∀ answer slot, bind? slot ⟨.nullifyDynamic, answer⟩ = none
  address_changed : ∀ event slot entry, address (changed event slot entry) =
    if dynamic entry && event.isNullify then none else (bind? slot event).or (address entry)
  dynamic_changed : ∀ event slot entry, dynamic (changed event slot entry) = dynamic entry
  cleared_changed : ∀ event slot entry, cleared (changed event slot entry) = cleared entry

/-- The table of scalars. -/
def scalarEntries : Table ScalarDescriptor where
  entries := Package.scalars
  pushed? := Operation.pushedScalar?
  bind? := Event.scalarBind?
  changed := Event.scalarAfter
  address := ScalarDescriptor.address
  dynamic := ScalarDescriptor.dynamic
  cleared := ScalarDescriptor.cleared
  entries_step := Step.scalars_eq
  bind?_absent step := (step.bind?_of_absent _).1
  bind?_nullify _ _ := rfl
  address_changed _ _ _ := rfl
  dynamic_changed _ _ _ := rfl
  cleared_changed _ _ _ := rfl

/-- The table of arrays. -/
def arrayEntries : Table ArrayDescriptor where
  entries := Package.arrays
  pushed? := Operation.pushedArray?
  bind? := Event.arrayBind?
  changed := Event.arrayAfter
  address := ArrayDescriptor.address
  dynamic := ArrayDescriptor.dynamic
  cleared := ArrayDescriptor.cleared
  entries_step := Step.arrays_eq
  bind?_absent step := (step.bind?_of_absent _).2
  bind?_nullify _ _ := rfl
  address_changed _ _ _ := rfl
  dynamic_changed _ _ _ := rfl
  cleared_changed _ _ _ := rfl

end Package

end ForeignGlue
