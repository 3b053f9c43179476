/-
**Runs of descriptor-table operations.**

Any number of operations may follow one another, and some of them fail. What a run leaves in the
tables can be read off its trace, the operations with their answers:

* `Table.holds_run`: what every step keeps of a slot is true of it after every run;
* `Table.Follows.step`: an entry whose address is as the trace says stays so, and `ShapeFollows.step`
  is the same for the extents of arrays;
* `Table.follows_run`, `shapeFollows_run`: so it is at the end of every run;
* `Table.map_cleared_run`: entries are added at the end, and what is filled in later is all that ever
  changes in them;
* `tables_follow_trace`: the tables at the end of a run.
-/

import ForeignGlue.Proofs.Descriptor.Step
import Mathlib.Data.List.Induction

namespace ForeignGlue

namespace Package

/-- The tables after a run. -/
def run (start : Package) (operations : List Operation) : Package :=
  operations.foldl (fun package operation => (package.perform operation).1) start

/-- The events of a run, in order. -/
def trace : Package → List Operation → List Event
  | _, [] => []
  | package, operation :: operations =>
    package.eventOf operation :: trace (package.perform operation).1 operations

/-- A run, and one operation more. -/
theorem run_concat (start : Package) (operations : List Operation) (last : Operation) :
    run start (operations ++ [last]) = ((run start operations).perform last).1 := by
  rw [run, List.foldl_append]
  rfl

/-- A trace, and one event more. -/
theorem trace_concat (start : Package) (operations : List Operation) (last : Operation) :
    trace start (operations ++ [last]) =
      trace start operations ++ [(run start operations).eventOf last] := by
  induction operations generalizing start with
  | nil => rfl
  | cons operation operations ih =>
      rw [List.cons_append, trace, ih, trace, List.cons_append]
      rfl

/-! ### What a trace says -/

/-- The last value that the events of a trace give, and the events after the one that gives it. -/
def lastGiven {α : Type} (gives : Event → Option α) : List Event → Option (α × List Event)
  | [] => none
  | event :: later => (lastGiven gives later).or ((gives event).map (·, later))

/-- The address that a trace leaves in a slot: that of the last bind, unless the variable is dynamic
and a nullification came after it. -/
def addressLeft (binds : Event → Option Address) (dynamic : Bool) (events : List Event) :
    Option Address :=
  match lastGiven binds events with
  | none => none
  | some (address, after) =>
    if dynamic && after.any Event.isNullify then none else some address

/-- The extents, in host axis order, that a trace leaves in a slot: those of the last report. -/
def extentsLeft (reports : Event → Option (List Int)) (events : List Event) : List Int :=
  match lastGiven reports events with
  | none => []
  | some (foreign, _) => foreign.reverse

/-- A value is the last that the events of a trace give, and `after` is what comes after it. -/
def LastGives {α : Type} (gives : Event → Option α) (events : List Event) (value : α)
    (after : List Event) : Prop :=
  ∃ before event, events = before ++ event :: after ∧ gives event = some value ∧
    ∀ later ∈ after, gives later = none

theorem lastGiven_eq_none_iff {α : Type} {gives : Event → Option α} {events : List Event} :
    lastGiven gives events = none ↔ ∀ event ∈ events, gives event = none := by
  induction events with
  | nil => simp [lastGiven]
  | cons event later ih =>
      rw [lastGiven, Option.or_eq_none_iff, ih, Option.map_eq_none_iff, List.forall_mem_cons]
      exact and_comm

theorem lastGiven_eq_some_iff {α : Type} {gives : Event → Option α} {events : List Event}
    {value : α} {after : List Event} :
    lastGiven gives events = some (value, after) ↔ LastGives gives events value after := by
  induction events with
  | nil => simp [lastGiven, LastGives]
  | cons event later ih =>
      rw [lastGiven, Option.or_eq_some_iff, ih, lastGiven_eq_none_iff, Option.map_eq_some_iff]
      constructor
      · rintro (⟨before, giver, rfl, given, last⟩ | ⟨none, _, given, same⟩)
        · exact ⟨event :: before, giver, rfl, given, last⟩
        · cases same
          exact ⟨[], event, rfl, given, none⟩
      · rintro ⟨before, giver, split, given, last⟩
        cases before with
        | nil =>
            cases split
            exact .inr ⟨last, value, given, rfl⟩
        | cons first before =>
            cases split
            exact .inl ⟨before, giver, rfl, given, last⟩

/-- The last event gives the value, or else one before it does. -/
theorem lastGiven_concat {α : Type} (gives : Event → Option α) (events : List Event)
    (last : Event) : lastGiven gives (events ++ [last]) =
      ((gives last).map (·, [])).or
        ((lastGiven gives events).map fun (value, after) => (value, after ++ [last])) := by
  induction events with
  | nil => simp [lastGiven]
  | cons event events ih =>
      rw [List.cons_append, lastGiven, ih, lastGiven]
      cases gives last <;> cases lastGiven gives events <;> cases gives event <;> rfl

/-- **The address that a trace leaves**, one event later. -/
theorem addressLeft_concat {binds : Event → Option Address} (dynamic : Bool) (events : List Event)
    {last : Event} (apart : last.isNullify → binds last = none) :
    addressLeft binds dynamic (events ++ [last]) =
      if dynamic && last.isNullify then none
      else (binds last).or (addressLeft binds dynamic events) := by
  rw [addressLeft, addressLeft, lastGiven_concat]
  cases nullify : last.isNullify with
  | true =>
      rw [apart nullify]
      cases lastGiven binds events <;> cases dynamic <;> simp [nullify]
  | false => cases binds last <;> cases lastGiven binds events <;> simp [nullify]

/-- **The extents that a trace leaves**, one event later. -/
theorem extentsLeft_concat (reports : Event → Option (List Int)) (events : List Event)
    (last : Event) : extentsLeft reports (events ++ [last]) =
      ((reports last).map List.reverse).getD (extentsLeft reports events) := by
  rw [extentsLeft, extentsLeft, lastGiven_concat]
  cases reports last <;> cases lastGiven reports events <;> rfl

/-- An address is left if it was bound and, in a dynamic variable, not cleared since. -/
theorem addressLeft_eq_some_iff {binds : Event → Option Address} {dynamic : Bool}
    {events : List Event} {address : Address} :
    addressLeft binds dynamic events = some address ↔ ∃ after,
      LastGives binds events address after ∧ ¬(dynamic ∧ ∃ later ∈ after, later.isNullify) := by
  simp only [← lastGiven_eq_some_iff, addressLeft]
  cases lastGiven binds events with
  | none => simp
  | some last =>
      obtain ⟨given, after⟩ := last
      have taken : (dynamic && after.any Event.isNullify) = true ↔
          dynamic ∧ ∃ later ∈ after, later.isNullify := by simp
      by_cases nullified : (dynamic && after.any Event.isNullify) = true
      · simp only [if_pos nullified]
        refine iff_of_false nofun ?_
        rintro ⟨_, same, kept⟩
        cases same
        exact kept (taken.mp nullified)
      · simp only [if_neg nullified]
        constructor
        · intro same
          cases same
          exact ⟨after, rfl, mt taken.mpr nullified⟩
        · rintro ⟨_, same, _⟩
          cases same
          rfl

/-! ### One induction over a run -/

variable {package after : Package} {operation : Operation} {answer : Answer}

/-- What is true of a slot before any event, if it holds nothing or a fresh entry, and is kept by
every step that adds a fresh entry at most, is true after every run. -/
theorem Table.holds_run {α : Type} (table : Table α) {fresh : α → Prop}
    {holds : List Event → Nat → Option α → Prop} {slot : Nat} (absent : holds [] slot none)
    (begins : ∀ entry, fresh entry → holds [] slot (some entry))
    (kept : ∀ {events : List Event} {package after : Package} {operation : Operation}
      {answer : Answer}, holds events slot (table.entries package)[slot]? →
      Step package operation after answer →
      (∀ entry, table.pushed? operation = some entry → fresh entry) →
      holds (events ++ [⟨operation, answer⟩]) slot (table.entries after)[slot]?)
    {start : Package} {operations : List Operation}
    (allFresh : ∀ entry ∈ table.entries start ++ operations.filterMap table.pushed?, fresh entry) :
    holds (trace start operations) slot (table.entries (run start operations))[slot]? := by
  induction operations using List.reverseRecOn with
  | nil =>
      show holds [] slot (table.entries start)[slot]?
      cases found : (table.entries start)[slot]? with
      | none => exact absent
      | some entry =>
          exact begins entry (allFresh entry (List.mem_append_left _ (List.mem_of_getElem? found)))
  | append_singleton operations last ih =>
      rw [List.filterMap_append, ← List.append_assoc] at allFresh
      rw [run_concat, trace_concat]
      refine kept (ih fun entry member => allFresh entry (List.mem_append_left _ member))
        (step_perform _ last) fun entry pushed => ?_
      refine allFresh entry (List.mem_append_right _ ?_)
      rw [List.filterMap_cons_some pushed]
      exact List.mem_cons_self

/-! ### Addresses -/

/-- What is in a slot of a table is bound as the events say. A slot that is not there has not been
bound. -/
def Table.Follows {α : Type} (table : Table α) (events : List Event) (slot : Nat) :
    Option α → Prop
  | none => lastGiven (table.bind? slot) events = none
  | some entry => table.address entry = addressLeft (table.bind? slot) (table.dynamic entry) events

/-- **One operation keeps a slot in step with the trace.** -/
theorem Table.Follows.step {α : Type} {table : Table α} {events : List Event} {slot : Nat}
    (follows : table.Follows events slot (table.entries package)[slot]?)
    (step : Step package operation after answer)
    (unbound : ∀ entry, table.pushed? operation = some entry → table.address entry = none) :
    table.Follows (events ++ [⟨operation, answer⟩]) slot (table.entries after)[slot]? := by
  rw [table.entries_step step, getElem?_mapIdx_append]
  cases found : (table.entries package)[slot]? with
  | some entry =>
      rw [found] at follows
      have apart : Event.isNullify ⟨operation, answer⟩ →
          table.bind? slot ⟨operation, answer⟩ = none := by
        intro nullify
        rw [show operation = .nullifyDynamic from eq_of_beq nullify]
        exact table.bind?_nullify answer slot
      show table.address _ = addressLeft _ (table.dynamic _) _
      rw [table.address_changed, table.dynamic_changed, addressLeft_concat _ _ apart, ← follows]
  | none =>
      rw [found] at follows
      have never : lastGiven (table.bind? slot) (events ++ [⟨operation, answer⟩]) = none := by
        rw [lastGiven_concat, table.bind?_absent step found, follows]
        rfl
      by_cases next : slot = (table.entries package).length
      · rw [if_pos next]
        cases pushed : table.pushed? operation with
        | none => exact never
        | some entry =>
            show table.address entry = addressLeft _ _ _
            rw [unbound entry pushed, addressLeft, never]
      · rw [if_neg next]
        exact never

/-- **Addresses follow the trace.** -/
theorem Table.follows_run {α : Type} {table : Table α} {start : Package}
    {operations : List Operation} (fresh : ∀ entry ∈ table.entries start ++
      operations.filterMap table.pushed?, table.address entry = none) (slot : Nat) :
    table.Follows (trace start operations) slot (table.entries (run start operations))[slot]? :=
  table.holds_run rfl (fun _ unbound => unbound) Table.Follows.step fresh

/-! ### Extents -/

/-- The array in a slot has the extents that the events say, none of them or as many as it has
dimensions. The shape of an array that is not there has not been reported. -/
def ShapeFollows (events : List Event) (slot : Nat) : Option ArrayDescriptor → Prop
  | none => lastGiven (Event.shape? slot) events = none
  | some array => array.extents = extentsLeft (Event.shape? slot) events ∧
      (array.extents = [] ∨ array.extents.length = array.rank)

/-- **One operation keeps the extents of a slot in step with the trace.** -/
theorem ShapeFollows.step {events : List Event} {slot : Nat}
    (follows : ShapeFollows events slot package.arrays[slot]?)
    (step : Step package operation after answer)
    (unshaped : ∀ array, operation.pushedArray? = some array → array.extents = []) :
    ShapeFollows (events ++ [⟨operation, answer⟩]) slot after.arrays[slot]? := by
  rw [step.arrays_eq, getElem?_mapIdx_append]
  cases found : package.arrays[slot]? with
  | some array =>
      rw [found] at follows
      obtain ⟨extents, known⟩ := follows
      constructor
      · rw [extentsLeft_concat, ← extents]
        rfl
      · cases reported : Event.shape? slot ⟨operation, answer⟩ with
        | none => simpa [Event.arrayAfter, reported] using known
        | some foreign =>
            obtain ⟨_, same, fits⟩ := step.rank_of_shape? reported
            rw [found] at same
            cases same
            right
            simpa [Event.arrayAfter, reported] using fits
  | none =>
      rw [found] at follows
      have unreported : Event.shape? slot ⟨operation, answer⟩ = none := by
        rw [Option.eq_none_iff_forall_ne_some]
        intro foreign reported
        obtain ⟨_, there, _⟩ := step.rank_of_shape? reported
        rw [found] at there
        cases there
      have never : lastGiven (Event.shape? slot) (events ++ [⟨operation, answer⟩]) = none := by
        rw [lastGiven_concat, unreported, follows]
        rfl
      by_cases next : slot = package.arrays.length
      · rw [if_pos next]
        cases pushed : operation.pushedArray? with
        | none => exact never
        | some array =>
            refine ⟨?_, .inl (unshaped array pushed)⟩
            rw [unshaped array pushed, extentsLeft, never]
      · rw [if_neg next]
        exact never

/-- **Extents follow the trace.** -/
theorem shapeFollows_run {start : Package} {operations : List Operation}
    (fresh : ∀ array ∈ start.arrays ++ operations.filterMap Operation.pushedArray?,
      array.extents = []) (slot : Nat) :
    ShapeFollows (trace start operations) slot (run start operations).arrays[slot]? :=
  arrayEntries.holds_run rfl (fun _ extents => ⟨extents, .inl extents⟩) ShapeFollows.step fresh

/-! ### What never changes -/

/-- A view of the entries that no change shows in. -/
theorem map_mapIdx_of_untouched {α β : Type} {view : α → β} {change : Nat → α → α}
    (untouched : ∀ slot entry, view (change slot entry) = view entry) (entries : List α) :
    (entries.mapIdx change).map view = entries.map view := by
  apply List.ext_getElem?
  intro slot
  rw [List.getElem?_map, List.getElem?_map, List.getElem?_mapIdx, Option.map_map]
  exact congrArg (Option.map · entries[slot]?) (funext (untouched slot))

/-- **A table grows at its end**, and what is filled in later is all that changes in it. -/
theorem Table.map_cleared_run {α : Type} (table : Table α) (start : Package)
    (operations : List Operation) :
    (table.entries (run start operations)).map table.cleared =
      (table.entries start ++ operations.filterMap table.pushed?).map table.cleared := by
  induction operations using List.reverseRecOn with
  | nil =>
      rw [List.filterMap_nil, List.append_nil]
      rfl
  | append_singleton operations last ih =>
      rw [run_concat, table.entries_step (step_perform _ _), List.filterMap_append,
        ← List.append_assoc, List.map_append, List.map_append, ← ih,
        map_mapIdx_of_untouched (table.cleared_changed _)]
      cases pushed : table.pushed? last <;> simp [pushed]

/-- The slot that a push takes stays that of what was pushed. -/
theorem Table.getElem?_run {α : Type} (table : Table α) (start : Package)
    (before later : List Operation) {push : Operation} {entry : α}
    (pushes : table.pushed? push = some entry) :
    (table.entries (run start (before ++ push :: later)))[(table.entries
      (run start before)).length]?.map table.cleared = some (table.cleared entry) := by
  have size := congrArg List.length (table.map_cleared_run start before)
  rw [List.length_map] at size
  rw [← List.getElem?_map, table.map_cleared_run, List.filterMap_append, ← List.append_assoc,
    List.map_append, size, List.getElem?_append_right (Nat.le_refl _), Nat.sub_self,
    List.filterMap_cons_some pushes]
  rfl

/-- No operation renames the module. -/
theorem module_run (start : Package) (operations : List Operation) :
    (run start operations).module = start.module := by
  induction operations using List.reverseRecOn with
  | nil => rfl
  | append_singleton operations last ih =>
      rw [run_concat, ← ih]
      have step := step_perform (run start operations) last
      generalize ((run start operations).perform last).1 = after,
        ((run start operations).perform last).2 = answer at step
      cases step <;> rfl

/-! ### Tables at the end of a run -/

/-- Tables that a run starts from. -/
inductive IsStart : Package → Prop where
  | empty (module : String) : IsStart { module }
  | laidOut (ctx : Context) : IsStart ctx.package

/-- An operation that pushes nothing but what is neither bound nor shaped yet. -/
def Operation.PushesUnbound (operation : Operation) : Prop :=
  (∀ scalar, operation.pushedScalar? = some scalar → scalar.address = none) ∧
    ∀ array, operation.pushedArray? = some array → array.address = none ∧ array.extents = []

section

variable {start : Package} {operations : List Operation}

theorem IsStart.scalars_unbound (begins : start.IsStart)
    (unbound : ∀ operation ∈ operations, operation.PushesUnbound) :
    ∀ scalar ∈ start.scalars ++ operations.filterMap Operation.pushedScalar?,
      scalar.address = none := by
  intro scalar member
  rcases List.mem_append.mp member with first | pushed
  · cases begins with
    | empty module => cases first
    | laidOut ctx =>
        obtain ⟨v, -, rfl⟩ := List.mem_map.mp first
        rfl
  · obtain ⟨operation, known, found⟩ := List.mem_filterMap.mp pushed
    exact (unbound operation known).1 scalar found

/-- All arrays that ever come start without address and extents. -/
theorem IsStart.arrays_unbound (begins : start.IsStart)
    (unbound : ∀ operation ∈ operations, operation.PushesUnbound) :
    ∀ array ∈ start.arrays ++ operations.filterMap Operation.pushedArray?,
      array.address = none ∧ array.extents = [] := by
  intro array member
  rcases List.mem_append.mp member with first | pushed
  · cases begins with
    | empty module => cases first
    | laidOut ctx =>
        obtain ⟨v, -, rfl⟩ := List.mem_map.mp first
        exact ⟨rfl, rfl⟩
  · obtain ⟨operation, known, found⟩ := List.mem_filterMap.mp pushed
    exact (unbound operation known).2 array found

end

theorem cleared_of_unbound {scalar : ScalarDescriptor} (unbound : scalar.address = none) :
    scalar.cleared = scalar := by
  rw [ScalarDescriptor.cleared, ← unbound]

theorem cleared_of_unshaped {array : ArrayDescriptor}
    (unbound : array.address = none ∧ array.extents = []) : array.cleared = array := by
  rw [ArrayDescriptor.cleared, ← unbound.1, ← unbound.2]

/-- **What a run leaves in the tables**, as its trace says it. -/
structure FollowsTrace (start : Package) (operations : List Operation) : Prop where
  /-- A scalar holds the address of its last bind, if no nullification took it away since. -/
  scalarAddress : ∀ slot scalar, (run start operations).scalars[slot]? = some scalar →
    ∀ address, scalar.address = some address ↔
      ∃ after, LastGives (Event.scalarBind? slot) (trace start operations) address after ∧
        ¬(scalar.dynamic ∧ ∃ later ∈ after, later.isNullify)
  /-- An array holds the address of its last bind, if no nullification took it away since. -/
  arrayAddress : ∀ slot array, (run start operations).arrays[slot]? = some array →
    ∀ address, array.address = some address ↔
      ∃ after, LastGives (Event.arrayBind? slot) (trace start operations) address after ∧
        ¬(array.dynamic ∧ ∃ later ∈ after, later.isNullify)
  /-- An array has the extents of its last shape, in reverse order, and none before that. -/
  extents : ∀ slot array, (run start operations).arrays[slot]? = some array →
    (∃ foreign after, LastGives (Event.shape? slot) (trace start operations) foreign after ∧
      array.extents = foreign.reverse) ∨
    (∀ event ∈ trace start operations, event.shape? slot = none) ∧ array.extents = []
  rank : ∀ array ∈ (run start operations).arrays,
    array.extents.length = 0 ∨ array.extents.length = array.rank
  module : (run start operations).module = start.module
  /-- All else in the tables is what was there at the start and what was pushed, in order. -/
  scalars : (run start operations).scalars.map ScalarDescriptor.cleared =
    start.scalars ++ operations.filterMap Operation.pushedScalar?
  arrays : (run start operations).arrays.map ArrayDescriptor.cleared =
    start.arrays ++ operations.filterMap Operation.pushedArray?
  /-- The slot that a push tells is still that of the descriptor. -/
  scalarSlot : ∀ before scalar later, operations = before ++ .pushScalar scalar :: later →
    ∃ slot, ((run start before).perform (.pushScalar scalar)).2 = .slot slot ∧
      (run start operations).scalars[slot]?.map ScalarDescriptor.cleared = some scalar
  arraySlot : ∀ before array later, operations = before ++ .pushArray array :: later →
    ∃ slot, ((run start before).perform (.pushArray array)).2 = .slot slot ∧
      (run start operations).arrays[slot]?.map ArrayDescriptor.cleared = some array
  /-- Exactly the operations that were not possible failed, and they changed nothing. -/
  failure : ∀ before operation later, operations = before ++ operation :: later →
    (((run start before).perform operation).2.isFailure ↔
      ¬operation.IsPossible (run start before)) ∧
    (((run start before).perform operation).2.isFailure →
      run start (before ++ [operation]) = run start before)

/-- **Runs of the descriptor tables.** Whatever operations follow one another, at the end every entry
is bound to what its last bind gave, unless it is dynamic and was nullified since, every shape is the
last one reported, and all else is as it was laid out and pushed. A slot once told stays valid, and
operations that failed left no trace in the tables. -/
theorem tables_follow_trace {start : Package} (begins : start.IsStart) {operations : List Operation}
    (unbound : ∀ operation ∈ operations, operation.PushesUnbound) :
    start.FollowsTrace operations := by
  have scalarsFresh := begins.scalars_unbound unbound
  have arraysFresh := begins.arrays_unbound unbound
  have shapes := shapeFollows_run fun array member => (arraysFresh array member).2
  constructor
  case scalarAddress =>
    intro slot scalar found address
    have entry : scalarEntries.Follows _ _ (run start operations).scalars[slot]? :=
      Table.follows_run scalarsFresh slot
    rw [found] at entry
    exact (Eq.congr_left entry).trans addressLeft_eq_some_iff
  case arrayAddress =>
    intro slot array found address
    have entry : arrayEntries.Follows _ _ (run start operations).arrays[slot]? :=
      Table.follows_run (fun array member => (arraysFresh array member).1) slot
    rw [found] at entry
    exact (Eq.congr_left entry).trans addressLeft_eq_some_iff
  case extents =>
    intro slot array found
    have entry := shapes slot
    rw [found] at entry
    rw [entry.1, extentsLeft]
    cases reported : lastGiven (Event.shape? slot) (trace start operations) with
    | none => exact .inr ⟨lastGiven_eq_none_iff.mp reported, rfl⟩
    | some last => exact .inl ⟨last.1, last.2, lastGiven_eq_some_iff.mp reported, rfl⟩
  case rank =>
    intro array member
    obtain ⟨slot, found⟩ := List.mem_iff_getElem?.mp member
    have entry := shapes slot
    rw [found] at entry
    exact entry.2.imp_left List.length_eq_zero_iff.mpr
  case module => exact module_run start operations
  case scalars =>
    refine (scalarEntries.map_cleared_run start operations).trans ?_
    exact (List.map_congr_left fun scalar member =>
      cleared_of_unbound (scalarsFresh scalar member)).trans (List.map_id _)
  case arrays =>
    refine (arrayEntries.map_cleared_run start operations).trans ?_
    exact (List.map_congr_left fun array member =>
      cleared_of_unshaped (arraysFresh array member)).trans (List.map_id _)
  case scalarSlot =>
    rintro before scalar later rfl
    have pushed := unbound (.pushScalar scalar) (by simp)
    refine ⟨(run start before).scalars.length, rfl, ?_⟩
    exact (scalarEntries.getElem?_run start before later rfl).trans
      (congrArg some (cleared_of_unbound (pushed.1 scalar rfl)))
  case arraySlot =>
    rintro before array later rfl
    have pushed := unbound (.pushArray array) (by simp)
    refine ⟨(run start before).arrays.length, rfl, ?_⟩
    exact (arrayEntries.getElem?_run start before later rfl).trans
      (congrArg some (cleared_of_unshaped (pushed.2 array rfl)))
  case failure =>
    intro before operation later _
    refine ⟨isFailure_perform_iff _ _, fun failed => ?_⟩
    rw [run_concat, perform_of_isFailure failed]

/-- A size, a pointer and a dynamic vector. -/
def gridContext : Context where
  inventory := .ofInterface
    { module := "grid"
      declarations := [.variable (.scalar "nx" .integer "mesh"),
        .variable { Variable.scalar "step" .real "mesh" with dynamic := true },
        .variable { Variable.array "field" .real "mesh" [⟨"1", "nx"⟩] with dynamic := true }] }

/-- Binds by slot and through a handle, two of them lost to a nullification, a matrix that is pushed
late, and two operations that fail. -/
def gridRun : List Operation :=
  [.bindScalar 0 0x1000, .bindRecord 1 0x2000, .bindArray 0 0x3000, .syncShape 0 [4, 5],
   .pushArray { name := "flux", rank := 2 }, .handleSync 1 [4, 5], .nullifyDynamic,
   .bindScalar 7 0x4000, .handleBind 1 0x5000]

/-- The static scalar keeps its address, the dynamic variables lose theirs, and the late matrix has what
came last. -/
theorem tables_follow_gridRun :
    gridContext.package.IsStart ∧ (∀ operation ∈ gridRun, operation.PushesUnbound) ∧
    gridContext.package.FollowsTrace gridRun ∧
    (run gridContext.package gridRun).scalars.map ScalarDescriptor.address = [some 0x1000, none] ∧
    (run gridContext.package gridRun).arrays.map (fun array => (array.address, array.extents)) =
      [(none, []), (some 0x5000, [5, 4])] := by
  have begins : gridContext.package.IsStart := .laidOut gridContext
  have unbound : ∀ operation ∈ gridRun, operation.PushesUnbound := by
    simp [gridRun, Operation.PushesUnbound, Operation.pushedScalar?, Operation.pushedArray?]
  exact ⟨begins, unbound, tables_follow_trace begins unbound, by decide +kernel, by decide +kernel⟩

end Package

end ForeignGlue
