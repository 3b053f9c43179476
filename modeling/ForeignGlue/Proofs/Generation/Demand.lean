/-
**What a computation demands of a scope.**

A computation that renders bounds looks names up, and fails at one that is not there. It demands a
set of names (`Demands`) if it gets by without a failure only where all of them resolve, and if it
fails only at one of them that does not, or at a line that cannot be broken. Demands add up: over
alternatives (`Demands.or`), over the items of a loop (`Demands.forEach`), and over a sequence of steps
that stops at the first failure (`Demands.selected`).

* `Scope.demands_pieces`, `Scope.demands_extent`: a bound demands its names that are not bound;
* `Scope.demands_groupsIn`: a shape text demands all of its names;
* `Source.Draft.demands_finish`: a source demands what its pieces demand.
-/

import ForeignGlue.Generation
import ForeignGlue.Proofs.Outcome

namespace ForeignGlue

open ForeignGlue.Source

/-- The names that a computation demands, given by the errors it may end with. -/
structure Demands (scope : Scope) (fails : GenerationError → Prop) (needs : String → Prop) :
    Prop where
  resolved : (∀ error, ¬fails error) → ∀ name, needs name → ∃ slot, scope.resolve name = .ok slot
  blamed : ∀ error, fails error →
    (∃ name, needs name ∧ scope.resolve name = .error error) ∨ ∃ line, error = .noLineBreak line

namespace Demands

variable {scope : Scope} {fails others : GenerationError → Prop} {needs wants : String → Prop}

/-- Other words for the failures and the names. -/
theorem congr (demands : Demands scope fails needs) (same : ∀ error, others error ↔ fails error)
    (names : ∀ name, wants name ↔ needs name) : Demands scope others wants := by
  obtain rfl : others = fails := funext fun error => propext (same error)
  obtain rfl : wants = needs := funext fun name => propext (names name)
  exact demands

/-- A computation that stops at one of the failures that another one has. -/
theorem selected (demands : Demands scope fails needs) (sound : ∀ error, others error → fails error)
    (complete : (∀ error, ¬others error) → ∀ error, ¬fails error) : Demands scope others needs where
  resolved none := demands.resolved (complete none)
  blamed error failed := demands.blamed error (sound error failed)

/-- Two sources of failures. -/
theorem or (first : Demands scope fails needs) (second : Demands scope others wants) :
    Demands scope (fun error => fails error ∨ others error)
      (fun name => needs name ∨ wants name) where
  resolved none name needed := by
    rcases needed with needed | wanted
    · exact first.resolved (fun error failed => none error (.inl failed)) name needed
    · exact second.resolved (fun error failed => none error (.inr failed)) name wanted
  blamed error failed := by
    rcases failed with failed | failed
    · exact (first.blamed error failed).imp_left fun ⟨name, needed, missing⟩ =>
        ⟨name, .inl needed, missing⟩
    · exact (second.blamed error failed).imp_left fun ⟨name, wanted, missing⟩ =>
        ⟨name, .inr wanted, missing⟩

/-- A source of failures for each item of a list. -/
theorem forEach {α : Type} {items : List α} {failsAt : α → GenerationError → Prop}
    {needsAt : α → String → Prop}
    (each : ∀ item ∈ items, Demands scope (failsAt item) (needsAt item)) :
    Demands scope (fun error => ∃ item ∈ items, failsAt item error)
      (fun name => ∃ item ∈ items, needsAt item name) where
  resolved none := by
    rintro name ⟨item, member, needed⟩
    exact (each item member).resolved (fun error failed => none error ⟨item, member, failed⟩) name
      needed
  blamed := by
    rintro error ⟨item, member, failed⟩
    exact ((each item member).blamed error failed).imp_left fun ⟨name, needed, missing⟩ =>
      ⟨name, ⟨item, member, needed⟩, missing⟩

/-- What cannot fail demands nothing. -/
theorem nothing : Demands scope (fun _ => False) fun _ => False where
  resolved _ _ := False.elim
  blamed _ := False.elim

/-- What is done only under a condition is demanded only under this condition. -/
theorem when {condition : Prop} (demands : Demands scope fails needs) :
    Demands scope (fun error => condition ∧ fails error) fun name => condition ∧ needs name where
  resolved none := by
    rintro name ⟨holds, needed⟩
    exact demands.resolved (fun error failed => none error ⟨holds, failed⟩) name needed
  blamed := by
    rintro error ⟨holds, failed⟩
    exact (demands.blamed error failed).imp_left fun ⟨name, needed, missing⟩ =>
      ⟨name, ⟨holds, needed⟩, missing⟩

/-- Lines that are written on top demand nothing more. -/
theorem orBreaking (demands : Demands scope fails needs)
    (onlyBreaks : ∀ error, others error → ∃ line, error = .noLineBreak line) :
    Demands scope (fun error => fails error ∨ others error) needs where
  resolved none := demands.resolved fun error failed => none error (.inl failed)
  blamed error failed := by
    rcases failed with failed | failed
    · exact demands.blamed error failed
    · exact .inr (onlyBreaks error failed)

/-- One step after another. -/
theorem bind {α β : Type} {step : Except GenerationError α} {next : α → Except GenerationError β}
    (first : Demands scope (step = .error ·) needs)
    (second : ∀ value, step = .ok value → Demands scope (next value = .error ·) wants) :
    Demands scope ((step >>= next) = .error ·) (fun name => needs name ∨ wants name) where
  resolved none name needed := by
    cases done : step with
    | error fault => exact absurd (bind_eq_error_iff.mpr (.inl done)) (none fault)
    | ok value =>
        rcases needed with needed | wanted
        · refine first.resolved (fun error failed => ?_) name needed
          rw [done] at failed
          cases failed
        · refine (second value done).resolved (fun error failed => ?_) name wanted
          exact none error (bind_eq_error_iff.mpr (.inr ⟨value, done, failed⟩))
  blamed error failed := by
    rcases bind_eq_error_iff.mp failed with failed | ⟨value, done, failed⟩
    · exact (first.blamed error failed).imp_left fun ⟨name, needed, missing⟩ =>
        ⟨name, .inl needed, missing⟩
    · exact ((second value done).blamed error failed).imp_left fun ⟨name, wanted, missing⟩ =>
        ⟨name, .inr wanted, missing⟩

/-- What is made from the value of a computation, without failing, demands the same. -/
theorem map {α β : Type} {outcome : Except GenerationError α} (change : α → β)
    (demands : Demands scope (outcome = .error ·) needs) :
    Demands scope (outcome.map change = .error ·) needs :=
  demands.congr (fun _ => map_eq_error_iff) fun _ => .rfl

theorem bindPure {α β : Type} {step : Except GenerationError α} (change : α → β)
    (demands : Demands scope (step = .error ·) needs) :
    Demands scope ((step >>= fun value => pure (change value)) = .error ·) needs := by
  rw [bind_pure_comp]
  exact demands.map change

end Demands

/-! ### Lists of outcomes -/

section Collect

variable {α : Type} {outcomes : List (Except GenerationError α)}

theorem error_mem_of_collect {error : GenerationError} (failed : collect outcomes = .error error) :
    .error error ∈ outcomes := by
  induction outcomes with
  | nil => cases failed
  | cons outcome outcomes ih =>
      cases outcome with
      | error first =>
          rw [collect] at failed
          exact Except.error.inj failed ▸ List.mem_cons_self
      | ok value =>
          rw [collect] at failed
          split at failed
          · next found => exact List.mem_cons_of_mem _ (ih (failed ▸ found))
          · cases failed

/-- One failure is enough. -/
theorem exists_collect_eq_error {error : GenerationError} (member : .error error ∈ outcomes) :
    ∃ first, collect outcomes = .error first := by
  induction outcomes with
  | nil => cases member
  | cons outcome outcomes ih =>
      cases outcome with
      | error first => exact ⟨first, rfl⟩
      | ok value =>
          obtain ⟨first, found⟩ := ih (by simpa using member)
          exact ⟨first, by rw [collect, found]⟩

/-- All outcomes are there exactly if none failed. -/
theorem collect_eq_ok_iff {values : List α} :
    collect outcomes = .ok values ↔ outcomes = values.map .ok := by
  induction outcomes generalizing values with
  | nil => cases values <;> simp [collect]
  | cons outcome outcomes ih =>
      cases outcome with
      | error error => cases values <;> simp [collect]
      | ok value =>
          rw [collect]
          constructor
          · intro done
            split at done
            · cases done
            · next rest found =>
                rw [← Except.ok.inj done, ih.mp found]
                rfl
          · intro spelled
            cases values with
            | nil => cases spelled
            | cons first rest =>
                obtain ⟨same, others⟩ := List.cons.inj spelled
                rw [ih.mpr others, Except.ok.inj same]

/-- Lists of outcomes that end alike one by one end alike altogether. -/
theorem Alike.collect {β : Type} {results : α → β → Prop}
    {faults : GenerationError → GenerationError → Prop} {others : List (Except GenerationError β)}
    (each : List.Forall₂ (Alike results faults) outcomes others) :
    Alike (List.Forall₂ results) faults (ForeignGlue.collect outcomes)
      (ForeignGlue.collect others) := by
  induction each with
  | nil => exact .ok .nil
  | @cons _ _ items otherItems here _ ih =>
      cases here with
      | error related => exact .error related
      | ok related =>
          rw [ForeignGlue.collect, ForeignGlue.collect]
          generalize ForeignGlue.collect items = rest, ForeignGlue.collect otherItems = otherRest
            at ih ⊢
          cases ih with
          | error laterFails => exact .error laterFails
          | ok later => exact .ok (.cons related later)

theorem Demands.collected {scope : Scope} {needs : String → Prop}
    (demands : Demands scope (.error · ∈ outcomes) needs) :
    Demands scope (ForeignGlue.collect outcomes = .error ·) needs := by
  refine demands.selected (fun error => error_mem_of_collect) fun none error member => ?_
  obtain ⟨first, stopped⟩ := exists_collect_eq_error member
  exact none first stopped

/-- Outcomes that are collected demand what each of them demands. -/
theorem Demands.collect {β : Type} {scope : Scope} {items : List β} {needsAt : β → String → Prop}
    {outcome : β → Except GenerationError α}
    (each : ∀ item ∈ items, Demands scope (outcome item = .error ·) (needsAt item)) :
    Demands scope (ForeignGlue.collect (items.map outcome) = .error ·)
      (fun name => ∃ item ∈ items, needsAt item name) :=
  ((Demands.forEach each).congr (fun _ => List.mem_map) fun _ => .rfl).collected

end Collect

/-! ### Bounds and shape texts -/

/-- A name that one of the two expressions of a bound mentions. -/
def Bound.Mentions (bound : Bound) (name : String) : Prop :=
  name ∈ Expression.names bound.low ∨ name ∈ Expression.names bound.high

namespace Scope

variable (scope : Scope)

/-- Resolving a name asks for this name. -/
theorem demands_resolve (name : String) :
    Demands scope (scope.resolve name = .error ·) (· = name) where
  resolved none other same := by
    cases found : scope.resolve name with
    | error error => exact absurd found (none error)
    | ok slot => exact ⟨slot, same ▸ found⟩
  blamed error failed := .inl ⟨name, rfl, failed⟩

/-- Rendering a token asks for its name, unless it is bound. -/
theorem demands_piece (binding : Binding) (token : Expression.Token) :
    Demands scope (scope.piece binding token = .error ·) fun name =>
      token.kind = .name ∧ token.text = name ∧ binding name = none := by
  unfold piece
  cases token.kind with
  | name =>
      dsimp only
      cases bound : binding token.text with
      | some label =>
          refine Demands.nothing.congr (fun _ => by simp) fun name => ?_
          rw [iff_false]
          rintro ⟨-, rfl, free⟩
          rw [bound] at free
          cases free
      | none =>
          refine ((scope.demands_resolve token.text).map Piece.slot).congr (fun _ => .rfl) ?_
          intro name
          constructor
          · rintro ⟨-, same, -⟩
            exact same.symm
          · rintro rfl
            exact ⟨rfl, rfl, bound⟩
  | number => exact Demands.nothing.congr (fun _ => by simp) fun _ => by simp
  | other => exact Demands.nothing.congr (fun _ => by simp) fun _ => by simp

/-- **The names of a bound** are demanded, unless they are bound to local variables. -/
theorem demands_pieces (binding : Binding) (expression : String) :
    Demands scope (scope.pieces binding expression = .error ·) fun name =>
      name ∈ Expression.names expression ∧ binding name = none := by
  refine (Demands.collect fun token _ => scope.demands_piece binding token).congr
    (fun _ => .rfl) fun name => ?_
  rw [Expression.names, List.mem_map]
  constructor
  · rintro ⟨⟨token, member, rfl⟩, free⟩
    obtain ⟨member, isName⟩ := List.mem_filter.mp member
    exact ⟨token, member, beq_iff_eq.mp isName, rfl, free⟩
  · rintro ⟨token, member, isName, rfl, free⟩
    exact ⟨⟨token, List.mem_filter.mpr ⟨member, beq_iff_eq.mpr isName⟩, rfl⟩, free⟩

/-- A shape text demands its names. -/
theorem demands_groupsIn (shape : String) :
    Demands scope (scope.groupsIn shape = .error ·) (· ∈ Expression.names shape) := by
  refine ((Demands.collect fun name _ => scope.demands_resolve name).bindPure _).congr
    (fun _ => .rfl) fun name => ?_
  simp only [exists_eq_right']

/-- The extent of a dimension demands the names of both bounds. -/
theorem demands_extent (binding : Binding) (bound : Bound) :
    Demands scope (scope.extent binding bound = .error ·) fun name =>
      bound.Mentions name ∧ binding name = none := by
  have low := scope.demands_pieces binding bound.low
  refine ((scope.demands_pieces binding bound.high).bind fun high _ => low.bindPure _).congr
    (fun _ => .rfl) fun name => ?_
  rw [Bound.Mentions, or_comm, or_and_right]

end Scope

/-! ### Source text -/

namespace Source

namespace Draft

variable {scope : Scope} {needs : String → Prop} {error : GenerationError}

theorem error_mem_ofList {α : Type} (items : List α) : .error error ∉ Draft.ofList items := by
  simp [Draft.ofList]

/-- A piece failed before, or fails now. -/
theorem error_mem_refine {α β : Type} {work : α → Except GenerationError β} {draft : Draft α} :
    .error error ∈ draft.refine work ↔
      .error error ∈ draft ∨ ∃ piece, .ok piece ∈ draft ∧ work piece = .error error := by
  rw [refine, List.mem_map]
  constructor
  · rintro ⟨_ | piece, member, worked⟩
    · exact .inl (Except.error.inj worked ▸ member)
    · exact .inr ⟨piece, member, worked⟩
  · rintro (member | ⟨piece, member, worked⟩)
    · exact ⟨.error error, member, rfl⟩
    · exact ⟨.ok piece, member, worked⟩

theorem finish_eq_map_collect (draft : Draft String) :
    draft.finish = (collect draft).map String.join := by
  induction draft with
  | nil => rfl
  | cons piece draft ih =>
      cases piece with
      | error error => rfl
      | ok text =>
          rw [finish, collect, ih]
          cases collect draft with
          | error error => rfl
          | ok texts => exact congrArg Except.ok String.join_cons.symm

/-- **A draft is finished** exactly if none of its pieces failed. -/
theorem finish_eq_ok_iff {draft : Draft String} {text : String} :
    draft.finish = .ok text ↔ ∃ texts, draft = ofList texts ∧ text = String.join texts := by
  rw [finish_eq_map_collect, map_eq_ok_iff]
  constructor
  · intro ⟨texts, done, joined⟩
    exact ⟨texts, collect_eq_ok_iff.mp done, joined.symm⟩
  · intro ⟨texts, spelled, joined⟩
    exact ⟨texts, collect_eq_ok_iff.mpr spelled, joined.symm⟩

/-- **A source** demands what its pieces demand. -/
theorem demands_finish {draft : Draft String} (demands : Demands scope (.error · ∈ draft) needs) :
    Demands scope (draft.finish = .error ·) needs := by
  rw [finish_eq_map_collect]
  exact demands.collected.map _

end Draft

/-- Laying out a line fails only for want of a place to break it. -/
theorem Line.exists_of_write_eq_error {dialect : Dialect} {line : Line} {error : GenerationError}
    (failed : line.write dialect = .error error) : ∃ text, error = .noLineBreak text := by
  rw [write, map_eq_error_iff, breakLine] at failed
  split at failed
  · cases failed
  · exact ⟨_, (Except.error.inj failed).symm⟩

/-- Statements demand what they demand before they are laid out. -/
theorem demands_layOutStatements {scope : Scope} {needs : String → Prop} {draft : Draft Statement}
    (dialect : Dialect) (demands : Demands scope (.error · ∈ draft) needs) :
    Demands scope (.error · ∈ layOutStatements dialect draft) needs := by
  refine (demands.orBreaking ?_).congr (fun _ => Draft.error_mem_refine) fun _ => .rfl
  rintro error ⟨statement, -, failed⟩
  exact Line.exists_of_write_eq_error failed

end Source

end ForeignGlue
