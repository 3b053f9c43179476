/-
**Computations that may fail, taken apart.**

A sequence of steps succeeds exactly if every step does. These are the inversion rules that the
proofs about evaluation, calls and generation use.

`Alike` is for two computations side by side: they end alike if each step does.
-/

import Mathlib.Data.List.Forall2

namespace ForeignGlue

variable {ε δ α β : Type}

theorem bind_eq_ok_iff {step : Except ε α} {next : α → Except ε β} {result : β} :
    (step >>= next) = .ok result ↔ ∃ value, step = .ok value ∧ next value = .ok result := by
  cases step with
  | error fault => simp [bind, Except.bind]
  | ok value => simp [bind, Except.bind]

theorem exists_ok_of_isSome {step : Except ε α} (given : step.toOption.isSome) :
    ∃ value, step = .ok value := by
  cases step with
  | error fault => cases given
  | ok value => exact ⟨value, rfl⟩

theorem mapError_eq_ok_iff {rename : ε → δ} {step : Except ε α} {result : α} :
    step.mapError rename = .ok result ↔ step = .ok result := by
  cases step <;> simp [Except.mapError]

theorem map_eq_ok_iff {step : Except ε α} {change : α → β} {result : β} :
    step.map change = .ok result ↔ ∃ value, step = .ok value ∧ change value = result := by
  cases step <;> simp [Except.map]

theorem map_eq_error_iff {step : Except ε α} {change : α → β} {fault : ε} :
    step.map change = .error fault ↔ step = .error fault := by
  cases step <;> simp [Except.map]

theorem bind_eq_error_iff {step : Except ε α} {next : α → Except ε β} {fault : ε} :
    (step >>= next) = .error fault ↔ step = .error fault ∨
      ∃ value, step = .ok value ∧ next value = .error fault := by
  cases step with
  | error other => simp [bind, Except.bind]
  | ok value => simp [bind, Except.bind]

theorem mapError_eq_error_iff {rename : ε → δ} {step : Except ε α} {fault : δ} :
    step.mapError rename = .error fault ↔ ∃ cause, step = .error cause ∧ rename cause = fault := by
  cases step <;> simp [Except.mapError]

/-- All steps of a list succeed, each with its own result. -/
theorem mapM_eq_ok_iff {step : α → Except ε β} {items : List α} {results : List β} :
    items.mapM step = .ok results ↔ List.Forall₂ (fun item result => step item = .ok result)
      items results := by
  induction items generalizing results with
  | nil =>
      rw [List.mapM_nil, List.forall₂_nil_left_iff]
      exact ⟨fun same => (Except.ok.inj same).symm, fun same => congrArg _ same.symm⟩
  | cons item items ih =>
      rw [List.mapM_cons, bind_eq_ok_iff, List.forall₂_cons_left_iff]
      constructor
      · rintro ⟨first, here, rest⟩
        obtain ⟨later, done, same⟩ := bind_eq_ok_iff.mp rest
        exact ⟨first, later, here, ih.mp done, (Except.ok.inj same).symm⟩
      · rintro ⟨first, later, here, done, rfl⟩
        exact ⟨first, here, bind_eq_ok_iff.mpr ⟨later, ih.mpr done, rfl⟩⟩

/-- A list of steps that does not succeed fails as one of them does. -/
theorem mem_of_mapM_eq_error {step : α → Except ε β} {items : List α} {fault : ε}
    (failed : items.mapM step = .error fault) : ∃ item ∈ items, step item = .error fault := by
  induction items with
  | nil => cases failed
  | cons item items ih =>
      rw [List.mapM_cons] at failed
      rcases bind_eq_error_iff.mp failed with here | ⟨_, -, rest⟩
      · exact ⟨item, List.mem_cons_self, here⟩
      · rcases bind_eq_error_iff.mp rest with later | ⟨_, -, done⟩
        · obtain ⟨other, member, failed⟩ := ih later
          exact ⟨other, List.mem_cons_of_mem _ member, failed⟩
        · cases done

/-! ### Two computations side by side -/

/-- **Two computations end alike**: both succeed with related results, or both fail with related
faults. -/
inductive Alike (results : α → β → Prop) (faults : ε → δ → Prop) : Except ε α → Except δ β → Prop
  | ok {first : α} {second : β} (related : results first second) :
      Alike results faults (.ok first) (.ok second)
  | error {first : ε} {second : δ} (related : faults first second) :
      Alike results faults (.error first) (.error second)

namespace Alike

variable {γ ζ : Type} {results : α → β → Prop} {others : γ → ζ → Prop} {faults : ε → δ → Prop}
  {first : Except ε α} {second : Except δ β}

theorem imp {weaker : α → β → Prop} (alike : Alike results faults first second)
    (each : ∀ value other, results value other → weaker value other) :
    Alike weaker faults first second := by
  cases alike with
  | ok related => exact .ok (each _ _ related)
  | error related => exact .error related

theorem bind {next : α → Except ε γ} {later : β → Except δ ζ} (alike : Alike results faults first second)
    (each : ∀ value other, results value other → Alike others faults (next value) (later other)) :
    Alike others faults (first >>= next) (second >>= later) := by
  cases alike with
  | ok related => exact each _ _ related
  | error related => exact .error related

theorem map {change : α → γ} {alter : β → ζ} (alike : Alike results faults first second)
    (each : ∀ value other, results value other → others (change value) (alter other)) :
    Alike others faults (first.map change) (second.map alter) := by
  cases alike with
  | ok related => exact .ok (each _ _ related)
  | error related => exact .error related

end Alike

end ForeignGlue
