/-
Lists without repetitions. Of elements with the same key the first one stays, where it is.
-/

namespace ForeignGlue

/-- The elements of a list that come first with their key. -/
def distinctBy {α β : Type} [BEq β] (key : α → β) : List α → List α
  | [] => []
  | x :: xs => x :: (distinctBy key xs).filter fun y => !(key y == key x)

/-- The distinct elements of a list, each where it first appears. -/
def distinct {α : Type} [BEq α] (xs : List α) : List α :=
  distinctBy id xs

theorem mem_of_mem_distinctBy {α β : Type} [BEq β] {key : α → β} {x : α} {xs : List α}
    (member : x ∈ distinctBy key xs) : x ∈ xs := by
  induction xs with
  | nil => simp [distinctBy] at member
  | cons y ys ih =>
      rcases List.mem_cons.mp member with rfl | later
      · exact List.mem_cons_self
      · exact List.mem_cons_of_mem _ (ih (List.mem_filter.mp later).1)

/-- Keys do not repeat. -/
theorem nodup_map_distinctBy {α β : Type} [BEq β] [LawfulBEq β] (key : α → β) (xs : List α) :
    ((distinctBy key xs).map key).Nodup := by
  induction xs with
  | nil => simp [distinctBy]
  | cons x xs ih =>
      rw [distinctBy, List.map_cons, List.nodup_cons]
      exact ⟨by simp, ih.sublist (List.filter_sublist.map key)⟩

/-- Every key stays. -/
theorem mem_map_distinctBy {α β : Type} [BEq β] [LawfulBEq β] {key : α → β} {k : β}
    {xs : List α} : k ∈ (distinctBy key xs).map key ↔ k ∈ xs.map key := by
  induction xs with
  | nil => simp [distinctBy]
  | cons x xs ih =>
      by_cases same : k = key x
      · simp [distinctBy, same]
      · rw [distinctBy, List.map_cons, List.mem_cons, List.map_cons, List.mem_cons, ← ih]
        simp only [same, false_or, List.mem_map, List.mem_filter]
        constructor
        · rintro ⟨y, ⟨member, _⟩, rfl⟩
          exact ⟨y, member, rfl⟩
        · rintro ⟨y, member, rfl⟩
          exact ⟨y, ⟨member, by simpa using same⟩, rfl⟩

@[simp] theorem mem_distinct {α : Type} [BEq α] [LawfulBEq α] {x : α} {xs : List α} :
    x ∈ distinct xs ↔ x ∈ xs := by
  simpa [distinct] using @mem_map_distinctBy α α _ _ id x xs

theorem nodup_distinct {α : Type} [BEq α] [LawfulBEq α] (xs : List α) : (distinct xs).Nodup := by
  simpa [distinct] using nodup_map_distinctBy id xs

end ForeignGlue
