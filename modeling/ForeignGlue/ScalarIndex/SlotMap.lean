/-
Finite maps from names to table slots.

A map is its list of entries in increasing order of the names, so that two maps with the same
entries are equal. `get?_insert` is the law of insertion.
-/

import ForeignGlue.Text.Basic

namespace ForeignGlue

/-- A finite map from names to table slots. -/
structure SlotMap where
  /-- The entries, in increasing order of the names. -/
  entries : List (String × Nat)
  increasing : entries.Pairwise (fun entry later => entry.1 < later.1)
  deriving DecidableEq

namespace SlotMap

/-- The map without entries. -/
def empty : SlotMap :=
  ⟨[], .nil⟩

/-- The slot of a name. -/
def get? (map : SlotMap) (name : String) : Option Nat :=
  (map.entries.find? fun entry => entry.1 == name).map Prod.snd

/-- The entries with one more, which takes the place of one of the same name. -/
def insertEntry (name : String) (slot : Nat) : List (String × Nat) → List (String × Nat)
  | [] => [(name, slot)]
  | entry :: entries =>
    if name < entry.1 then (name, slot) :: entry :: entries
    else if entry.1 < name then entry :: insertEntry name slot entries
    else (name, slot) :: entries

theorem mem_insertEntry {name : String} {slot : Nat} {entries : List (String × Nat)}
    {entry : String × Nat} (member : entry ∈ insertEntry name slot entries) :
    entry = (name, slot) ∨ entry ∈ entries := by
  induction entries with
  | nil => simpa [insertEntry] using member
  | cons head entries ih =>
      rw [insertEntry] at member
      split at member
      · simpa using member
      · split at member
        · rcases List.mem_cons.mp member with rfl | member
          · exact .inr List.mem_cons_self
          · exact (ih member).imp_right (List.mem_cons_of_mem _)
        · rcases List.mem_cons.mp member with rfl | member
          · exact .inl rfl
          · exact .inr (List.mem_cons_of_mem _ member)

theorem pairwise_insertEntry (name : String) (slot : Nat) {entries : List (String × Nat)}
    (increasing : entries.Pairwise (fun entry later => entry.1 < later.1)) :
    (insertEntry name slot entries).Pairwise (fun entry later => entry.1 < later.1) := by
  induction entries with
  | nil => simp [insertEntry]
  | cons head entries ih =>
      obtain ⟨headFirst, increasing⟩ := List.pairwise_cons.mp increasing
      rw [insertEntry]
      split
      · next before =>
          refine List.pairwise_cons.mpr ⟨fun entry member => ?_,
            List.pairwise_cons.mpr ⟨headFirst, increasing⟩⟩
          rcases List.mem_cons.mp member with rfl | member
          · exact before
          · exact String.lt_trans before (headFirst entry member)
      · split
        · next after =>
            refine List.pairwise_cons.mpr ⟨fun entry member => ?_, ih increasing⟩
            rcases mem_insertEntry member with rfl | member
            · exact after
            · exact headFirst entry member
        · next notBefore notAfter =>
            have same : name = head.1 :=
              String.le_antisymm (String.not_lt.mp notAfter) (String.not_lt.mp notBefore)
            refine List.pairwise_cons.mpr ⟨fun entry member => ?_, increasing⟩
            rw [same]
            exact headFirst entry member

/-- The map with one more entry, which takes the place of one of the same name. -/
def insert (map : SlotMap) (name : String) (slot : Nat) : SlotMap :=
  ⟨insertEntry name slot map.entries, pairwise_insertEntry name slot map.increasing⟩

/-- The map of a list of entries. Of two entries of one name the later one counts. -/
def ofList (entries : List (String × Nat)) : SlotMap :=
  entries.foldl (fun map entry => map.insert entry.1 entry.2) empty

theorem find?_insertEntry (name other : String) (slot : Nat) {entries : List (String × Nat)}
    (increasing : entries.Pairwise (fun entry later => entry.1 < later.1)) :
    ((insertEntry name slot entries).find? fun entry => entry.1 == other).map Prod.snd =
      if name = other then some slot
      else (entries.find? fun entry => entry.1 == other).map Prod.snd := by
  induction entries with
  | nil => by_cases same : name = other <;> simp [insertEntry, same]
  | cons head entries ih =>
      obtain ⟨headFirst, increasing⟩ := List.pairwise_cons.mp increasing
      rw [insertEntry]
      split
      · by_cases same : name = other <;> simp [same]
      · next notBefore =>
          split
          · next after =>
              by_cases found : head.1 = other
              · have differ : name ≠ other := by
                  rintro rfl
                  exact absurd after (found ▸ String.lt_irrefl _)
                simp [found, differ]
              · have step := ih increasing
                simpa [found] using step
          · next notAfter =>
              have same : name = head.1 :=
                String.le_antisymm (String.not_lt.mp notAfter) (String.not_lt.mp notBefore)
              by_cases found : name = other
              · simp [found]
              · simp [found, ← same]

/-- **Insertion**: the new name has the new slot, and every other name has the slot it had. -/
theorem get?_insert (map : SlotMap) (name other : String) (slot : Nat) :
    (map.insert name slot).get? other = if name = other then some slot else map.get? other :=
  find?_insertEntry name other slot map.increasing

end SlotMap

end ForeignGlue
