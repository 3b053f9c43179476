/-
**The file format of scalar indexes reads back.**

Every part of an index is decoded from what it is encoded as, but for the storage properties of the
scalars, which a text does not hold. A slot has to be a number of 64 bits, as all slots of a table are.

* `Json.fields?_ofMembers`: a record finds its fields in an object that has them and no others;
* `SlotMap.ofList_entries`: a map is made from its own entries;
* `ScalarIndex.read_write`: the text of an index is read as this index, not annotated.
-/

import ForeignGlue.Proofs.Json.RoundTrip
import ForeignGlue.ScalarIndex.Format
import Mathlib.Data.List.Induction

namespace ForeignGlue

/-! ### Texts, numbers and objects -/

namespace Json

theorem text?_ofText (text : String) : (ofText text).text? = some text :=
  unquote_quote text

theorem nat?_ofNat (value : Nat) : (ofNat value).nat? = some value := by
  have decimal : (Nat.toDigits 10 value).all Char.isDigit = true :=
    List.all_eq_true.mpr fun _ member => Nat.isDigit_of_mem_toDigits (by decide) (by decide) member
  have read : digitsValue (Nat.toDigits 10 value) = value := Nat.ofDigitChars_ten_toDigits
  rw [ofNat, nat?, if_pos decimal, read]

theorem mapM_of_forall {α β : Type} {step : α → Option β} {result : α → β} {items : List α}
    (each : ∀ item ∈ items, step item = some (result item)) :
    items.mapM step = some (items.map result) := by
  induction items with
  | nil => rfl
  | cons item items ih =>
      rw [List.mapM_cons, each item List.mem_cons_self,
        ih fun other member => each other (List.mem_cons_of_mem item member)]
      rfl

/-- Decoding what was encoded, item by item. -/
theorem mapM_map_of_decode {α β : Type} {encode : α → β} {decode : β → Option α} {items : List α}
    (decodes : ∀ item ∈ items, decode (encode item) = some item) :
    (items.map encode).mapM decode = some items := by
  have all : items.mapM (decode ∘ encode) = some (items.map id) := mapM_of_forall decodes
  rw [List.mapM_map, all, List.map_id]

theorem members?_ofMembers (members : List (String × Json)) :
    (ofMembers members).members? = some members := by
  refine mapM_map_of_decode fun member _ => ?_
  show (unquote (quote member.1)).map (·, member.2) = _
  rw [unquote_quote]
  rfl

/-- A list is decoded item by item, whatever becomes of each. -/
theorem list?_ofList {α β : Type} {encode : α → Json} {decode : Json → Option β} {result : α → β}
    {items : List α} (decodes : ∀ item ∈ items, decode (encode item) = some (result item)) :
    list? decode (ofList encode items) = some (items.map result) := by
  show (items.map encode).mapM decode = _
  rw [List.mapM_map]
  exact mapM_of_forall decodes

/-- A text that may be missing. -/
theorem optional?_ofOption (value : Option String) :
    optional? text? (ofOption ofText value) = some value := by
  cases value with
  | none => rfl
  | some text =>
      show (text? (ofText text)).map some = _
      rw [text?_ofText]
      rfl

/-- A key that is there once is found. -/
theorem filter_key_eq_singleton {members : List (String × Json)}
    (distinct : (members.map Prod.fst).Nodup) {member : String × Json} (listed : member ∈ members) :
    members.filter (fun other => other.1 == member.1) = [member] := by
  induction members with
  | nil => cases listed
  | cons head members ih =>
      rw [List.map_cons, List.nodup_cons] at distinct
      rcases List.mem_cons.mp listed with rfl | later
      · have none : members.filter (fun other => other.1 == member.1) = [] := by
          rw [List.filter_eq_nil_iff]
          intro other isOther same
          exact distinct.1 (List.mem_map.mpr ⟨other, isOther, beq_iff_eq.mp same⟩)
        rw [List.filter_cons, beq_self_eq_true, if_pos rfl, none]
      · rw [List.filter_cons_of_neg, ih distinct.2 later]
        intro same
        exact distinct.1 (List.mem_map.mpr ⟨member, later, (beq_iff_eq.mp same).symm⟩)

/-- **The fields of a record** are found in an object that has them, each once. -/
theorem fields?_ofMembers {members : List (String × Json)}
    (distinct : (members.map Prod.fst).Nodup) (required : Nat) :
    fields? (members.map Prod.fst) required (ofMembers members) =
      some (members.map fun member => some member.2) := by
  show (ofMembers members).members? >>= _ = _
  rw [members?_ofMembers, Option.bind_eq_bind, Option.bind_some, List.mapM_map]
  refine mapM_of_forall fun member listed => ?_
  simp only [Function.comp_apply, filter_key_eq_singleton distinct listed]

end Json

/-! ### Types, bounds and variables -/

open ForeignGlue.Json

/-- Types are read back, with the names of records. -/
theorem ValueType.ofJson?_toJson (type : ValueType) : ofJson? type.toJson = some type := by
  have named (name : String) : (ofText name).choice? = some (name, none) := by
    show (unquote (quote name)).map (·, none) = _
    rw [unquote_quote]
    rfl
  cases type with
  | record name =>
      have choice : (ofMembers [("Record", ofText name)]).choice? =
          some ("Record", some (ofText name)) := by
        show (unquote (quote "Record")).map (·, some (ofText name)) = _
        rw [unquote_quote]
        rfl
      simp [ofJson?, toJson, choice, text?_ofText]
  | _ => simp [ofJson?, toJson, named, isBare]

/-- Bounds are read back. -/
theorem Bound.ofJson?_toJson (bound : Bound) : ofJson? bound.toJson = some bound := by
  have found : bound.toJson.fields? ["low", "high"] 2 =
      some [some (.ofText bound.low), some (.ofText bound.high)] :=
    fields?_ofMembers (by simp) 2
  simp [ofJson?, found, required?, text?_ofText]

/-- A variable before its storage properties are found. -/
def Variable.unannotated (v : Variable) : Variable :=
  { v with flags := [] }

/-- A variable is decoded without its storage properties. -/
theorem Variable.ofJson?_toJson (v : Variable) : ofJson? v.toJson = some v.unannotated := by
  have found : v.toJson.fields?
      ["name", "ty", "dims", "group", "attributes", "dynamic", "dimstring", "comment", "data",
       "record_type"] 10 =
      some [some (.ofText v.name), some v.type.toJson, some (.ofList Bound.toJson v.bounds),
        some (.ofText v.group), some (.ofText v.attributes), some (.bool v.dynamic),
        some (.ofText v.shape), some (.ofText v.comment), some (.ofOption .ofText v.initializer),
        some (.ofOption .ofText v.memberOf)] :=
    fields?_ofMembers (by simp) 10
  have bounds : list? Bound.ofJson? (.ofList Bound.toJson v.bounds) = some (v.bounds.map id) :=
    list?_ofList fun bound _ => bound.ofJson?_toJson
  rw [ofJson?, found]
  simp only [Option.bind_eq_bind, Option.bind_some, required?, default?, text?_ofText,
    ValueType.ofJson?_toJson, bounds, List.map_id, bool?, optional?_ofOption, unannotated]

/-! ### What is written of them -/

theorem Json.spelled_ofList {α : Type} {encode : α → Json} {items : List α}
    (each : ∀ item ∈ items, Spelled (encode item)) : Spelled (.ofList encode items) := by
  refine .array fun encoded member => ?_
  obtain ⟨item, listed, rfl⟩ := List.mem_map.mp member
  exact each item listed

theorem Json.spelled_ofOption (value : Option String) : Spelled (.ofOption .ofText value) := by
  cases value with
  | none => exact .null
  | some text => exact .text text

theorem ValueType.spelled_toJson (type : ValueType) : Spelled type.toJson := by
  cases type with
  | record name => exact .object (by simp [Spelled.text])
  | _ => exact .text _

/-- Every variable can be written. -/
theorem Variable.spelled_toJson (v : Variable) : Spelled v.toJson := by
  have bounds : Spelled (.ofList Bound.toJson v.bounds) :=
    spelled_ofList fun bound _ => .object (by simp [Spelled.text])
  exact .object (by
    simp [Spelled.text, Spelled.bool, bounds, v.type.spelled_toJson, spelled_ofOption])

/-! ### Slots -/

namespace SlotMap

/-- A name after all others is put at the end. -/
theorem insertEntry_of_last {name : String} {slot : Nat} {entries : List (String × Nat)}
    (last : ∀ entry ∈ entries, entry.1 < name) :
    insertEntry name slot entries = entries ++ [(name, slot)] := by
  induction entries with
  | nil => rfl
  | cons head entries ih =>
      have before := last head List.mem_cons_self
      rw [insertEntry, if_neg (String.lt_asymm before), if_pos before,
        ih fun entry member => last entry (List.mem_cons_of_mem head member)]
      rfl

/-- Entries in order are kept in order. -/
theorem entries_ofList {entries : List (String × Nat)}
    (increasing : entries.Pairwise fun entry later => entry.1 < later.1) :
    (ofList entries).entries = entries := by
  induction entries using List.reverseRecOn with
  | nil => rfl
  | append_singleton entries last ih =>
      obtain ⟨before, -, isLast⟩ := List.pairwise_append.mp increasing
      rw [ofList, List.foldl_append]
      show insertEntry last.1 last.2 (ofList entries).entries = _
      rw [ih before]
      exact insertEntry_of_last fun entry member => isLast entry member last List.mem_cons_self

/-- **A map is made from its own entries.** -/
theorem ofList_entries (map : SlotMap) : ofList map.entries = map := by
  obtain ⟨entries, increasing⟩ := map
  have same := entries_ofList increasing
  cases made : ofList entries with
  | mk found _ =>
      rw [made] at same
      subst same
      rfl

/-- A map of words is read back. -/
theorem ofJson?_toJson {map : SlotMap} (words : ∀ entry ∈ map.entries, entry.2 < wordCount) :
    ofJson? map.toJson = some map := by
  rw [ofJson?, toJson, members?_ofMembers, Option.bind_eq_bind, Option.bind_some, mapM_map_of_decode]
  · exact congrArg some map.ofList_entries
  · intro entry member
    show (slotOfJson? (.ofNat entry.2)).map (entry.1, ·) = _
    rw [slotOfJson?, nat?_ofNat, Option.bind_eq_bind, Option.bind_some, if_pos (words entry member)]
    rfl

end SlotMap

/-! ### Indexes -/

namespace ScalarIndex

/-- An index before the storage properties of its scalars are found. -/
def unannotated (index : ScalarIndex) : ScalarIndex :=
  { index with scalars := index.scalars.map Variable.unannotated }

/-- What is found does not depend on what was known before. -/
theorem annotate_unannotated (index : ScalarIndex) : index.unannotated.annotate = index.annotate := by
  simp only [annotate, unannotated, List.map_map]
  rfl

/-- Storage properties are found once and for all. -/
theorem annotate_annotate (index : ScalarIndex) : index.annotate.annotate = index.annotate := by
  simp only [annotate, List.map_map]
  rfl

/-- **An index of words is read back**, without the storage properties, which are not written. -/
theorem ofJson?_toJson {index : ScalarIndex}
    (words : ∀ entry ∈ index.slots.entries, entry.2 < wordCount) :
    ofJson? index.toJson = some index.unannotated := by
  have found : index.toJson.fields? ["module", "index", "scalars"] 3 =
      some [some (.ofText index.module), some index.slots.toJson,
        some (.ofList Variable.toJson index.scalars)] :=
    fields?_ofMembers (by simp) 3
  have scalars := list?_ofList fun v (_ : v ∈ index.scalars) => v.ofJson?_toJson
  simp [ofJson?, found, required?, text?_ofText, SlotMap.ofJson?_toJson words, scalars, unannotated]

/-- Every index can be written. -/
theorem spelled_toJson (index : ScalarIndex) : Spelled index.toJson := by
  have slots : Spelled index.slots.toJson := by
    refine .object fun member listed => ?_
    obtain ⟨entry, -, rfl⟩ := List.mem_map.mp listed
    exact .nat entry.2
  have scalars : Spelled (.ofList Variable.toJson index.scalars) :=
    spelled_ofList fun v _ => v.spelled_toJson
  exact .object (by simp [Spelled.text, slots, scalars])

/-- **The text of an index is read as this index**, with the storage properties of its scalars yet to
be found. -/
theorem read_write {index : ScalarIndex}
    (words : ∀ entry ∈ index.slots.entries, entry.2 < wordCount) :
    read index.write = some index.unannotated := by
  rw [read, write, parse_pretty index.spelled_toJson, Option.bind_eq_bind, Option.bind_some,
    ofJson?_toJson words]

end ScalarIndex

end ForeignGlue
