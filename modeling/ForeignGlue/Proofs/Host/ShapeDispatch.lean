/-
**Which shapes are set.**

A call that sets shapes names a group, or all groups, and a slot, or all slots. The function that is
called goes through the groups and passes over those whose slots lie elsewhere; the function of a
group tests its name again, and each member its slot. The arrays whose shapes are set are those that
the call means, each once.

* `truth?_groupCondition`, `truth?_slotCondition`, `truth?_rangeCondition`: what the conditions say.
* `adds_groupFunction`: the function of a group makes the stores of the members that are meant.
* `adds_dispatchCode`: passing over a group loses none of them.
* `perm_meantArrays`: going through the groups meets every dynamic array once.
-/

import ForeignGlue.Proofs.Host.ShapeSetters
import Mathlib.Data.List.Nodup

namespace ForeignGlue

open ForeignGlue.CExpression
open ForeignGlue.CSource
open ForeignGlue.Expression (IsIdentifier)
open ForeignGlue.Source
open ForeignGlue.Text

/-! ### What the conditions say -/

section Conditions

variable {world : World} {locals : Locals} {name : String} {i : Int}

/-- A group is meant by its name or by a star. -/
theorem truth?_groupCondition {group : String} (isIdentifier : IsIdentifier group.toList)
    (given : locals "name" = some (.text name.toList)) :
    (groupCondition group).truth? world locals = some (decide (name = group ∨ name = "*")) := by
  have compared (other : String) (plain : '\\' ∉ other.toList) :
      (Expr.binary .equal (.call (.name "strcmp") (.arguments (.name "name") (.text other.toList)))
        (.number ['0'])).truth? world locals = some (decide (name = other)) := by
    have called : (Expr.call (.name "strcmp") (.arguments (.name "name") (.text other.toList))).value
        world locals = some (.integer ⟨.int, world.compare name.toList other.toList⟩) := by
      have passed : (Expr.text other.toList).argument? locals = some (.text other.toList) := by
        rw [Expr.argument?, if_neg (by simpa using plain)]
      have name : (Expr.name "name").argument? locals = some (.text name.toList) := given
      rw [Expr.value, callValue, name, passed]
      rfl
    have zero : (Expr.number ['0']).value world locals = some (.integer ⟨.int, 0⟩) := rfl
    rw [Expr.truth?_equal called zero rfl rfl]
    congr 1
    rw [Bool.eq_iff_iff, beq_iff_eq, world.compare_eq_zero_iff, String.toList_inj, decide_eq_true_iff]
  have plain : '\\' ∉ group.toList := by
    intro member
    have nameChars := all_isNameChar_of_isIdentifier isIdentifier
    exact absurd (List.all_eq_true.mp nameChars _ member) (by decide)
  have whole := Expr.truth?_or (compared group plain) (compared "*" (by decide))
  rw [← Bool.decide_or] at whole
  exact whole

theorem truth?_allSlots (given : locals "i" = some (.integer ⟨.long, i⟩)) :
    allSlots.truth? world locals = some (decide (i = -1)) := by
  have index : (Expr.name "i").value world locals = some (.integer ⟨.long, i⟩) := given
  have minusOne : (Expr.negated (.number ['1'])).value world locals = some (.integer ⟨.int, -1⟩) := rfl
  exact Expr.truth?_equal index minusOne rfl rfl

/-- An array is meant by its slot or by minus one. -/
theorem truth?_slotCondition {slot : Nat} (given : locals "i" = some (.integer ⟨.long, i⟩))
    (small : slot < 0x8000000000000000) :
    (slotCondition slot).truth? world locals = some (decide (i = -1 ∨ i = slot)) := by
  have index : (Expr.name "i").value world locals = some (.integer ⟨.long, i⟩) := given
  obtain ⟨x, number, signed, same⟩ := Expr.value_toDigits small
  have meant := Expr.truth?_equal index number rfl signed
  have whole := Expr.truth?_or (truth?_allSlots given) meant
  rw [same] at whole
  rw [Bool.decide_or]
  exact whole

/-- A group is called if the slot can be one of its. -/
theorem truth?_rangeCondition {first last : Nat} (given : locals "i" = some (.integer ⟨.long, i⟩))
    (firstSmall : first < 0x8000000000000000) (lastSmall : last < 0x8000000000000000) :
    (rangeCondition first last).truth? world locals =
      some (decide (i = -1 ∨ first ≤ i ∧ i ≤ last)) := by
  have index : (Expr.name "i").value world locals = some (.integer ⟨.long, i⟩) := given
  obtain ⟨x, lower, lowerSigned, lowerSame⟩ := Expr.value_toDigits firstSmall
  obtain ⟨y, upper, upperSigned, upperSame⟩ := Expr.value_toDigits lastSmall
  have above := Expr.truth?_lessEqual lower index lowerSigned rfl
  have below := Expr.truth?_lessEqual index upper rfl upperSigned
  have whole := Expr.truth?_or (truth?_allSlots given) (Expr.truth?_and above below)
  rw [lowerSame, upperSame] at whole
  rw [Bool.decide_or, Bool.decide_and]
  exact whole

end Conditions

namespace Context

variable {ctx : Context} {world : World} {name : String} {i : Int}

/-! ### Slots -/

/-- Arrays are numbered in their order. -/
theorem pairwise_numberedArrays (ctx : Context) :
    ctx.numberedArrays.Pairwise fun first second => first.slot < second.slot := by
  rw [numberedArrays, List.pairwise_iff_getElem]
  intro first second firstInside secondInside before
  rw [List.getElem_mapIdx, List.getElem_mapIdx]
  exact before

theorem slot_lt_length {numbered : NumberedArray} (member : numbered ∈ ctx.numberedArrays) :
    numbered.slot < ctx.inventory.arrays.length := by
  obtain ⟨slot, inside, rfl⟩ := List.mem_mapIdx.mp member
  exact inside

/-- The dynamic arrays of a group. -/
theorem mem_dynamicArraysIn {group : String} {numbered : NumberedArray} :
    numbered ∈ ctx.dynamicArraysIn group ↔
      numbered ∈ ctx.dynamicArrays ∧ numbered.array.group = group := by
  rw [dynamicArraysIn, List.mem_filter, beq_iff_eq]

theorem mem_numberedArrays_of_dynamic {numbered : NumberedArray}
    (member : numbered ∈ ctx.dynamicArrays) : numbered ∈ ctx.numberedArrays :=
  (List.mem_filter.mp member).1

/-- The slots of a group's dynamic arrays lie between the first and the last of them. -/
theorem slotRange_eq_some {group : String} (member : group ∈ ctx.dynamicGroups) :
    ∃ first last, ctx.slotRange group = some (first, last) ∧
      (∃ numbered ∈ ctx.dynamicArraysIn group, numbered.slot = first) ∧
      (∃ numbered ∈ ctx.dynamicArraysIn group, numbered.slot = last) ∧
      ∀ numbered ∈ ctx.dynamicArraysIn group, first ≤ numbered.slot ∧ numbered.slot ≤ last := by
  have ordered : (ctx.dynamicArraysIn group).Pairwise fun first second => first.slot < second.slot :=
    (ctx.pairwise_numberedArrays.filter _).filter _
  obtain ⟨numbered, inGroup, same⟩ := exists_of_mem_dynamicGroups member
  have written : ctx.dynamicArraysIn group ≠ [] :=
    List.ne_nil_of_mem (mem_dynamicArraysIn.mpr ⟨inGroup, same⟩)
  obtain ⟨first, isFirst⟩ : ∃ first, (ctx.dynamicArraysIn group).head? = some first :=
    ⟨_, List.head?_eq_some_head written⟩
  obtain ⟨last, isLast⟩ : ∃ last, (ctx.dynamicArraysIn group).getLast? = some last :=
    ⟨_, List.getLast?_eq_some_getLast written⟩
  refine ⟨first.slot, last.slot, ?_, ⟨first, List.mem_of_head? isFirst, rfl⟩,
    ⟨last, List.mem_of_getLast? isLast, rfl⟩, fun numbered listed => ⟨?_, ?_⟩⟩
  · rw [slotRange, isFirst, isLast]
    rfl
  · obtain ⟨rest, spelled⟩ := List.head?_eq_some_iff.mp isFirst
    rw [spelled] at listed ordered
    rcases List.mem_cons.mp listed with rfl | later
    · exact Nat.le_refl _
    · exact Nat.le_of_lt ((List.pairwise_cons.mp ordered).1 numbered later)
  · obtain ⟨rest, spelled⟩ := List.getLast?_eq_some_iff.mp isLast
    rw [spelled] at listed ordered
    rcases List.mem_append.mp listed with earlier | final
    · exact Nat.le_of_lt ((List.pairwise_append.mp ordered).2.2 numbered earlier last
        (List.mem_singleton_self last))
    · rw [List.mem_singleton.mp final]

/-! ### What the functions do -/

/-- Whether a call means an array. -/
def isMeant (name : String) (i : Int) (numbered : NumberedArray) : Bool :=
  decide ((name = numbered.array.group ∨ name = "*") ∧ (i = -1 ∨ i = numbered.slot))

/-- What is made for the elements that pass a test. -/
theorem flatMap_ite_eq_filter {α β : Type} (test : α → Bool) (made : α → List β) (items : List α) :
    (items.flatMap fun item => if test item then made item else []) =
      (items.filter test).flatMap made := by
  induction items with
  | nil => rfl
  | cons item items ih =>
      rw [List.flatMap_cons, ih, List.filter_cons]
      cases test item with
      | true => rfl
      | false => rfl

/-- The stores of an array are at its slot. -/
theorem exists_target_of_mem {numbered : NumberedArray} {store : Store}
    (member : store ∈ ctx.declaredStores numbered) :
    ∃ axis, store.target = ctx.axisExpr numbered.slot axis := by
  obtain ⟨known, -, made⟩ := List.mem_filterMap.mp member
  obtain ⟨extent, -, rfl⟩ := Option.map_eq_some_iff.mp made
  exact ⟨_, rfl⟩

theorem adds_declaredStores {callees : Callees} {locals : Locals} (numbered : NumberedArray) :
    (Code.ofList ((ctx.declaredStores numbered).map storeCode)).Adds world callees locals
      (ctx.declaredStores numbered) := by
  have each : ∀ store ∈ ctx.declaredStores numbered,
      (Code.ofList [storeCode store]).Adds world callees locals [store] := by
    intro store member
    obtain ⟨axis, target⟩ := exists_target_of_mem member
    obtain ⟨_, value⟩ := store
    obtain rfl := target
    exact Code.Adds.assign.single
  have whole := Code.Adds.flatMap each
  rwa [← List.map_eq_flatMap, List.flatMap_singleton'] at whole

/-- What is done for one array of a group. -/
theorem adds_memberCode {callees : Callees} {locals : Locals} {member : NumberedArray}
    (given : locals "i" = some (.integer ⟨.long, i⟩)) (small : member.slot < 0x8000000000000000) :
    (Code.ofList [ctx.memberCode member]).Adds world callees locals
      (if decide (i = -1 ∨ i = member.slot) then ctx.declaredStores member else []) :=
  (Code.Adds.conditional (truth?_slotCondition given small)
    (adds_declaredStores member).block).single

/-- The members of a group that are meant, if the name is tested before the slots. -/
theorem filter_isMeant_dynamicArraysIn (ctx : Context) (name : String) (i : Int) (group : String) :
    (ctx.dynamicArraysIn group).filter (isMeant name i) =
      if decide (name = group ∨ name = "*") then
        (ctx.dynamicArraysIn group).filter fun member => decide (i = -1 ∨ i = member.slot)
      else [] := by
  by_cases named : name = group ∨ name = "*"
  · rw [if_pos (decide_eq_true named)]
    refine List.filter_congr fun member listed => ?_
    obtain ⟨-, rfl⟩ := mem_dynamicArraysIn.mp listed
    unfold isMeant
    simp only [named, true_and]
  · rw [if_neg (by simpa using named), List.filter_eq_nil_iff]
    intro member listed meant
    obtain ⟨-, rfl⟩ := mem_dynamicArraysIn.mp listed
    exact named (of_decide_eq_true meant).1

/-- **The function of a group** makes the stores of the members that are meant. -/
theorem adds_groupFunction {group : String} {locals : Locals} {callees : Callees}
    (isIdentifier : IsIdentifier group.toList)
    (small : ctx.inventory.arrays.length < 0x8000000000000000)
    (givenName : locals "name" = some (.text name.toList))
    (givenIndex : locals "i" = some (.integer ⟨.long, i⟩)) :
    (ctx.groupFunction group).body.Adds world callees locals
      (((ctx.dynamicArraysIn group).filter (isMeant name i)).flatMap ctx.declaredStores) := by
  have each : ∀ member ∈ ctx.dynamicArraysIn group,
      (Code.ofList [ctx.memberCode member]).Adds world callees locals
        (if decide (i = -1 ∨ i = member.slot) then ctx.declaredStores member else []) := by
    intro member listed
    refine adds_memberCode givenIndex (Nat.lt_trans (slot_lt_length ?_) small)
    exact mem_numberedArrays_of_dynamic (mem_dynamicArraysIn.mp listed).1
  have members := Code.Adds.flatMap each
  rw [← List.map_eq_flatMap, flatMap_ite_eq_filter] at members
  have whole := Code.Adds.conditional (truth?_groupCondition isIdentifier givenName) members.block
  rw [filter_isMeant_dynamicArraysIn, apply_ite (List.flatMap ctx.declaredStores)]
  exact whole.single

/-- **Passing over a group loses nothing**: the function of a group is called unless none of its
members can be meant. -/
theorem adds_dispatchCode {group : String} {locals : Locals} {callees : Callees}
    (member : group ∈ ctx.dynamicGroups) (other : ctx.groupShapeSetter group ≠ "sprintf")
    (small : ctx.inventory.arrays.length < 0x8000000000000000)
    (givenName : locals "name" = some (.text name.toList))
    (givenIndex : locals "i" = some (.integer ⟨.long, i⟩))
    (called : callees (ctx.groupShapeSetter group) [.text name.toList, .integer ⟨.long, i⟩] =
      some (((ctx.dynamicArraysIn group).filter (isMeant name i)).flatMap ctx.declaredStores)) :
    (Code.ofList (ctx.dispatchCode? group).toList).Adds world callees locals
      (((ctx.dynamicArraysIn group).filter (isMeant name i)).flatMap ctx.declaredStores) := by
  obtain ⟨first, last, range, ⟨lowest, lowestIn, rfl⟩, ⟨highest, highestIn, rfl⟩, between⟩ :=
    slotRange_eq_some member
  have slotSmall : ∀ numbered ∈ ctx.dynamicArraysIn group, numbered.slot < 0x8000000000000000 := by
    intro numbered listed
    refine Nat.lt_trans (slot_lt_length ?_) small
    exact mem_numberedArrays_of_dynamic (mem_dynamicArraysIn.mp listed).1
  have passed : (Expr.arguments (.name "name") (.name "i")).arguments? locals =
      some [.text name.toList, .integer ⟨.long, i⟩] := by
    simp [Expr.arguments?, Expr.argument?, givenName, givenIndex]
  have truth : (rangeCondition lowest.slot highest.slot).truth? world locals = _ :=
    truth?_rangeCondition givenIndex (slotSmall lowest lowestIn) (slotSmall highest highestIn)
  have whole := (Code.Adds.conditional truth (Code.Adds.perform other passed called)).single
  have kept : (if decide (i = -1 ∨ lowest.slot ≤ i ∧ i ≤ highest.slot) then
      ((ctx.dynamicArraysIn group).filter (isMeant name i)).flatMap ctx.declaredStores else []) =
      ((ctx.dynamicArraysIn group).filter (isMeant name i)).flatMap ctx.declaredStores := by
    by_cases inRange : i = -1 ∨ lowest.slot ≤ i ∧ i ≤ highest.slot
    · rw [if_pos (decide_eq_true inRange)]
    · have none : (ctx.dynamicArraysIn group).filter (isMeant name i) = [] := by
        rw [List.filter_eq_nil_iff]
        intro numbered listed meant
        have bounds := between numbered listed
        have index := (of_decide_eq_true meant).2
        omega
      rw [none, List.flatMap_nil, ite_self]
  rw [kept] at whole
  rw [dispatchCode?, range]
  exact whole

/-! ### All groups -/

/-- The arrays that are meant, group by group. -/
def meantArrays (ctx : Context) (name : String) (i : Int) : List NumberedArray :=
  ctx.dynamicGroups.flatMap fun group => (ctx.dynamicArraysIn group).filter (isMeant name i)

/-- **Going through the groups meets every dynamic array once.** -/
theorem perm_meantArrays (ctx : Context) (name : String) (i : Int) :
    (ctx.meantArrays name i).Perm (ctx.dynamicArrays.filter (isMeant name i)) := by
  have distinctArrays : ctx.dynamicArrays.Nodup := by
    refine (ctx.pairwise_numberedArrays.filter _).imp ?_
    intro first second before same
    rw [same] at before
    exact Nat.lt_irrefl _ before
  have distinctMeant : (ctx.meantArrays name i).Nodup := by
    refine List.nodup_flatMap.mpr ⟨fun group _ => (distinctArrays.filter _).filter _, ?_⟩
    refine (nodup_distinct _).imp fun differ numbered firstListed secondListed => ?_
    have inFirst := (mem_dynamicArraysIn.mp (List.mem_filter.mp firstListed).1).2
    have inSecond := (mem_dynamicArraysIn.mp (List.mem_filter.mp secondListed).1).2
    exact differ (inFirst.symm.trans inSecond)
  rw [List.perm_ext_iff_of_nodup distinctMeant (distinctArrays.filter _)]
  intro numbered
  rw [meantArrays, List.mem_flatMap, List.mem_filter]
  constructor
  · intro ⟨group, _, listed⟩
    obtain ⟨inside, meant⟩ := List.mem_filter.mp listed
    exact ⟨(mem_dynamicArraysIn.mp inside).1, meant⟩
  · intro ⟨member, meant⟩
    refine ⟨numbered.array.group, mem_distinct.mpr (List.mem_map_of_mem member), ?_⟩
    exact List.mem_filter.mpr ⟨mem_dynamicArraysIn.mpr ⟨member, rfl⟩, meant⟩

theorem groupShapeSetter_ne_sprintf (group : String) : ctx.groupShapeSetter group ≠ "sprintf" := by
  intro same
  have part : "setdims".toList <:+: "sprintf".toList := by
    rw [← same, groupShapeSetter, String.toList_append, String.toList_append]
    exact ⟨ctx.module.toList, group.toList, rfl⟩
  exact absurd part (by decide)

theorem nodup_groupFunctions (ctx : Context) :
    ((ctx.dynamicGroups.map ctx.groupFunction).map Function.name).Nodup := by
  rw [List.map_map]
  refine (nodup_distinct _).map fun first second same => ?_
  have setters : ctx.module ++ "setdims" ++ first = ctx.module ++ "setdims" ++ second := same
  rw [← String.toList_inj, String.toList_append, @String.toList_append _ second] at setters
  exact String.toList_inj.mp (List.append_cancel_left setters)

/-- **A call that sets the shapes of dynamic arrays.** -/
theorem call_dynamicFunction
    (named : ∀ array ∈ ctx.inventory.arrays, IsIdentifier array.group.toList)
    (small : ctx.inventory.arrays.length < 0x8000000000000000) (world : World) (name : String)
    (i : Int) :
    call world (ctx.dynamicGroups.map ctx.groupFunction ++ [ctx.dynamicFunction])
      (ctx.module ++ "setdims") [.text name.toList, .object, .integer ⟨.long, i⟩] =
      some ((ctx.meantArrays name i).flatMap ctx.declaredStores) := by
  let setters := (ctx.dynamicGroups.map ctx.groupFunction).reverse
  have called : ∀ group ∈ ctx.dynamicGroups,
      callAmong world setters (ctx.groupShapeSetter group) [.text name.toList, .integer ⟨.long, i⟩] =
        some (((ctx.dynamicArraysIn group).filter (isMeant name i)).flatMap ctx.declaredStores) := by
    intro group member
    have isIdentifier : IsIdentifier group.toList := by
      obtain ⟨numbered, listed, rfl⟩ := exists_of_mem_dynamicGroups member
      exact named _ (array_mem_of_numbered (mem_numberedArrays_of_dynamic listed))
    have distinct : (setters.map Function.name).Nodup := by
      rw [List.map_reverse, List.nodup_reverse]
      exact ctx.nodup_groupFunctions
    have listed : ctx.groupFunction group ∈ setters :=
      List.mem_reverse.mpr (List.mem_map_of_mem member)
    exact callAmong_of_mem distinct listed rfl fun callees =>
      adds_groupFunction isIdentifier small rfl rfl
  have adds : ctx.dynamicFunction.body.Adds world (callAmong world setters)
      (ctx.dynamicFunction.bind [.text name.toList, .object, .integer ⟨.long, i⟩])
      ((ctx.meantArrays name i).flatMap ctx.declaredStores) := by
    rw [meantArrays, List.flatMap_assoc, dynamicFunction, List.filterMap_eq_flatMap_toList]
    exact .flatMap fun group member => adds_dispatchCode member (groupShapeSetter_ne_sprintf group)
      small rfl rfl (called group member)
  rw [call, List.reverse_append, List.reverse_singleton, List.singleton_append]
  exact callAmong_head rfl adds

/-- **A call that sets the shapes of static arrays.** -/
theorem call_staticFunction (ctx : Context) (world : World) :
    call world [ctx.staticFunction] (ctx.module ++ "setstaticdims") [.object] =
      some ((ctx.numberedArrays.filter fun numbered => !numbered.array.isDynamic).flatMap
        ctx.declaredStores) := by
  have adds : ctx.staticFunction.body.Adds world (callAmong world [])
      (ctx.staticFunction.bind [.object]) _ :=
    Code.Adds.flatMap fun numbered _ => adds_declaredStores numbered
  exact callAmong_head rfl adds

/-! ### The emitted text -/

/-- The host axes of an array whose extents are declared. -/
def declaredAxes (array : Variable) : List Nat :=
  ((array.bounds.mapIdx fun dimension bound => (dimension, bound)).filter
    fun (_, bound) => !bound.isAssumed).map fun (dimension, _) => array.rank - 1 - dimension

/-- If C can read the bounds, an array has one store for each axis whose extent is declared. -/
theorem map_target_declaredStores (readable : ctx.ReadableBounds) {numbered : NumberedArray}
    (member : numbered ∈ ctx.numberedArrays) :
    (ctx.declaredStores numbered).map Store.target =
      (declaredAxes numbered.array).map (ctx.axisExpr numbered.slot) := by
  unfold declaredStores declaredAxes
  dsimp only
  rw [List.map_filterMap, List.map_map, ← List.filterMap_eq_map]
  refine List.filterMap_congr fun known listed => ?_
  obtain ⟨inBounds, declared⟩ := List.mem_filter.mp listed
  obtain ⟨dimension, inside, rfl⟩ := List.mem_mapIdx.mp inBounds
  obtain ⟨x, read⟩ := Option.isSome_iff_exists.mp (readable _ (array_mem_of_numbered member) _
    (List.getElem_mem inside) (by simpa using declared))
  rw [declaredStore?, read]
  rfl

/-- **The shapes that a call sets.** The emitted texts are functions of C. A call for a group and a
slot, or for all of them, makes the stores of the dynamic arrays that it means, each once, and a call
for static arrays those of all static arrays. An array's stores are one for each axis whose extent is
declared, at the array's own slot. -/
theorem shapeSetters_dispatch {staticText dynamicText : String} (tables : ctx.scope.NamesTables)
    (named : ∀ array ∈ ctx.inventory.arrays, IsIdentifier array.group.toList)
    (readable : ctx.ReadableBounds) (small : ctx.inventory.arrays.length < 0x8000000000000000)
    (staticDone : (layOutItems ctx.staticShapeItems).finish = .ok staticText)
    (dynamicDone : (layOutItems ctx.dynamicShapeItems).finish = .ok dynamicText) :
    (∀ numbered ∈ ctx.numberedArrays, (ctx.declaredStores numbered).map Store.target =
      (declaredAxes numbered.array).map (ctx.axisExpr numbered.slot)) ∧
    ∃ staticUnit dynamicUnit, Spells staticText staticUnit ∧ Spells dynamicText dynamicUnit ∧
      ∀ world,
        (call world staticUnit (ctx.module ++ "setstaticdims") [.object] =
          some ((ctx.numberedArrays.filter fun numbered => !numbered.array.isDynamic).flatMap
            ctx.declaredStores)) ∧
        ∀ (name : String) (i : Int64), ∃ ran : List NumberedArray,
          ran.Perm (ctx.dynamicArrays.filter fun numbered =>
            (name = numbered.array.group ∨ name = "*") ∧ (i = -1 ∨ i.toInt = numbered.slot)) ∧
          call world dynamicUnit (ctx.module ++ "setdims")
            [.text name.toList, .object, .integer ⟨.long, i.toInt⟩] =
              some (ran.flatMap ctx.declaredStores) := by
  refine ⟨fun numbered member => map_target_declaredStores readable member, _, _,
    (definesItems_staticShapeItems tables readable).spells staticDone,
    (definesItems_dynamicShapeItems tables named readable).spells dynamicDone,
    fun world => ⟨ctx.call_staticFunction world, fun name i => ?_⟩⟩
  refine ⟨ctx.meantArrays name i.toInt, ?_, call_dynamicFunction named small world name i.toInt⟩
  have minusOne : i.toInt = -1 ↔ i = -1 := Int64.toInt_inj (y := -1)
  have meant := ctx.perm_meantArrays name i.toInt
  unfold isMeant at meant
  simp only [minusOne] at meant
  exact meant

/-- Two groups whose dynamic arrays stand in turn, with a static array among them. -/
def scattered : Context where
  inventory := .ofInterface
    { module := "wxy"
      declarations := [.variable (.scalar "n" .integer "g"), .variable (.scalar "m" .integer "g"),
        .variable { Variable.array "a" .real "g" [⟨"1", "n"⟩] with dynamic := true },
        .variable (.array "s" .real "g" [⟨"1", "3"⟩]),
        .variable { Variable.array "b" .real "h" [⟨"0", "2*(n+1)"⟩, ⟨"1", ""⟩] with dynamic := true },
        .variable { Variable.array "c" .real "g" [⟨"-m", "m / 2"⟩] with dynamic := true }] }

/-- The arrays of one group, with those of another and a static one between them. -/
theorem shapeSetters_dispatch_scattered :
    ∃ text unit, (layOutItems scattered.dynamicShapeItems).finish = .ok text ∧ Spells text unit ∧
      ∀ world, ∃ ran : List NumberedArray, (ran.map NumberedArray.slot).Perm [0, 3] ∧
        call world unit "wxysetdims" [.text "g".toList, .object, .integer ⟨.long, -1⟩] =
          some (ran.flatMap scattered.declaredStores) := by
  have tables : scattered.scope.NamesTables :=
    ⟨⟨'w', ['x', 'y'], by decide, by decide, by decide⟩, fun index member => by cases member⟩
  have named : ∀ array ∈ scattered.inventory.arrays, IsIdentifier array.group.toList := by
    have groups : ∀ array ∈ scattered.inventory.arrays, array.group = "g" ∨ array.group = "h" := by
      decide
    intro array member
    rcases groups array member with isG | isH
    · rw [isG]
      exact ⟨'g', [], by decide, by decide, by decide⟩
    · rw [isH]
      exact ⟨'h', [], by decide, by decide, by decide⟩
  have readable : scattered.ReadableBounds := by
    unfold ReadableBounds
    decide +kernel
  have staticOk : (layOutItems scattered.staticShapeItems).finish.toOption.isSome := by
    decide +kernel
  have dynamicOk : (layOutItems scattered.dynamicShapeItems).finish.toOption.isSome := by
    decide +kernel
  obtain ⟨staticText, staticDone⟩ := exists_ok_of_isSome staticOk
  obtain ⟨dynamicText, dynamicDone⟩ := exists_ok_of_isSome dynamicOk
  obtain ⟨-, staticUnit, dynamicUnit, -, spells, calls⟩ :=
    shapeSetters_dispatch tables named readable (by decide) staticDone dynamicDone
  refine ⟨dynamicText, dynamicUnit, dynamicDone, spells, fun world => ?_⟩
  obtain ⟨ran, isMeant, called⟩ := (calls world).2 "g" (-1)
  exact ⟨ran, isMeant.map NumberedArray.slot, called⟩

/-- A dynamic array whose upper bound divides one scalar by another. -/
def quotientShape : Context where
  inventory := .ofInterface
    { module := "wxy"
      declarations := [.variable (.scalar "n" .integer "g"), .variable (.scalar "m" .integer "g"),
        .variable { Variable.array "a" .real "g" [⟨"1", "n/m"⟩] with dynamic := true }] }

/-- The slot reference after a `/` opens a comment that nothing closes, so the emitted text is no
function of C. -/
theorem quotientShape_setters_unread :
    ∃ text, (layOutItems quotientShape.dynamicShapeItems).finish = .ok text ∧
      ∀ unit, ¬Spells text unit := by
  have written : (layOutItems quotientShape.dynamicShapeItems).finish.toOption.isSome := by
    decide +kernel
  have unread : terminals (lineChars ((quotientShape.dynamicShapeItems.flatMap Item.lines).filterMap
      Except.toOption)) = none := by
    decide +kernel
  obtain ⟨text, done⟩ := exists_ok_of_isSome written
  obtain ⟨lines, spelled, chars⟩ := toList_finish_endLines done
  have kept : (Draft.ofList lines).filterMap Except.toOption = lines := by
    rw [Draft.ofList, List.filterMap_map]
    exact List.filterMap_some
  rw [spelled, kept, ← chars] at unread
  refine ⟨text, done, fun unit spells => ?_⟩
  obtain ⟨ts, cut, -⟩ := spells
  rw [unread] at cut
  cases cut

end Context

end ForeignGlue
