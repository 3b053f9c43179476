/-
**The accesses of the host file to scalar tables.**

A slot of a scalar table is accessed in two places: where a bound reads a scalar by its name, and where a
wrapper adds to the timer of its routine. Bounds stand in the shape checks of wrappers and in the
functions that set the shapes of arrays.

* `Context.tells_storeLines`: the accesses of the lines that set the shape of an array;
* `Context.tells_shapeCheck`, `Context.tells_wrapperBody`: those of a shape check and of a wrapper;
* `Context.in_hostSource_iff`: those of the whole file, which has no others.
-/

import ForeignGlue.Proofs.Generation.Resolution
import ForeignGlue.Proofs.Host.QuietLines

namespace ForeignGlue

open ForeignGlue.CSource ForeignGlue.Source ForeignGlue.Text

/-! ### Bounds one after the other -/

/-- What is collected, side by side with what it is made of. -/
theorem exists_pairs_of_collect {α β : Type} {items : List α} {values : List β}
    {outcome : α → Except GenerationError β} (read : collect (items.map outcome) = .ok values) :
    ∃ pairs : List (α × β), items = pairs.map Prod.fst ∧ values = pairs.map Prod.snd ∧
      ∀ pair ∈ pairs, outcome pair.1 = .ok pair.2 := by
  have spelled := collect_eq_ok_iff.mp read
  clear read
  induction items generalizing values with
  | nil =>
      obtain rfl := List.map_eq_nil_iff.mp spelled.symm
      exact ⟨[], rfl, rfl, nofun⟩
  | cons item items ih =>
      cases values with
      | nil => cases spelled
      | cons value values =>
          obtain ⟨first, rest⟩ := List.cons.inj spelled
          obtain ⟨pairs, rfl, rfl, each⟩ := ih rest
          exact ⟨(item, value) :: pairs, rfl, rfl, List.forall_mem_cons.mpr ⟨first, each⟩⟩

/-- The closed dimensions of an array, side by side with what is made of them. -/
theorem exists_pairs_of_closed {β : Type} {bounds : List Bound} {values : List β}
    {outcome : Nat × Bound → Except GenerationError β}
    (read : collect (((bounds.mapIdx fun dimension bound => (dimension, bound)).filter
      fun (_, bound) => !bound.isAssumed).map outcome) = .ok values) :
    ∃ pairs : List ((Nat × Bound) × β), values = pairs.map Prod.snd ∧
      (∀ pair ∈ pairs, pair.1.2 ∈ bounds ∧ outcome pair.1 = .ok pair.2) ∧
      ∀ holds : Bound → Prop, (∃ bound ∈ bounds, bound.isAssumed = false ∧ holds bound) ↔
        ∃ pair ∈ pairs, holds pair.1.2 := by
  obtain ⟨pairs, same, rfl, each⟩ := exists_pairs_of_collect read
  refine ⟨pairs, rfl, fun pair member => ⟨?_, each pair member⟩, fun holds => ?_⟩
  · have listed := List.mem_map_of_mem (f := Prod.fst) member
    rw [← same] at listed
    exact Context.mem_iff_numbered.mpr ⟨pair.1.1, (List.mem_filter.mp listed).1⟩
  · rw [← Context.exists_closed, same]
    simp

namespace Context

/-- An access to a slot that one of the closed dimensions of an array reads. -/
def ReadsBounds (ctx : Context) (binding : Binding) (bounds : List Bound) (access : Access) : Prop :=
  ∃ bound ∈ bounds, bound.isAssumed = false ∧
    ∃ name, bound.Mentions name ∧ ctx.scope.Reads binding name access

variable {ctx : Context} (types : ctx.types = .standard) (plain : ctx.IsPlain)

theorem inCode : Reader.code.place = .code :=
  rfl

include plain in
/-- **The accesses of the lines that set the axes of an array.** -/
theorem tells_storeLines {indent : String} (blank : CSource.IsPlain indent) (slot : Nat)
    {array : Variable} (listed : array ∈ ctx.inventory.arrays) :
    Tells (ctx.storeLines indent slot array) (ctx.ReadsBounds .none array.bounds) := by
  unfold storeLines
  cases made : ctx.shapeStores slot array with
  | error error => exact .failed
  | ok stores =>
      obtain ⟨pairs, rfl, each, closed⟩ := exists_pairs_of_closed made
      show Tells (Draft.ofList ((pairs.map Prod.snd).map _)) _
      rw [List.map_map]
      refine (Tells.lines fun pair member => ?_).congr fun access => closed _
      obtain ⟨bounded, made⟩ := each pair member
      obtain ⟨extent, read, same⟩ := bind_eq_ok_iff.mp made
      obtain ⟨low, high⟩ := plain.arrayBound array listed _ bounded
      have scans := ctx.scope.scans_extent plain.tables Binding.isLocal_none low high read inCode
      have table : CSource.IsPlain ctx.arrayTable := plain.module.append (by decide)
      show Scans .code (indent ++ ctx.storeText pair.2) _ .code
      rw [← Except.ok.inj same, storeText]
      have lead : Quiet .code s!"{ctx.arrayTable}[{slot}].dimensions[{array.rank - 1 - pair.1.1}] = "
          .code :=
        .append (.append (.append (.append (.append (.name table) (.fixed rfl)) (.number _))
          (.fixed rfl)) (.number _)) (.fixed rfl)
      have cast : Quiet .code "(npy_intp)" .code := .fixed rfl
      have ends : Quiet .code ";" .code := .fixed rfl
      exact (((scans.quietly cast).thenQuiet ends).quietly lead).quietly (.name blank)

/-- The extents that are checked are read twice: it is seen that none is zero, and each is compared. -/
theorem tells_guardedLines {α : Type} (check : ShapeCheck) (routine : Routine) {scope : Scope}
    {pairs : List (α × KnownExtent)} {accessesAt : α × KnownExtent → Access → Prop}
    (scans : ∀ pair ∈ pairs, ∀ before : Reader, before.place = .code →
      Scans before (scope.extentText pair.2.extent) (accessesAt pair) .code) :
    Tells (.ofList (check.guardedLines routine scope (pairs.map Prod.snd)))
      fun access => ∃ pair ∈ pairs, accessesAt pair access := by
  unfold ShapeCheck.guardedLines
  by_cases none : (pairs.map Prod.snd).isEmpty = true
  · rw [if_pos none]
    obtain rfl : pairs = [] := by simpa using none
    exact Tells.nothing.congr fun access => by simp
  rw [if_neg none]
  have guarded : Scans .code (scope.nonzeroGuard ((pairs.map Prod.snd).map KnownExtent.extent))
      (fun access => ∃ pair ∈ pairs, accessesAt pair access) .code := by
    have one : Quiet .code "1" .code := .fixed rfl
    have star : Quiet .code "*" .star := .fixed rfl
    have nonzero : Quiet .code " != 0" .code := .fixed rfl
    rw [Scope.nonzeroGuard, List.map_map, List.map_map]
    have factors := Scans.join fun pair member => (scans pair member .star rfl).quietly star
    exact (factors.quietly one).thenQuiet nonzero
  have compared : Tells ((pairs.map Prod.snd).flatMap fun known =>
      Draft.ofList (check.extentLines routine scope known))
      fun access => ∃ pair ∈ pairs, accessesAt pair access := by
    rw [List.flatMap_map]
    refine Tells.flatMap fun pair member => ?_
    have computes : Quiet .code "    _n = (int)" .code := .fixed rfl
    have ends : Quiet .code ";" .code := .fixed rfl
    have first := Tells.line (((scans pair member .code rfl).quietly computes).thenQuiet ends)
    refine first.thenQuiet fun line member => ?_
    exact check.quiet_comparison routine scope pair.2 line (mem_ofList.mp member)
  have opens : Quiet .code "  if (" .code := .fixed rfl
  have closes : Quiet .code ") \x7b" .code := .fixed rfl
  have ends : Quiet .code "  \x7d" .code := .fixed rfl
  have whole := ((Tells.line ((guarded.quietly opens).thenQuiet closes)).append compared).thenQuiet
    (quiet_single ends)
  refine Tells.congr ?_ fun access => or_self_iff.symm
  convert whole using 1
  simp [Draft.ofList, List.map_flatMap, toString]

include plain in
/-- **The accesses of a shape check.** -/
theorem tells_shapeCheck {routine : Routine} (declared : routine ∈ ctx.inventory.routines)
    {argument : Argument} (taken : argument ∈ routine.arguments) (index rank : Nat) :
    Tells (ShapeCheck.lines ⟨index, rank, ctx.knownExtents routine argument⟩ routine ctx.scope)
      (ctx.ReadsBounds routine.binding argument.bounds) := by
  refine Tells.quietly (fun line member => ?_) ?_
  · exact ShapeCheck.quiet_rankLines _ routine line (mem_ofList.mp member)
  cases made : ctx.knownExtents routine argument with
  | error error => exact .failed
  | ok extents =>
      obtain ⟨pairs, rfl, each, closed⟩ := exists_pairs_of_closed made
      have scans (pair : (Nat × Bound) × KnownExtent) (member : pair ∈ pairs) (before : Reader)
          (place : before.place = .code) : Scans before (ctx.scope.extentText pair.2.extent)
          (fun access => ∃ name, pair.1.2.Mentions name ∧
            ctx.scope.Reads routine.binding name access) .code := by
        obtain ⟨bounded, made⟩ := each pair member
        obtain ⟨extent, read, same⟩ := bind_eq_ok_iff.mp made
        obtain ⟨low, high⟩ := plain.argumentBound routine declared argument taken _ bounded
        rw [← Except.ok.inj same]
        exact ctx.scope.scans_extent plain.tables routine.isLocal_binding low high read place
      refine Tells.congr ?_ fun access => closed _
      exact tells_guardedLines _ routine scans

include types plain in
theorem quiet_sizingReads {routine : Routine} (declared : routine ∈ ctx.inventory.routines) :
    ∀ read ∈ ctx.sizingReads routine, Quiet .code read.line .code := by
  refine List.forall_mem_map.mpr fun argument member => ?_
  obtain ⟨found, sizing⟩ := List.mem_filter.mp (mem_of_mem_distinctBy member)
  obtain ⟨name, -, found⟩ := List.mem_filterMap.mp found
  obtain ⟨isName, -⟩ := plain.argument routine declared argument (List.mem_of_find?_eq_some found)
  obtain ⟨numeric, notComplex⟩ := Bool.and_eq_true_iff.mp sizing
  refine SizingRead.quiet_line ?_ (isName.lower.append (by decide))
  exact types ▸ TypeTable.host_mem_castTypes numeric notComplex

include types plain in
/-- The accesses of the shape checks of a routine. -/
theorem tells_shapeCheckLines {routine : Routine} (declared : routine ∈ ctx.inventory.routines) :
    Tells (ctx.shapeCheckLines routine) fun access =>
      ∃ argument ∈ routine.arguments.filter Argument.isChecked,
        ctx.ReadsBounds routine.binding argument.bounds access := by
  have checked : Tells ((ctx.shapeChecks routine).flatMap fun check =>
      check.lines routine ctx.scope) fun access =>
        ∃ argument ∈ routine.arguments.filter Argument.isChecked,
          ctx.ReadsBounds routine.binding argument.bounds access := by
    rw [shapeChecks, List.flatMap_map]
    refine (Tells.flatMap fun numbered member => ?_).congr fun access => exists_numbered.symm
    refine tells_shapeCheck plain declared (mem_iff_numbered.mpr ⟨numbered.1, ?_⟩) _ _
    exact (List.mem_filter.mp member).1
  unfold shapeCheckLines
  by_cases none : (ctx.shapeChecks routine).isEmpty = true
  · rw [if_pos none]
    rwa [List.isEmpty_iff.mp none] at checked
  · rw [if_neg none]
    refine (checked.quietly fun line member => ?_).thenQuiet (quiet_single (.fixed rfl))
    revert line
    simp only [mem_ofList, List.forall_mem_append, List.forall_mem_cons, List.forall_mem_map]
    exact ⟨⟨.fixed rfl, .fixed rfl, List.forall_mem_nil _⟩, quiet_sizingReads types plain declared⟩

include plain in
/-- The line of a timer reads its slot, as a `double`. -/
theorem scans_timerLine (slot : Nat) :
    Scans .code s!"  *(double *){ctx.scalarTable}[{slot}].data += (time2-time1);"
      (· = ⟨"double", ctx.scalarTable, slot⟩) .code := by
  have isWord : ctx.scalarTable.toList.all isNameChar = true := by
    have own : ctx.module.toList.all isNameChar = true :=
      all_isNameChar_of_isIdentifier plain.tables.1
    rw [scalarTable, String.toList_append, List.all_append, own]
    decide
  have scans : Scans .code ("*(double *)" ++ ctx.scalarTable ++ "[" ++ toString slot ++ "].data")
      (· = ⟨"double", ctx.scalarTable, slot⟩) .code := by
    refine Scans.access inCode (show "double" ∈ castTypes by decide) isWord ?_
    simp [Access.chars]
  have blanks : Quiet .code "  " .code := .fixed rfl
  have adds : Quiet .code " += (time2-time1);" .code := .fixed rfl
  have whole := (scans.quietly blanks).thenQuiet adds
  show Scans .code ("  " ++ "*(double *)" ++ ctx.scalarTable ++ "[" ++ toString slot ++
    ("].data" ++ " += (time2-time1);")) _ .code
  simpa only [String.append_assoc] using whole

include types plain in
/-- Behind the call only the timer is read. -/
theorem tells_closingLines (routine : Routine) :
    Tells (.ofList (ctx.closingLines routine)) fun access =>
      ∃ slot, ctx.timerSlot? routine = some slot ∧ access = ⟨"double", ctx.scalarTable, slot⟩ := by
  have restores : ∀ line ∈ linesIf (routine.arguments.length != 0)
      [s!"  Forthon_restoresubroutineargs({routine.arguments.length},pyobj,ax);"],
      Quiet .code line .code :=
    forall_mem_linesIf (List.forall_mem_singleton.mpr (.around rfl (.number _) rfl))
  rw [closingLines, Draft.ofList, List.map_append, List.map_append]
  refine (Tells.quietly (fun line member => restores line (mem_ofList.mp member)) ?_).thenQuiet ?_
  · cases ctx.timerSlot? routine with
    | none => exact Tells.nothing.congr fun access => by simp
    | some slot =>
        have stops : Quiet .code "  time2 = cputime();" .code := .fixed rfl
        have adds := (Tells.line (scans_timerLine plain slot)).quietly (quiet_single stops)
        exact adds.congr fun access => by simp
  · cases routine.result with
    | none => exact quiet_single (.fixed rfl)
    | some type =>
        have format : CSource.IsPlain (ctx.types.result type) :=
          types ▸ TypeTable.isPlain_result type
        have value : Quiet .code (if ctx.types.result type == "D" then "&r" else "r") .code := by
          split
          · exact .fixed rfl
          · exact .fixed rfl
        intro line member
        replace member := mem_ofList.mp member
        revert line
        simp only [List.forall_mem_cons]
        exact ⟨.append (.append (.aroundInLiteral rfl format rfl) value) (.fixed rfl), .fixed rfl,
          List.forall_mem_nil _⟩

include types plain in
/-- **The accesses of a wrapper**: those of its shape checks, and that of its timer. -/
theorem tells_wrapperBody {routine : Routine} (declared : routine ∈ ctx.inventory.routines) :
    Tells (ctx.wrapperBody routine) fun access =>
      (∃ argument ∈ routine.arguments.filter Argument.isChecked,
        ctx.ReadsBounds routine.binding argument.bounds access) ∨
      ∃ slot, ctx.timerSlot? routine = some slot ∧ access = ⟨"double", ctx.scalarTable, slot⟩ := by
  refine ((tells_shapeCheckLines types plain declared).quietly fun line member => ?_).append ?_
  · revert line
    simp only [mem_ofList, List.forall_mem_append]
    exact ⟨quiet_openingLines types routine, quiet_conversions types plain declared⟩
  · rw [Draft.ofList, List.map_append, List.map_append]
    refine ((tells_closingLines types plain routine).quietly fun line member => ?_).thenQuiet
      fun line member => quiet_exitLines routine line (mem_ofList.mp member)
    replace member := mem_ofList.mp member
    revert line
    simp only [List.forall_mem_append, List.forall_mem_singleton]
    exact ⟨quiet_recoveryLines routine, quiet_callLine types plain declared⟩

/-! ### The host file -/

theorem tells_braced {body : Draft String} {accesses : Access → Prop} (tells : Tells body accesses) :
    Tells (braced body) accesses := by
  have opens : Quiet .code "\x7b" .code := .fixed rfl
  have closes : Quiet .code "\x7d" .code := .fixed rfl
  exact (tells.quietly (quiet_single opens)).thenQuiet (quiet_single closes)

/-- A definition reads what its body reads. -/
theorem tells_definition {defined : Definition} {accesses : Access → Prop}
    (head : Quiet .code (defined.lead ++ defined.name ++ defined.tail) .code)
    (body : Tells defined.body accesses) : Tells (Item.definition defined).lines accesses :=
  body.quietly (quiet_single head)

theorem quiet_items {items : List Item} (each : ∀ item ∈ items, item.IsQuiet) :
    ∀ line, .ok line ∈ items.flatMap Item.lines → Quiet .code line .code := by
  intro line member
  obtain ⟨item, listed, inside⟩ := List.mem_flatMap.mp member
  exact each item listed line inside

include types plain in
/-- **Wrappers** read what sizes their arguments, and their timers. -/
theorem tells_wrappersItems : Tells (ctx.wrappersItems.flatMap Item.lines) fun access =>
    ∃ routine ∈ ctx.inventory.routines,
      (∃ argument ∈ routine.arguments.filter Argument.isChecked,
        ctx.ReadsBounds routine.binding argument.bounds access) ∨
      ∃ slot, ctx.timerSlot? routine = some slot ∧ access = ⟨"double", ctx.scalarTable, slot⟩ := by
  rw [wrappersItems, List.flatMap_append, List.flatMap_assoc]
  refine Tells.thenQuiet (Tells.flatMap fun routine declared => ?_)
    (quiet_items (List.forall_mem_singleton.mpr (Item.isQuiet_line (.fixed rfl))))
  have name := plain.wrapperName (plain.routine routine declared)
  have documented : (Item.definition ⟨"static char ", "doc_" ++ ctx.wrapperName routine.name,
      s!"[] = {quoted (routine.name ++ routine.signature ++ routine.comment)};", []⟩).IsQuiet := by
    refine Item.isQuiet_definition ?_ fun _ inside => absurd inside List.not_mem_nil
    have documentation : CSource.IsPlain ("doc_" ++ ctx.wrapperName routine.name) :=
      IsPlain.append (by decide) name
    exact .append (.append (.fixed rfl) (.name documentation))
      (.append (.append (.fixed rfl) (.quoted _)) (.fixed rfl))
  have body := tells_braced (tells_wrapperBody types plain declared)
  unfold wrapperItems
  rw [List.flatMap_cons, List.flatMap_singleton]
  exact Tells.quietly documented (tells_definition (.around rfl name rfl) body)

theorem mem_arrays_of_numbered {numbered : NumberedArray} (listed : numbered ∈ ctx.numberedArrays) :
    numbered.array ∈ ctx.inventory.arrays := by
  obtain ⟨v, visible, same⟩ := ctx.exists_numberedArrays.mp ⟨numbered, listed, Eq.refl numbered.array⟩
  exact same ▸ visible

include plain in
/-- **What sets static shapes** reads the names in them. -/
theorem tells_staticShapeItems : Tells (ctx.staticShapeItems.flatMap Item.lines) fun access =>
    ∃ numbered ∈ ctx.numberedArrays, numbered.array.isDynamic = false ∧
      ctx.ReadsBounds .none numbered.array.bounds access := by
  have stores := Tells.flatMap fun numbered
      (member : numbered ∈ ctx.numberedArrays.filter fun numbered => !numbered.array.isDynamic) =>
    tells_storeLines plain (show CSource.IsPlain "  " by decide) numbered.slot
      (mem_arrays_of_numbered (List.mem_filter.mp member).1)
  have setter : CSource.IsPlain (ctx.module ++ "setstaticdims") := plain.module.append (by decide)
  simp only [List.mem_filter, Bool.not_eq_true', and_assoc] at stores
  have body := tells_braced stores
  rw [staticShapeItems, List.flatMap_cons]
  exact Tells.thenQuiet (tells_definition (.around rfl setter rfl) body)
    (quiet_items (List.forall_mem_singleton.mpr (Item.isQuiet_line (.fixed rfl))))

include plain in
theorem tells_groupShapeItem {group : String} (isGroup : CSource.IsPlain group) :
    Tells (ctx.groupShapeItem group).lines fun access =>
      ∃ numbered ∈ ctx.dynamicArraysIn group, ctx.ReadsBounds .none numbered.array.bounds access := by
  have ends : Quiet .code "  \x7d" .code := .fixed rfl
  have members := Tells.flatMap fun numbered (member : numbered ∈ ctx.dynamicArraysIn group) => by
    have listed := (List.mem_filter.mp (List.mem_filter.mp member).1).1
    have stores := tells_storeLines plain (show CSource.IsPlain "    " by decide) numbered.slot
      (mem_arrays_of_numbered listed)
    have chosen : Quiet .code s!"  if (i == -1 || i == {numbered.slot}) \x7b" .code :=
      .around rfl (.number _) rfl
    exact (stores.quietly (quiet_single chosen)).thenQuiet (quiet_single ends)
  have chosen : Quiet .code
      s!"  if (strcmp(name,\"{group}\") == 0 || strcmp(name,\"*\") == 0) \x7b" .code :=
    .aroundInLiteral rfl isGroup rfl
  have setter : CSource.IsPlain (ctx.groupShapeSetter group) :=
    (plain.module.append (by decide)).append isGroup
  exact tells_definition (.around rfl setter rfl)
    (tells_braced ((members.quietly (quiet_single chosen)).thenQuiet (quiet_single ends)))

include plain in
theorem quiet_dispatchLine {group line : String} (isGroup : CSource.IsPlain group)
    (dispatched : ctx.dispatchLine group = some line) : Quiet .code line .code := by
  obtain ⟨first, -, rest⟩ := Option.bind_eq_some_iff.mp dispatched
  obtain ⟨last, -, same⟩ := Option.bind_eq_some_iff.mp rest
  obtain rfl := Option.some.inj same
  have setter : CSource.IsPlain (ctx.groupShapeSetter group) :=
    (plain.module.append (by decide)).append isGroup
  exact .append (.append (.append (.around rfl (.number _) rfl) (.number _)) (.fixed rfl))
    (.append (.name setter) (.fixed rfl))

include plain in
/-- **What sets dynamic shapes** reads the names in them. -/
theorem tells_dynamicShapeItems : Tells (ctx.dynamicShapeItems.flatMap Item.lines) fun access =>
    ∃ numbered ∈ ctx.numberedArrays, numbered.array.isDynamic = true ∧
      ctx.ReadsBounds .none numbered.array.bounds access := by
  have isGroup (group : String) (listed : group ∈ ctx.dynamicGroups) : CSource.IsPlain group := by
    obtain ⟨numbered, member, rfl⟩ := List.mem_map.mp (mem_distinct.mp listed)
    have visible := mem_arrays_of_numbered (List.mem_filter.mp member).1
    exact (plain.declared _ (List.mem_append_right _ visible)).2.1
  have groups := Tells.flatMap fun group listed => tells_groupShapeItem plain (isGroup group listed)
  have dispatcher : CSource.IsPlain (ctx.module ++ "setdims") := plain.module.append (by decide)
  rw [dynamicShapeItems, List.flatMap_append, List.flatMap_map]
  refine (groups.thenQuiet (quiet_items ?_)).congr fun access => ctx.exists_dynamicArraysIn.symm
  refine List.forall_mem_cons.mpr ⟨?_, List.forall_mem_singleton.mpr (Item.isQuiet_line (.fixed rfl))⟩
  refine Item.isQuiet_definition (.around rfl dispatcher rfl) (quiet_braced fun line member => ?_)
  obtain ⟨group, listed, dispatched⟩ := List.mem_filterMap.mp (mem_ofList.mp member)
  exact quiet_dispatchLine plain (isGroup group listed) dispatched

/-- **The accesses of the host file**: those in the shape checks of wrappers, those to timers, and those
in what sets the shapes of arrays. -/
def Accesses (ctx : Context) (access : Access) : Prop :=
  (∃ routine ∈ ctx.inventory.routines,
    (∃ argument ∈ routine.arguments.filter Argument.isChecked,
      ctx.ReadsBounds routine.binding argument.bounds access) ∨
    ∃ slot, ctx.timerSlot? routine = some slot ∧ access = ⟨"double", ctx.scalarTable, slot⟩) ∨
  ∃ v ∈ ctx.inventory.arrays, ctx.ReadsBounds .none v.bounds access

include types plain in
/-- **All accesses of the host file.** -/
theorem tells_hostItems : Tells (ctx.hostItems.flatMap Item.lines) ctx.Accesses := by
  have head := quiet_items (List.forall_mem_append.mpr ⟨List.forall_mem_append.mpr
    ⟨List.forall_mem_append.mpr ⟨quiet_prototypeItems types plain, quiet_binderPrototypeItems plain⟩,
      quiet_scalarTableItems types plain⟩, quiet_arrayTableItems types plain⟩)
  have whole := (((((tells_wrappersItems types plain).quietly head).thenQuiet
    (quiet_items (quiet_methodTableItems plain))).append (tells_staticShapeItems plain)).append
      (tells_dynamicShapeItems plain)).thenQuiet (quiet_items (quiet_binderItems plain))
  have full := whole.thenQuiet (quiet_items (quiet_moduleInitItems plain))
  simp only [← List.flatMap_append] at full
  refine full.congr fun access => ?_
  unfold Accesses
  rw [← ctx.exists_numberedArrays, or_assoc]
  refine or_congr_right ?_
  have either (numbered : NumberedArray) :
      numbered.array.isDynamic = false ∨ numbered.array.isDynamic = true := by
    cases numbered.array.isDynamic <;> simp
  rw [← exists_or]
  simp only [← and_or_left, ← or_and_right, either, true_and]

include types plain in
/-- **The accesses in the host source.** -/
theorem in_hostSource_iff {host : String} (done : ctx.hostSource = .ok host) (access : Access) :
    access.In .code host.toList ↔ ctx.Accesses access := by
  obtain ⟨lines, spelled, joined⟩ := toList_finish_endLines done
  rw [joined, ← List.append_nil (lineChars lines),
    tells_hostItems types plain lines spelled [] access]
  exact or_iff_left id

end Context

end ForeignGlue
