/-
**Host axes are foreign axes in reverse.**

The extents of an array get into its descriptor on three ways: stores of the extents that are declared, a
loop that takes over the shape which the foreign side reports in free form, and the model of the
descriptor tables. Each has its own rule for the axis of a dimension, and all of them reverse the order.

* `build`: the vector that stores build, as long as they stay inside it;
* `build_descending`: extents that are stored from the last axis to the first;
* `AxisLoop`: loops over the axes as they are written, and what they do;
* `Context.forall₂_shapeStores`: which dimension is stored at which axis;
* `storeLine`, `reporterLines`: the C text of a store and of the loop;
* `Context.axes_reversed`: the three ways side by side.
-/

import ForeignGlue.Host.Binders
import ForeignGlue.Proofs.CSource.Layout
import ForeignGlue.Proofs.Call.KnownBounds
import ForeignGlue.Proofs.Generation.Demand
import Mathlib.Data.List.Nodup

namespace ForeignGlue

open ForeignGlue.CSource ForeignGlue.Source

/-! ### Stores into a vector -/

/-- The vector with an extent at an axis, if it has this axis. -/
def putExtent (dimensions : List Int) (axis extent : Int) : Option (List Int) :=
  if 0 ≤ axis ∧ axis < dimensions.length then some (dimensions.set axis.toNat extent) else none

/-- **The vector that stores build**, each of an extent at an axis. -/
def build (stores : List (Int × Int)) (dimensions : List Int) : Option (List Int) :=
  stores.foldlM (fun dimensions store => putExtent dimensions store.1 store.2) dimensions

/-- The axes of a vector, the last one first. -/
def descendingAxes (rank : Nat) : List Nat :=
  (List.range rank).reverse

theorem descendingAxes_succ (rank : Nat) :
    descendingAxes (rank + 1) = rank :: descendingAxes rank := by
  rw [descendingAxes, List.range_succ, List.reverse_append]
  rfl

theorem putExtent_behind (front : List Int) (old extent : Int) (tail : List Int) :
    putExtent (front ++ old :: tail) front.length extent = some (front ++ extent :: tail) := by
  have inside : 0 ≤ (front.length : Int) ∧ (front.length : Int) < (front ++ old :: tail).length := by
    simp only [List.length_append, List.length_cons]
    omega
  rw [putExtent, if_pos inside, Int.toNat_natCast, List.set_append_right _ _ (Nat.le_refl _),
    Nat.sub_self, List.set_cons_zero]

/-- **Extents that are stored from the last axis to the first** stand there in reverse. What lies behind
these axes is left alone. -/
theorem build_descending {extents front : List Int} (long : front.length = extents.length)
    (tail : List Int) :
    build (((descendingAxes extents.length).map Nat.cast).zip extents) (front ++ tail) =
      some (extents.reverse ++ tail) := by
  induction extents generalizing front tail with
  | nil =>
      rw [List.length_eq_zero_iff.mp long]
      rfl
  | cons extent extents ih =>
      rcases front.eq_nil_or_concat with rfl | ⟨before, old, rfl⟩
      · cases long
      · have shorter : before.length = extents.length := by simpa using long
        have stored := putExtent_behind before old extent tail
        rw [shorter] at stored
        rw [List.length_cons, descendingAxes_succ, List.map_cons, List.zip_cons_cons, build,
          List.foldlM_cons, List.concat_append, stored, List.reverse_cons, List.append_assoc]
        exact ih shorter (extent :: tail)

/-! ### Loops over the axes -/

/-- A part of an index expression. -/
inductive IndexTerm where
  /-- The counter of the loop. -/
  | counter
  /-- The number of dimensions of the array. -/
  | rank
  | number (value : Nat)
  deriving DecidableEq, Repr

/-- An index expression: terms that are subtracted from a first one, from the left. -/
structure IndexText where
  first : IndexTerm
  subtracted : List IndexTerm := []
  deriving DecidableEq, Repr

/-- A loop over the axes of an array that stores one extent in each round. -/
structure AxisLoop where
  /-- Where the extent goes in the descriptor. -/
  target : IndexText
  /-- Where it stands in the shape that is reported. -/
  source : IndexText
  deriving DecidableEq, Repr

namespace IndexTerm

def text : IndexTerm → String
  | counter => "id"
  | rank => "farray->nd"
  | number value => toString value

def value (nd id : Nat) : IndexTerm → Int
  | counter => id
  | rank => nd
  | number value => value

end IndexTerm

namespace IndexText

def text (index : IndexText) : String :=
  index.first.text ++ String.join (index.subtracted.map fun term => "-" ++ term.text)

def value (nd id : Nat) (index : IndexText) : Int :=
  index.subtracted.foldl (fun value term => value - term.value nd id) (index.first.value nd id)

end IndexText

/-- The element at an index, if there is one. -/
def elementAt? (elements : List Int) (index : Int) : Option Int :=
  if 0 ≤ index then elements[index.toNat]? else none

namespace AxisLoop

/-- The lines of a loop. -/
def lines (loop : AxisLoop) : List String :=
  ["  int id;",
   "  for (id=0;id<farray->nd;id++)",
   s!"    farray->dimensions[{loop.target.text}] = (npy_intp)(dims[{loop.source.text}]);"]

/-- One round of a loop. -/
def round (loop : AxisLoop) (nd : Nat) (dims dimensions : List Int) (id : Nat) : Option (List Int) := do
  let extent ← elementAt? dims (loop.source.value nd id)
  putExtent dimensions (loop.target.value nd id) extent

/-- **What a loop does**: the counter goes from zero up to the number of dimensions. -/
def run (loop : AxisLoop) (nd : Nat) (dims dimensions : List Int) : Option (List Int) :=
  (List.range nd).foldlM (loop.round nd dims) dimensions

end AxisLoop

/-- The loop by which a reported shape is taken over. -/
def reportLoop : AxisLoop where
  target := { first := .rank, subtracted := [.number 1, .counter] }
  source := { first := .counter }

/-- One round stores one extent at the mirrored place. -/
theorem round_reportLoop {dims : List Int} {id : Nat} (inside : id < dims.length)
    (dimensions : List Int) :
    reportLoop.round dims.length dims dimensions id =
      putExtent dimensions (dims.length - 1 - id : Nat) dims[id] := by
  have axis : reportLoop.target.value dims.length id = (dims.length - 1 - id : Nat) := by
    show (dims.length : Int) - (1 : Nat) - id = (dims.length - 1 - id : Nat)
    omega
  have element : elementAt? dims (reportLoop.source.value dims.length id) = some dims[id] := by
    show elementAt? dims (id : Int) = some dims[id]
    rw [elementAt?, if_pos (Int.natCast_nonneg id), Int.toNat_natCast, List.getElem?_eq_getElem inside]
  rw [AxisLoop.round, axis, element]
  rfl

/-- **The rounds of the loop**: what has been taken over stands in reverse at the end of the vector. -/
theorem rounds_reportLoop {dims dimensions : List Int} (long : dimensions.length = dims.length)
    {rounds : Nat} (few : rounds ≤ dims.length) :
    (List.range rounds).foldlM (reportLoop.round dims.length dims) dimensions =
      some (dimensions.take (dims.length - rounds) ++ (dims.take rounds).reverse) := by
  induction rounds with
  | zero =>
      rw [Nat.sub_zero, ← long, List.take_length]
      simp
  | succ rounds ih =>
      have inside : rounds < dims.length := few
      have left : dims.length - 1 - rounds < dimensions.length := by omega
      have last : dimensions.take (dims.length - rounds) =
          dimensions.take (dims.length - 1 - rounds) ++ [dimensions[dims.length - 1 - rounds]] := by
        rw [List.take_append_getElem left]
        congr 1
        omega
      have stored := putExtent_behind (dimensions.take (dims.length - 1 - rounds))
        dimensions[dims.length - 1 - rounds] dims[rounds] (dims.take rounds).reverse
      rw [List.length_take_of_le left.le] at stored
      have next : dims.length - (rounds + 1) = dims.length - 1 - rounds := by omega
      rw [List.range_succ, List.foldlM_append, ih inside.le, last, List.append_assoc,
        List.singleton_append, ← List.take_append_getElem inside, List.reverse_append, next]
      show (reportLoop.round _ _ _ rounds).bind _ = _
      rw [round_reportLoop inside, stored]
      rfl

/-- **The loop reverses the extents that are reported.** -/
theorem run_reportLoop {dims dimensions : List Int} (long : dimensions.length = dims.length) :
    reportLoop.run dims.length dims dimensions = some dims.reverse := by
  rw [AxisLoop.run, rounds_reportLoop long (Nat.le_refl _), Nat.sub_self, List.take_length]
  rfl

/-! ### Stores of declared extents -/

/-- The dimensions of a variable that are not left open, with their bounds. -/
def Variable.knownBounds (v : Variable) : List (Nat × Bound) :=
  (v.bounds.mapIdx fun dimension bound => (dimension, bound)).filter fun (_, bound) => !bound.isAssumed

/-- A store of the extent of a dimension: it goes to the axis that has as many axes before it as there
are dimensions behind, and its text holds those of the bounds. -/
structure Context.StoresExtent (ctx : Context) (slot : Nat) (v : Variable) (known : Nat × Bound)
    (store : ShapeStore) : Prop where
  slot : store.slot = slot
  extent : ctx.scope.extent .none known.2 = .ok store.extent
  high : ctx.scope.hostForm .none known.2.high = .ok (ctx.scope.piecesText store.extent.high)
  low : ctx.scope.hostForm .none known.2.low = .ok (ctx.scope.piecesText store.extent.low)
  axis : store.axis + known.1 + 1 = v.rank

/-- The line that stores the extent between two rendered bounds. -/
def storeLine (module : String) (slot axis : Nat) (high low : String) : String :=
  module ++ "_farrays[" ++ toString slot ++ "].dimensions[" ++ toString axis ++ "] = " ++
    ("(npy_intp)((" ++ high ++ ")-(" ++ low ++ ")+1);")

namespace Variable

variable {v : Variable} {known : Nat × Bound}

/-- The bounds that are not left open, under their axes. -/
theorem mem_knownBounds : known ∈ v.knownBounds ↔
    v.bounds[known.1]? = some known.2 ∧ known.2.isAssumed = false := by
  rw [knownBounds, List.mem_filter, List.mem_mapIdx, Bool.not_eq_true']
  refine and_congr_left fun _ => ⟨?_, fun found => ?_⟩
  · rintro ⟨dimension, inside, rfl⟩
    exact List.getElem?_eq_getElem inside
  · obtain ⟨inside, same⟩ := List.getElem?_eq_some_iff.mp found
    exact ⟨known.1, inside, by rw [same]⟩

theorem lt_rank_of_known (member : known ∈ v.knownBounds) : known.1 < v.rank :=
  (List.getElem?_eq_some_iff.mp (mem_knownBounds.mp member).1).1

theorem nodup_knownBounds (v : Variable) : (v.knownBounds.map Prod.fst).Nodup := by
  refine List.Nodup.sublist (List.Sublist.map _ List.filter_sublist) ?_
  rw [map_fst_mapIdx]
  exact List.nodup_range

/-- If no dimension is left open, all of them are known. -/
theorem knownBounds_of_closed (closed : ∀ bound ∈ v.bounds, bound.isAssumed = false) :
    v.knownBounds.map Prod.fst = List.range v.rank := by
  have all : v.knownBounds = v.bounds.mapIdx fun dimension bound => (dimension, bound) := by
    refine List.filter_eq_self.mpr fun known member => ?_
    obtain ⟨dimension, inside, rfl⟩ := List.mem_mapIdx.mp member
    simpa using closed _ (List.getElem_mem inside)
  rw [all, map_fst_mapIdx]
  rfl

end Variable

/-! ### Shapes that are reported -/

/-- A shape that is put into a descriptor twice, the second time as it is stored, is the first one. -/
theorem ArrayDescriptor.syncShape_twice {array : ArrayDescriptor} {shape : List Int}
    (fits : shape.length = array.rank) :
    ∃ shaped restored, array.syncShape shape = (shaped, .ok ()) ∧ shaped.extents = shape.reverse ∧
      shaped.syncShape shaped.extents = (restored, .ok ()) ∧ restored.extents = shape := by
  refine ⟨{ array with extents := shape.reverse },
    { array with extents := shape.reverse.reverse }, if_pos fits, rfl, if_pos ?_, shape.reverse_reverse⟩
  rw [List.length_reverse]
  exact fits

/-! ### The stores of an array -/

namespace Context

variable {ctx : Context} {slot : Nat} {v : Variable} {stores : List ShapeStore}

/-- **The stores of an array**: one for each dimension that is not left open, in order. -/
theorem forall₂_shapeStores (done : ctx.shapeStores slot v = .ok stores) :
    List.Forall₂ (ctx.StoresExtent slot v) v.knownBounds stores := by
  have each := collect_eq_ok_iff.mp done
  have rendered : List.Forall₂ (fun known store => (do
      let extent ← ctx.scope.extent .none known.2
      return ({ slot, axis := v.rank - 1 - known.1, extent } : ShapeStore)) = .ok store)
      v.knownBounds stores := by
    rw [← List.forall₂_eq_eq_eq, List.forall₂_map_left_iff, List.forall₂_map_right_iff] at each
    exact each
  have inside : ∀ known ∈ v.knownBounds, known.1 < v.rank := fun known => Variable.lt_rank_of_known
  refine ((List.forall₂_and_left _ _).mpr ⟨inside, rendered⟩).imp fun known store ⟨before, written⟩ => ?_
  obtain ⟨extent, isExtent, same⟩ := bind_eq_ok_iff.mp written
  obtain rfl := Except.ok.inj same
  obtain ⟨high, isHigh, rest⟩ := bind_eq_ok_iff.mp isExtent
  obtain ⟨low, isLow, made⟩ := bind_eq_ok_iff.mp rest
  obtain rfl := Except.ok.inj made
  exact ⟨rfl, isExtent, by rw [Scope.hostForm, isHigh]; rfl, by rw [Scope.hostForm, isLow]; rfl,
    by dsimp only; omega⟩

/-- The axes of the stores, told by the dimensions. -/
theorem map_axis (each : List.Forall₂ (ctx.StoresExtent slot v) v.knownBounds stores) :
    stores.map ShapeStore.axis =
      (v.knownBounds.map Prod.fst).map fun dimension => v.rank - 1 - dimension := by
  rw [List.map_map, ← List.forall₂_eq_eq_eq, List.forall₂_map_left_iff, List.forall₂_map_right_iff]
  refine each.flip.imp fun store known stored => ?_
  have axis := stored.axis
  show store.axis = v.rank - 1 - known.1
  omega

theorem exists_known (each : List.Forall₂ (ctx.StoresExtent slot v) v.knownBounds stores)
    {store : ShapeStore} (member : store ∈ stores) :
    ∃ known ∈ v.knownBounds, ctx.StoresExtent slot v known store := by
  obtain ⟨place, inside, rfl⟩ := List.getElem_of_mem member
  have known : place < v.knownBounds.length := by rwa [each.length_eq]
  exact ⟨_, List.getElem_mem known, each.get known inside⟩

/-- The axes of the stores are distinct. -/
theorem nodup_axes (each : List.Forall₂ (ctx.StoresExtent slot v) v.knownBounds stores) :
    (stores.map ShapeStore.axis).Nodup := by
  rw [map_axis each]
  refine List.Nodup.map_on (fun first isFirst second isSecond same => ?_) v.nodup_knownBounds
  obtain ⟨known, member, rfl⟩ := List.mem_map.mp isFirst
  obtain ⟨other, memberToo, rfl⟩ := List.mem_map.mp isSecond
  have inside := Variable.lt_rank_of_known member
  have insideToo := Variable.lt_rank_of_known memberToo
  omega

/-- If no dimension is left open, the stores go from the last axis to the first. -/
theorem map_axis_of_closed (each : List.Forall₂ (ctx.StoresExtent slot v) v.knownBounds stores)
    (closed : ∀ bound ∈ v.bounds, bound.isAssumed = false) :
    stores.map ShapeStore.axis = descendingAxes v.rank := by
  rw [map_axis each, Variable.knownBounds_of_closed closed]
  refine List.ext_getElem (by simp [descendingAxes]) fun place _ _ => ?_
  simp [descendingAxes]

/-- The vector that the stores of an array build, the extents of its dimensions being given. -/
theorem build_stores (each : List.Forall₂ (ctx.StoresExtent slot v) v.knownBounds stores)
    (closed : ∀ bound ∈ v.bounds, bound.isAssumed = false) {extents dimensions : List Int}
    (given : extents.length = v.rank) (long : dimensions.length = v.rank) :
    build ((stores.map fun store => (store.axis : Int)).zip extents) dimensions =
      some extents.reverse := by
  have axes : (stores.map fun store => (store.axis : Int)) =
      (descendingAxes extents.length).map Nat.cast := by
    rw [given, ← map_axis_of_closed each closed, List.map_map]
    rfl
  have built := build_descending (long.trans given.symm) []
  rw [List.append_nil, List.append_nil] at built
  rw [axes, built]

/-! ### The three ways -/

/-- The function that takes a reported shape over. -/
def shapeReporter (ctx : Context) (loop : AxisLoop) : Item :=
  ctx.binderItem "setarraydims" "(Fortranarray *farray,long *dims)" loop.lines

/-- The lines of that function. -/
def reporterLines (symbol : String) : List String :=
  ["void " ++ symbol ++ "(Fortranarray *farray,long *dims)",
   "\x7b",
   "  int id;",
   "  for (id=0;id<farray->nd;id++)",
   "    farray->dimensions[farray->nd-1-id] = (npy_intp)(dims[id]);",
   "\x7d"]

theorem lines_reportLoop : reportLoop.lines = ["  int id;", "  for (id=0;id<farray->nd;id++)",
    "    farray->dimensions[farray->nd-1-id] = (npy_intp)(dims[id]);"] := by
  decide

theorem mem_binderItems (free : ctx.isFree) : ctx.shapeReporter reportLoop ∈ ctx.binderItems := by
  rw [shapeReporter, lines_reportLoop, binderItems, if_pos free]
  simp

/-- The function that is called with reported extents, line by line. -/
theorem lines_shapeReporter (ctx : Context) : (ctx.shapeReporter reportLoop).lines =
    .ofList (reporterLines (ctx.linkSymbol "setarraydims" "")) := by
  rw [shapeReporter, lines_reportLoop]
  rfl

/-- A store, as it is written. -/
theorem storeText_eq (ctx : Context) (store : ShapeStore) :
    ctx.storeText store = storeLine ctx.module store.slot store.axis
      (ctx.scope.piecesText store.extent.high) (ctx.scope.piecesText store.extent.low) := by
  simp only [storeText, storeLine, arrayTable, Scope.extentText, toString, String.append_assoc]
  rfl

/-- The stores in the lines of an array. -/
theorem exists_stores_of_lines {indent : String} {lines : List String}
    (emitted : ctx.storeLines indent slot v = .ofList lines) :
    ∃ stores, ctx.shapeStores slot v = .ok stores ∧
      lines = stores.map fun store => indent ++ storeLine ctx.module store.slot store.axis
        (ctx.scope.piecesText store.extent.high) (ctx.scope.piecesText store.extent.low) := by
  simp only [storeLines, storeText_eq] at emitted
  split at emitted
  · cases lines <;> cases emitted
  · next stores done => exact ⟨stores, done, (ofList_injective emitted).symm⟩

/-- **Host axes are in the reverse of the declared order, whoever sets them.** The lines that set the
shape of an array are stores at different axes, one for each dimension that is not left open and none for
the others; the extent of a dimension, between its rendered bounds, goes to the axis that has as many axes
before it as there are dimensions behind. If no dimension is left open, whatever its extents are, the
stores build the vector that the descriptor of the array gets when these extents are reported to it, and
so does the loop which free form has for that. A reported shape that is reported again as it is stored
comes back in its own order. -/
theorem axes_reversed {indent : String} {lines : List String}
    (emitted : ctx.storeLines indent slot v = .ofList lines) :
    (∃ stores : List ShapeStore,
      lines = stores.map (fun store => indent ++ storeLine ctx.module store.slot store.axis
        (ctx.scope.piecesText store.extent.high) (ctx.scope.piecesText store.extent.low)) ∧
      List.Forall₂ (ctx.StoresExtent slot v) v.knownBounds stores ∧
      (stores.map ShapeStore.axis).Nodup ∧ (∀ store ∈ stores, store.axis < v.rank) ∧
      (∀ dimension bound, v.bounds[dimension]? = some bound → bound.isAssumed →
        ∀ store ∈ stores, store.axis + dimension + 1 ≠ v.rank) ∧
      ((∀ bound ∈ v.bounds, bound.isAssumed = false) →
        ∀ (extents dimensions : List Int) (array : ArrayDescriptor), extents.length = v.rank →
          dimensions.length = v.rank → array.rank = v.rank →
          ∃ shaped, array.syncShape extents = (shaped, .ok ()) ∧
            build ((stores.map fun store => (store.axis : Int)).zip extents) dimensions =
              some shaped.extents ∧
            (ctx.isFree → ctx.shapeReporter reportLoop ∈ ctx.binderItems ∧
              (ctx.shapeReporter reportLoop).lines =
                .ofList (reporterLines (ctx.linkSymbol "setarraydims" "")) ∧
              reportLoop.run v.rank extents dimensions = some shaped.extents))) ∧
    ∀ (array : ArrayDescriptor) (shape : List Int), shape.length = array.rank →
      ∃ shaped restored, array.syncShape shape = (shaped, .ok ()) ∧
        shaped.syncShape shaped.extents = (restored, .ok ()) ∧ restored.extents = shape := by
  obtain ⟨stores, done, rfl⟩ := exists_stores_of_lines emitted
  have each := forall₂_shapeStores done
  refine ⟨⟨stores, rfl, each, nodup_axes each, fun store member => ?_,
    fun dimension bound found open' store member same => ?_, ?_⟩, fun array shape fits => ?_⟩
  · obtain ⟨known, -, stored⟩ := exists_known each member
    have axis := stored.axis
    omega
  · obtain ⟨known, isKnown, stored⟩ := exists_known each member
    have axis := stored.axis
    obtain rfl : dimension = known.1 := by omega
    obtain ⟨listed, closed⟩ := Variable.mem_knownBounds.mp isKnown
    obtain rfl := Option.some.inj (found.symm.trans listed)
    rw [closed] at open'
    cases open'
  · intro closed extents dimensions array given long ranked
    obtain ⟨shaped, -, isShaped, reversed, -, -⟩ :=
      ArrayDescriptor.syncShape_twice (given.trans ranked.symm)
    refine ⟨shaped, isShaped, ?_, fun free => ⟨mem_binderItems free, lines_shapeReporter ctx, ?_⟩⟩
    · rw [reversed]
      exact build_stores each closed given long
    · rw [reversed, ← given]
      exact run_reportLoop (long.trans given.symm)
  · obtain ⟨shaped, restored, isShaped, -, isRestored, same⟩ := ArrayDescriptor.syncShape_twice fits
    exact ⟨shaped, restored, isShaped, isRestored, same⟩

/-- An array of three dimensions. -/
def history : Variable :=
  Variable.array "history" .real "g" [⟨"0", "n"⟩, ⟨"1", "nz + 1"⟩, ⟨"1", "3"⟩]

/-- The module of the array and of the scalars that size it. -/
def historyModule : Context where
  inventory := .ofInterface
    { module := "wxy"
      declarations := [.variable (.scalar "n" .integer "g"), .variable (.scalar "nz" .integer "g"),
        .variable history] }

/-- The lines that set its shape, the function that takes over one that is reported, and what both
store. -/
theorem axes_reversed_history :
    historyModule.storeLines "  " 0 history = .ofList
      ["  wxy_farrays[0].dimensions[2] = (npy_intp)((*(long *)wxy_fscalars[0].data)-(0)+1);",
       "  wxy_farrays[0].dimensions[1] = (npy_intp)((*(long *)wxy_fscalars[1].data + 1)-(1)+1);",
       "  wxy_farrays[0].dimensions[0] = (npy_intp)((3)-(1)+1);"] ∧
    (historyModule.shapeReporter reportLoop).lines = .ofList
      ["void wxysetarraydims_(Fortranarray *farray,long *dims)", "\x7b", "  int id;",
       "  for (id=0;id<farray->nd;id++)",
       "    farray->dimensions[farray->nd-1-id] = (npy_intp)(dims[id]);", "\x7d"] ∧
    ∃ stores : List ShapeStore, stores.map ShapeStore.axis = [2, 1, 0] ∧
      build ((stores.map fun store => (store.axis : Int)).zip [5, 7, 3]) [0, 0, 0] =
        some [3, 7, 5] ∧
      reportLoop.run 3 [5, 7, 3] [0, 0, 0] = some [3, 7, 5] := by
  have emitted : historyModule.storeLines "  " 0 history = .ofList
      ["  wxy_farrays[0].dimensions[2] = (npy_intp)((*(long *)wxy_fscalars[0].data)-(0)+1);",
       "  wxy_farrays[0].dimensions[1] = (npy_intp)((*(long *)wxy_fscalars[1].data + 1)-(1)+1);",
       "  wxy_farrays[0].dimensions[0] = (npy_intp)((3)-(1)+1);"] := by decide +kernel
  have closed : ∀ bound ∈ history.bounds, bound.isAssumed = false := by decide
  obtain ⟨⟨stores, -, each, -, -, -, vectors⟩, -⟩ := axes_reversed emitted
  obtain ⟨shaped, isShaped, built, reported⟩ :=
    vectors closed [5, 7, 3] [0, 0, 0] (historyModule.arrayDescriptor history) rfl rfl rfl
  obtain ⟨-, spelled, taken⟩ := reported rfl
  obtain rfl := (Prod.mk.inj isShaped).1
  have symbol : historyModule.linkSymbol "setarraydims" "" = "wxysetarraydims_" := by decide +kernel
  rw [symbol] at spelled
  exact ⟨emitted, spelled, stores, map_axis_of_closed each closed, built, taken⟩

end Context

end ForeignGlue
