/-
**The functions that set shapes, as C reads them.**

The emitted text is read back: every array becomes the stores of its declared extents, every group
with dynamic arrays a function that makes the stores of its members under conditions, and one last
function calls those of the groups.

* `encloses_groupCondition`, `encloses_slotCondition`, `encloses_rangeCondition`: the conditions.
* `Context.declaredStores`: the stores of an array, one for each extent that is declared;
  `Context.writesLines_storeLines`: its lines are these stores.
* `Context.definesItems_dynamicShapeItems`, `Context.definesItems_staticShapeItems`: the functions
  that the two texts define, if every declared bound is one that C can read
  (`Context.ReadableBounds`).
-/

import ForeignGlue.Host.Shapes
import ForeignGlue.Proofs.CSource.Layout

namespace ForeignGlue

open ForeignGlue.CSource
open ForeignGlue.Expression (IsIdentifier)
open ForeignGlue.Source
open ForeignGlue.Text

/-! ### Conditions -/

/-- Tests whether the name is that of a group, or stands for all. -/
def groupCondition (group : String) : Expr :=
  let test (other : List Char) : Expr :=
    .binary .equal (.call (.name "strcmp") (.arguments (.name "name") (.text other))) (.number ['0'])
  .binary .or (test group.toList) (test ['*'])

/-- Tests whether all slots are meant. -/
def allSlots : Expr :=
  .binary .equal (.name "i") (.negated (.number ['1']))

/-- Tests whether a slot is meant. -/
def slotCondition (slot : Nat) : Expr :=
  .binary .or allSlots (.binary .equal (.name "i") (.number (Nat.toDigits 10 slot)))

/-- Tests whether a slot between two others may be meant. -/
def rangeCondition (first last : Nat) : Expr :=
  .binary .or allSlots
    (.binary .and (.binary .lessEqual (.number (Nat.toDigits 10 first)) (.name "i"))
      (.binary .lessEqual (.name "i") (.number (Nat.toDigits 10 last))))

theorem isLiteralBody_of_nameChars {cs : List Char} (inside : cs.all isNameChar) :
    isLiteralBody cs = true := by
  induction cs with
  | nil => rfl
  | cons c cs ih =>
      rw [List.all_cons, Bool.and_eq_true] at inside
      have first : isLiteralBody [c] = true := by
        refine isLiteralBody_singleton ?_ ?_ ?_
        all_goals
          rintro rfl
          exact absurd inside.1 (by decide)
      exact isLiteralBody_append first (ih inside.2)

/-- The text of the condition of a group. -/
theorem encloses_groupCondition {group : String} (isIdentifier : IsIdentifier group.toList) :
    Encloses (s!"strcmp(name,\"{group}\") == 0 || strcmp(name,\"*\") == 0").toList
      (groupCondition group) := by
  have nameChars := all_isNameChar_of_isIdentifier isIdentifier
  have calls : Closed "strcmp(name,".toList
      [.name "strcmp", .mark .opening, .name "name", .mark .comma] := closed_of_settled (by decide)
  have literal := closed_literal (isLiteralBody_of_nameChars nameChars)
  have between : Closed ") == 0 || strcmp(name,".toList
      [.mark .closing, .mark .equal, .number ['0'], .mark .orOr, .name "strcmp", .mark .opening,
       .name "name", .mark .comma] := closed_of_settled (by decide)
  have star := closed_literal (show isLiteralBody ['*'] = true by decide)
  have ending : Closed ") == 0)".toList
      [.mark .closing, .mark .equal, .number ['0'], .mark .closing] := closed_of_settled (by decide)
  have whole := calls.append (literal.append (between.append (star.append ending)))
  refine ⟨[.name "strcmp", .mark .opening, .name "name", .mark .comma, .text group.toList,
    .mark .closing, .mark .equal, .number ['0'], .mark .orOr, .name "strcmp", .mark .opening,
    .name "name", .mark .comma, .text ['*'], .mark .closing, .mark .equal, .number ['0']], ?_, ?_⟩
  · convert whole using 1
    · simp [toString]
    · rfl
  · intro rest
    have called (other : List Char) (more : List Terminal) : Reads .operand
        (.name "strcmp" :: .mark .opening :: .name "name" :: .mark .comma :: .text other ::
          .mark .closing :: .mark .equal :: more)
        (.call (.name "strcmp") (.arguments (.name "name") (.text other))) (.mark .equal :: more) :=
      .name (.call (.moreArguments (.expression (.name (.suffixesEnd rfl)) (.operatorsEnd rfl))
        (.oneArgument (.expression (.text (.suffixesEnd rfl)) (.operatorsEnd rfl)) (by simp)))
        (.suffixesEnd rfl))
    have zero (level : Nat) (more : List Terminal) (stops : endsOperators level more)
        (ends : endsSuffixes more) :
        Reads (.expression level) (.number ['0'] :: more) (.number ['0']) more :=
      .expression (.number (.suffixesEnd ends)) (.operatorsEnd stops)
    exact .expression (called _ _) (.operator rfl (by decide) (zero _ _ rfl rfl)
      (.operator rfl (by decide) (.expression (called _ _) (.operator rfl (by decide)
        (zero _ _ rfl rfl) (.operatorsEnd rfl))) (.operatorsEnd rfl)))

/-- All slots are meant, or what follows holds. -/
theorem reads_allSlots {ts rest : List Terminal} {x : Expr} (ends : endsOperators 0 rest)
    (other : Reads (.expression 1) ts x rest) : Reads (.expression 0)
      (.name "i" :: .mark .equal :: .mark .minus :: .number ['1'] :: .mark .orOr :: ts)
      (.binary .or allSlots x) rest :=
  .expression (.name (.suffixesEnd rfl)) (.operator rfl (by decide)
    (.expression (.negated (.number (.suffixesEnd rfl))) (.operatorsEnd rfl))
    (.operator rfl (by decide) other (.operatorsEnd ends)))

/-- The text of the condition of a slot. -/
theorem encloses_slotCondition (slot : Nat) :
    Encloses (s!"i == -1 || i == {slot}").toList (slotCondition slot) := by
  have lead : Closed "i == -1 || i == ".toList
      [.name "i", .mark .equal, .mark .minus, .number ['1'], .mark .orOr, .name "i", .mark .equal] :=
    closed_of_settled (by decide)
  have ending : Closed ")".toList [.mark .closing] := closed_of_settled (by decide)
  have number := ending.number slot (by decide)
  refine ⟨[.name "i", .mark .equal, .mark .minus, .number ['1'], .mark .orOr, .name "i", .mark .equal,
    .number (Nat.toDigits 10 slot)], ?_, fun rest => ?_⟩
  · convert lead.append number using 1
    · simp [toString]
    · rfl
  · exact reads_allSlots rfl (.expression (.name (.suffixesEnd rfl)) (.operator rfl (by decide)
      (.expression (.number (.suffixesEnd rfl)) (.operatorsEnd rfl)) (.operatorsEnd rfl)))

/-- The text of the condition of a range of slots. -/
theorem encloses_rangeCondition (first last : Nat) :
    Encloses (s!"i == -1 || ({first} <= i && i <= {last})").toList (rangeCondition first last) := by
  have lead : Closed "i == -1 || (".toList
      [.name "i", .mark .equal, .mark .minus, .number ['1'], .mark .orOr, .mark .opening] :=
    closed_of_settled (by decide)
  have between : Closed " <= i && i <= ".toList
      [.mark .lessEqual, .name "i", .mark .andAnd, .name "i", .mark .lessEqual] :=
    closed_of_settled (by decide)
  have ending : Closed "))".toList [.mark .closing, .mark .closing] := closed_of_settled (by decide)
  have whole := lead.append ((between.number first (by decide)).append
    (ending.number last (by decide)))
  refine ⟨[.name "i", .mark .equal, .mark .minus, .number ['1'], .mark .orOr, .mark .opening,
    .number (Nat.toDigits 10 first), .mark .lessEqual, .name "i", .mark .andAnd, .name "i",
    .mark .lessEqual, .number (Nat.toDigits 10 last), .mark .closing], ?_, fun rest => ?_⟩
  · convert whole using 1
    · simp [toString]
    · rfl
  · have above : Reads (.expression 2)
        (.name "i" :: .mark .lessEqual :: .number (Nat.toDigits 10 last) :: .mark .closing ::
          .mark .closing :: rest)
        (.binary .lessEqual (.name "i") (.number (Nat.toDigits 10 last)))
        (.mark .closing :: .mark .closing :: rest) :=
      .expression (.name (.suffixesEnd rfl)) (.operator rfl (by decide)
        (.expression (.number (.suffixesEnd rfl)) (.operatorsEnd rfl)) (.operatorsEnd rfl))
    exact reads_allSlots rfl (.expression (.parenthesized
      (.expression (.number (.suffixesEnd rfl)) (.operator rfl (by decide)
        (.expression (.name (.suffixesEnd rfl)) (.operatorsEnd rfl))
        (.operator rfl (by decide) above (.operatorsEnd rfl)))) (.suffixesEnd rfl))
      (.operatorsEnd rfl))

/-! ### Stores -/

namespace Context

variable {ctx : Context}

/-- The place of a host axis of an array. -/
def axisExpr (ctx : Context) (slot axis : Nat) : Expr :=
  .element (.field (.element (.name ctx.arrayTable) (.number (Nat.toDigits 10 slot))) "dimensions")
    (.number (Nat.toDigits 10 axis))

/-- The store that sets the extent of a declared dimension. -/
def declaredStore? (ctx : Context) (slot rank : Nat) (known : Nat × Bound) : Option Store :=
  (ctx.scope.extentExpr? known.2).map fun extent =>
    ⟨ctx.axisExpr slot (rank - 1 - known.1), .cast "npy_intp" extent⟩

/-- The stores that set the shape of an array, one for each extent that is declared. -/
def declaredStores (ctx : Context) (numbered : NumberedArray) : List Store :=
  let known := (numbered.array.bounds.mapIdx fun dimension bound => (dimension, bound)).filter
    fun (_, bound) => !bound.isAssumed
  known.filterMap (ctx.declaredStore? numbered.slot numbered.array.rank)

/-- A store as a statement. -/
def storeCode (store : Store) : Code :=
  .assign store.target store.value

/-- Every bound that is declared is one that C can read. -/
def ReadableBounds (ctx : Context) : Prop :=
  ∀ array ∈ ctx.inventory.arrays, ∀ bound ∈ array.bounds, bound.isAssumed = false →
    (ctx.scope.extentExpr? bound).isSome

/-- A name that starts with the module's is free if what follows starts as no part of a reserved
word does. -/
theorem isFree_module (tables : ctx.scope.NamesTables) {tail : String} {part : List Char}
    (inside : tail.toList.all isNameChar) (starts : part <+: tail.toList)
    (rare : reservedWords.all fun entry => !decide (part <:+: entry.1)) :
    IsFree (ctx.module ++ tail).toList := by
  rw [String.toList_append]
  refine isFree_of_infix (isIdentifier_append tables.1 inside) ?_ rare
  exact starts.isInfix.trans (List.suffix_append _ _).isInfix

theorem isFree_arrayTable (tables : ctx.scope.NamesTables) : IsFree ctx.arrayTable.toList :=
  isFree_module tables (by decide) (List.prefix_refl _) (by decide)

theorem isFree_groupShapeSetter (tables : ctx.scope.NamesTables) {group : String}
    (isIdentifier : IsIdentifier group.toList) : IsFree (ctx.groupShapeSetter group).toList := by
  have nameChars : ("setdims" ++ group).toList.all isNameChar := by
    rw [String.toList_append, List.all_append, all_isNameChar_of_isIdentifier isIdentifier]
    decide
  have starts : "setdims".toList <+: ("setdims" ++ group).toList := by
    rw [String.toList_append]
    exact List.prefix_append _ _
  have whole := isFree_module tables nameChars starts (by decide)
  rwa [← String.append_assoc] at whole

/-- The line of a store. -/
theorem writes_storeText (tables : ctx.scope.NamesTables) {indent : String} {slot axis : Nat}
    {bound : Bound} {x : Expr} {extent : Extent} (blank : Closed indent.toList [])
    (read : ctx.scope.extentExpr? bound = some x)
    (rendered : ctx.scope.extent .none bound = .ok extent) :
    Writes ((indent ++ ctx.storeText ⟨slot, axis, extent⟩).toList ++ ['\n'])
      [.assign (ctx.axisExpr slot axis) (.cast "npy_intp" x)] := by
  obtain ⟨ts, closed, operand⟩ := Scope.operand_extent tables read rendered
  have bracket : Closed "[".toList [.mark .openingBracket] := closed_of_settled (by decide)
  have field : Closed "].dimensions[".toList
      [.mark .closingBracket, .mark .dot, .name "dimensions", .mark .openingBracket] :=
    closed_of_settled (by decide)
  have assigns : Closed "] = (npy_intp)".toList
      [.mark .closingBracket, .mark .assign, .mark .opening, .typeName "npy_intp", .mark .closing] :=
    closed_of_settled (by decide)
  have ending : Closed ";\n".toList [.mark .semicolon] := closed_of_settled (by decide)
  have whole := blank.append ((bracket.word (isFree_arrayTable tables) (by decide)).append
    ((field.number slot (by decide)).append ((assigns.number axis (by decide)).append
      (closed.append ending))))
  have target : ReadsAt .unary
      [.name ctx.arrayTable, .mark .openingBracket, .number (Nat.toDigits 10 slot),
       .mark .closingBracket, .mark .dot, .name "dimensions", .mark .openingBracket,
       .number (Nat.toDigits 10 axis), .mark .closingBracket] (ctx.axisExpr slot axis) := by
    intro rest ends
    have index (value : Nat) (more : List Terminal) : Reads (.expression 0)
        (.number (Nat.toDigits 10 value) :: .mark .closingBracket :: more)
        (.number (Nat.toDigits 10 value)) (.mark .closingBracket :: more) :=
      .expression (.number (.suffixesEnd rfl)) (.operatorsEnd rfl)
    exact .name (.element (index slot _) (.field (.element (index axis _) (.suffixesEnd ends))))
  have value : ReadsAt .unary
      ([.mark .opening, .typeName "npy_intp", .mark .closing] ++ ts) (.cast "npy_intp" x) := by
    intro rest ends
    exact .cast (operand rest ends)
  have spelled : (indent ++ ctx.storeText ⟨slot, axis, extent⟩).toList ++ ['\n'] =
      indent.toList ++ ((ctx.arrayTable.toList ++ "[".toList) ++
        ((Nat.toDigits 10 slot ++ "].dimensions[".toList) ++
          ((Nat.toDigits 10 axis ++ "] = (npy_intp)".toList) ++
            ((ctx.scope.extentText extent).toList ++ ";\n".toList)))) := by
    simp [storeText, toString]
  rw [spelled]
  refine Writes.single whole fun rest => ?_
  simpa using target.assign value rest

/-- The lines of stores, for dimensions whose bounds C can read. -/
theorem writes_stores (tables : ctx.scope.NamesTables) {indent : String} {slot rank : Nat}
    {known : List (Nat × Bound)} {stores : List ShapeStore} (blank : Closed indent.toList [])
    (readable : ∀ entry ∈ known, (ctx.scope.extentExpr? entry.2).isSome)
    (done : known.map (fun (dimension, bound) => do
      let extent ← ctx.scope.extent Binding.none bound
      return ({ slot, axis := rank - 1 - dimension, extent } : ShapeStore)) = stores.map .ok) :
    Writes (lineChars (stores.map fun store => indent ++ ctx.storeText store))
      ((known.filterMap (ctx.declaredStore? slot rank)).map storeCode) := by
  induction known generalizing stores with
  | nil =>
      cases stores with
      | nil => exact .blank Closed.nil
      | cons store stores => cases done
  | cons entry known ih =>
      obtain ⟨dimension, bound⟩ := entry
      cases stores with
      | nil => cases done
      | cons store stores =>
          obtain ⟨here, later⟩ := List.cons.inj done
          obtain ⟨extent, rendered, same⟩ := bind_eq_ok_iff.mp here
          obtain rfl := Except.ok.inj same
          obtain ⟨x, read⟩ := Option.isSome_iff_exists.mp (readable _ List.mem_cons_self)
          have first : Writes
              ((indent ++ ctx.storeText ⟨slot, rank - 1 - dimension, extent⟩).toList ++ ['\n'])
              [.assign (ctx.axisExpr slot (rank - 1 - dimension)) (.cast "npy_intp" x)] :=
            writes_storeText tables blank read rendered
          have rest := ih (fun other member => readable other (List.mem_cons_of_mem _ member)) later
          have store : ctx.declaredStore? slot rank (dimension, bound) =
              some ⟨ctx.axisExpr slot (rank - 1 - dimension), .cast "npy_intp" x⟩ := by
            rw [declaredStore?, read]
            rfl
          rw [List.filterMap_cons_some store]
          exact first.append rest

/-- **The lines of an array** are its stores. -/
theorem writesLines_storeLines (tables : ctx.scope.NamesTables) {indent : String}
    {numbered : NumberedArray} (blank : Closed indent.toList [])
    (readable : ∀ bound ∈ numbered.array.bounds, bound.isAssumed = false →
      (ctx.scope.extentExpr? bound).isSome) :
    WritesLines (ctx.storeLines indent numbered.slot numbered.array)
      ((ctx.declaredStores numbered).map storeCode) := by
  unfold storeLines
  cases done : ctx.shapeStores numbered.slot numbered.array with
  | error error =>
      intro lines spelled
      cases lines <;> cases spelled
  | ok stores =>
      refine .ofList (writes_stores tables blank ?_ (collect_eq_ok_iff.mp done))
      intro entry member
      obtain ⟨listed, declared⟩ := List.mem_filter.mp member
      obtain ⟨dimension, inside, rfl⟩ := List.mem_mapIdx.mp listed
      exact readable _ (List.getElem_mem inside) (by simpa using declared)

/-! ### The function of a group -/

/-- The stores of a member of a group, if its slot is meant. -/
def memberCode (ctx : Context) (member : NumberedArray) : Code :=
  .conditional (slotCondition member.slot)
    (.block (.ofList ((ctx.declaredStores member).map storeCode)))

/-- The function that sets the shapes of a group. -/
def groupFunction (ctx : Context) (group : String) : Function where
  name := ctx.groupShapeSetter group
  parameters := ["name", "i"]
  body := .ofList [.conditional (groupCondition group)
    (.block (.ofList ((ctx.dynamicArraysIn group).map ctx.memberCode)))]

theorem closed_closingBrace : Closed ("  \x7d".toList ++ ['\n']) [.mark .closingBrace] := by
  have chunk : Closed "  \x7d\n".toList [.mark .closingBrace] := closed_of_settled (by decide)
  exact chunk

theorem writesLines_memberShapeLines (tables : ctx.scope.NamesTables) {member : NumberedArray}
    (readable : ∀ bound ∈ member.array.bounds, bound.isAssumed = false →
      (ctx.scope.extentExpr? bound).isSome) :
    WritesLines (ctx.memberShapeLines member) [ctx.memberCode member] := by
  have opens : Closed "  if (".toList [.ifWord, .mark .opening] := closed_of_settled (by decide)
  have indent : Closed "    ".toList [] := closed_of_settled (by decide)
  have lines := WritesLines.conditional opens (encloses_slotCondition member.slot)
    (writesLines_storeLines tables indent readable) closed_closingBrace
  have spelled : s!"  if (i == -1 || i == {member.slot}) \x7b" =
      "  if (" ++ s!"i == -1 || i == {member.slot}" ++ ") \x7b" := by
    rw [← String.toList_inj]
    simp [toString]
  rw [memberShapeLines, spelled]
  exact lines

theorem definesItems_groupShapeItem (tables : ctx.scope.NamesTables) {group : String}
    (isIdentifier : IsIdentifier group.toList)
    (readable : ∀ member ∈ ctx.dynamicArraysIn group, ∀ bound ∈ member.array.bounds,
      bound.isAssumed = false → (ctx.scope.extentExpr? bound).isSome) :
    DefinesItems [ctx.groupShapeItem group] [ctx.groupFunction group] := by
  have opens : Closed "  if (".toList [.ifWord, .mark .opening] := closed_of_settled (by decide)
  have members := WritesLines.flatMap fun member listed =>
    writesLines_memberShapeLines tables (readable member listed)
  rw [← List.map_eq_flatMap] at members
  have lines := WritesLines.conditional opens (encloses_groupCondition isIdentifier) members
    closed_closingBrace
  have spelled : s!"  if (strcmp(name,\"{group}\") == 0 || strcmp(name,\"*\") == 0) \x7b" =
      "  if (" ++ s!"strcmp(name,\"{group}\") == 0 || strcmp(name,\"*\") == 0" ++ ") \x7b" := by
    rw [← String.toList_inj]
    simp [toString]
  have lead : Closed "static void ".toList [.staticWord, .typeName "void"] :=
    closed_of_settled (by decide)
  have tail : Closed "(char *name,long i)".toList
      [.mark .opening, .typeName "char", .mark .star, .name "name", .mark .comma, .typeName "long",
       .name "i", .mark .closing] := closed_of_settled (by decide)
  rw [groupShapeItem, spelled]
  exact .function lines (isFree_groupShapeSetter tables isIdentifier) lead
    (fun rest unit read => .static read) rfl tail
    fun rest => .more .pointer (.last .value)

/-! ### The function that calls those of the groups -/

/-- The first and the last slot of the dynamic arrays of a group. -/
def slotRange (ctx : Context) (group : String) : Option (Nat × Nat) := do
  let first ← (ctx.dynamicArraysIn group).head?
  let last ← (ctx.dynamicArraysIn group).getLast?
  return (first.slot, last.slot)

/-- Calls the function of a group if one of its slots can be meant. -/
def dispatchCode? (ctx : Context) (group : String) : Option Code :=
  (ctx.slotRange group).map fun (first, last) =>
    .conditional (rangeCondition first last)
      (.perform (.call (.name (ctx.groupShapeSetter group))
        (.arguments (.name "name") (.name "i"))))

/-- The function that sets the shapes of dynamic arrays. -/
def dynamicFunction (ctx : Context) : Function where
  name := ctx.module ++ "setdims"
  parameters := ["name", "obj", "i"]
  body := .ofList (ctx.dynamicGroups.filterMap ctx.dispatchCode?)

/-- The function that sets the shapes of static arrays. -/
def staticFunction (ctx : Context) : Function where
  name := ctx.module ++ "setstaticdims"
  parameters := ["self"]
  body := .ofList ((ctx.numberedArrays.filter fun numbered => !numbered.array.isDynamic).flatMap
    fun numbered => (ctx.declaredStores numbered).map storeCode)

/-- The line that calls the function of a group. -/
theorem writes_dispatchLine (tables : ctx.scope.NamesTables) {group : String}
    (isIdentifier : IsIdentifier group.toList) :
    Writes (lineChars (ctx.dispatchLine group).toList) (ctx.dispatchCode? group).toList := by
  have same : ctx.dispatchLine group = (ctx.slotRange group).map fun (first, last) =>
      s!"  if (i == -1 || ({first} <= i && i <= {last})) " ++
        s!"{ctx.groupShapeSetter group}(name,i);" := by
    unfold dispatchLine slotRange
    dsimp only
    cases (ctx.dynamicArraysIn group).head? with
    | none => rfl
    | some first =>
        cases (ctx.dynamicArraysIn group).getLast? with
        | none => rfl
        | some last => rfl
  rw [same, dispatchCode?]
  cases ctx.slotRange group with
  | none => exact .blank Closed.nil
  | some range =>
      obtain ⟨first, last⟩ := range
      obtain ⟨ts, closed, read⟩ := encloses_rangeCondition first last
      have opens : Closed "  if (".toList [.ifWord, .mark .opening] := closed_of_settled (by decide)
      have space : Closed " ".toList [] := closed_of_settled (by decide)
      have passed : Closed "(name,i);\n".toList
          [.mark .opening, .name "name", .mark .comma, .name "i", .mark .closing,
           .mark .semicolon] := closed_of_settled (by decide)
      have call := passed.word (isFree_groupShapeSetter tables isIdentifier) (by decide)
      have whole := opens.append (closed.append (space.append call))
      have reads (rest : List Terminal) : ReadsCode .statement
          (.name (ctx.groupShapeSetter group) :: .mark .opening :: .name "name" :: .mark .comma ::
            .name "i" :: .mark .closing :: .mark .semicolon :: rest)
          (.perform (.call (.name (ctx.groupShapeSetter group))
            (.arguments (.name "name") (.name "i")))) rest :=
        .perform (.expression (.name (.call (.moreArguments
          (.expression (.name (.suffixesEnd rfl)) (.operatorsEnd rfl))
          (.oneArgument (.expression (.name (.suffixesEnd rfl)) (.operatorsEnd rfl)) (by simp)))
          (.suffixesEnd rfl))) (.operatorsEnd rfl))
      have spelled : lineChars (Option.toList (some
          (s!"  if (i == -1 || ({first} <= i && i <= {last})) " ++
            s!"{ctx.groupShapeSetter group}(name,i);"))) =
          "  if (".toList ++ (((s!"i == -1 || ({first} <= i && i <= {last})").toList ++ [')']) ++
            (" ".toList ++ ((ctx.groupShapeSetter group).toList ++ "(name,i);\n".toList))) := by
        simp [lineChars, toString]
      show Writes (lineChars (Option.toList (some _))) [_]
      rw [spelled]
      refine Writes.single whole fun rest => ?_
      simp only [List.append_assoc, List.cons_append, List.nil_append]
      exact .conditional (read _) (reads rest)

/-! ### The two texts -/

theorem array_mem_of_numbered {numbered : NumberedArray} (member : numbered ∈ ctx.numberedArrays) :
    numbered.array ∈ ctx.inventory.arrays := by
  obtain ⟨slot, inside, rfl⟩ := List.mem_mapIdx.mp member
  exact List.getElem_mem inside

/-- A group with dynamic arrays is the group of one of them. -/
theorem exists_of_mem_dynamicGroups {group : String} (member : group ∈ ctx.dynamicGroups) :
    ∃ numbered ∈ ctx.dynamicArrays, numbered.array.group = group :=
  List.mem_map.mp (mem_distinct.mp member)

/-- **The functions that set the shapes of dynamic arrays.** -/
theorem definesItems_dynamicShapeItems (tables : ctx.scope.NamesTables)
    (named : ∀ array ∈ ctx.inventory.arrays, IsIdentifier array.group.toList)
    (readable : ctx.ReadableBounds) :
    DefinesItems ctx.dynamicShapeItems
      (ctx.dynamicGroups.map ctx.groupFunction ++ [ctx.dynamicFunction]) := by
  have namedGroup : ∀ group ∈ ctx.dynamicGroups, IsIdentifier group.toList := by
    intro group member
    obtain ⟨numbered, listed, rfl⟩ := exists_of_mem_dynamicGroups member
    exact named _ (array_mem_of_numbered (List.mem_filter.mp listed).1)
  have groups := DefinesItems.map fun group member => definesItems_groupShapeItem tables
    (namedGroup group member) fun numbered inside => readable _ (array_mem_of_numbered
      (List.mem_filter.mp (List.mem_filter.mp inside).1).1)
  have lines : Writes (lineChars (ctx.dynamicGroups.filterMap ctx.dispatchLine))
      (ctx.dynamicGroups.filterMap ctx.dispatchCode?) := by
    rw [List.filterMap_eq_flatMap_toList, List.filterMap_eq_flatMap_toList, lineChars,
      List.flatMap_assoc]
    exact Writes.flatMap fun group member => writes_dispatchLine tables (namedGroup group member)
  have free : IsFree (ctx.module ++ "setdims").toList :=
    isFree_module tables (by decide) (List.prefix_refl _) (by decide)
  have lead : Closed "void ".toList [.typeName "void"] := closed_of_settled (by decide)
  have tail : Closed "(char *name,ForthonObject *obj,long i)".toList
      [.mark .opening, .typeName "char", .mark .star, .name "name", .mark .comma,
       .typeName "ForthonObject", .mark .star, .name "obj", .mark .comma, .typeName "long", .name "i",
       .mark .closing] := closed_of_settled (by decide)
  have last := DefinesItems.function (.ofList lines) free lead (fun rest unit read => read) rfl tail
    fun rest => .more .pointer (.more .pointer (.last .value))
  exact groups.append (last.append .emptyLine)

/-- **The function that sets the shapes of static arrays.** -/
theorem definesItems_staticShapeItems (tables : ctx.scope.NamesTables)
    (readable : ctx.ReadableBounds) :
    DefinesItems ctx.staticShapeItems [ctx.staticFunction] := by
  have indent : Closed "  ".toList [] := closed_of_settled (by decide)
  have lines := WritesLines.flatMap fun numbered
      (member : numbered ∈ ctx.numberedArrays.filter fun numbered => !numbered.array.isDynamic) =>
    writesLines_storeLines tables indent
      (readable _ (array_mem_of_numbered (List.mem_filter.mp member).1))
  have free : IsFree (ctx.module ++ "setstaticdims").toList :=
    isFree_module tables (by decide) (List.prefix_refl _) (by decide)
  have lead : Closed "void ".toList [.typeName "void"] := closed_of_settled (by decide)
  have tail : Closed "(ForthonObject *self)".toList
      [.mark .opening, .typeName "ForthonObject", .mark .star, .name "self", .mark .closing] :=
    closed_of_settled (by decide)
  have defines := DefinesItems.function lines free lead (fun rest unit read => read) rfl tail
    fun rest => .last .pointer
  exact defines.append .emptyLine

end Context

end ForeignGlue
