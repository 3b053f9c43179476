/-
**Prototypes, string descriptors and calls.**

A foreign routine takes addresses, and for a text a descriptor with its address and length. The prototype
says what it takes, the wrapper fills the descriptors while it converts arguments, and the call passes
them; each of the three counts the texts among the arguments for itself.

* `Agrees`: a parameter and what is passed for it; `Context.forall₂_agrees`: all of a call;
* `Routine.characterPlaces`: the places of the texts; `Routine.stringsBefore_of_getElem?`: their numbers;
* `isStringLine`: a line that declares or fills descriptors; `Selects`: such lines of a draft;
* `Context.selects_untilRecovery`: the wrapper before the call;
* `Context.strings_passed`: prototype, wrapper and call side by side.
-/

import ForeignGlue.Host.Prototypes
import ForeignGlue.Proofs.Host.SizingLocals

namespace ForeignGlue

open ForeignGlue.CSource ForeignGlue.Source ForeignGlue.Text

/-! ### Parameters and what is passed for them -/

/-- **What is passed fits the parameter**: a descriptor for a text, an address for an address, and the
length of a text for a length. -/
inductive Agrees : Parameter → CallArgument → Prop where
  | descriptor {type name : String} {number : Nat} : Agrees (.descriptor type name) (.descriptor number)
  | buffer {type name : String} {index : Nat} : Agrees (.pointer type name) (.buffer type index)
  | record {type name : String} {index : Nat} : Agrees (.pointer type name) (.record index)
  | length {number index : Nat} : Agrees (.length number) (.length index)

/-- The places of texts in a list of arguments. -/
def placesOf (arguments : List Argument) : List Nat :=
  ((arguments.mapIdx fun index argument => (index, argument)).filter fun numbered =>
    numbered.2.type.isCharacter).map Prod.fst

theorem length_placesOf (arguments : List Argument) :
    (placesOf arguments).length = (arguments.filter fun argument => argument.type.isCharacter).length := by
  conv_rhs => rw [← map_snd_mapIdx arguments]
  rw [placesOf, List.length_map, List.filter_map, List.length_map]
  rfl

/-- A text is listed behind those before it. -/
theorem exists_placesOf_append {argument : Argument} (character : argument.type.isCharacter = true)
    (before after : List Argument) :
    ∃ rest, placesOf (before ++ argument :: after) = placesOf before ++ before.length :: rest := by
  have first (later : List (Nat × Argument)) :
      ((0 + before.length, argument) :: later).filter (fun numbered => numbered.2.type.isCharacter) =
        (0 + before.length, argument) :: later.filter fun numbered => numbered.2.type.isCharacter :=
    List.filter_cons_of_pos character
  unfold placesOf
  rw [List.mapIdx_append, List.filter_append, List.map_append, List.mapIdx_cons, first, List.map_cons,
    Nat.zero_add]
  exact ⟨_, rfl⟩

namespace Routine

variable {routine : Routine} {place : Nat}

/-- **The places of a routine's texts**, in order. -/
def characterPlaces (routine : Routine) : List Nat :=
  placesOf routine.arguments

theorem length_characterPlaces (routine : Routine) :
    routine.characterPlaces.length = routine.stringCount :=
  length_placesOf routine.arguments

/-- The places of texts are the places at which one is declared. -/
theorem mem_characterPlaces : place ∈ routine.characterPlaces ↔
    ∃ argument, routine.arguments[place]? = some argument ∧ argument.type.isCharacter = true := by
  unfold characterPlaces placesOf
  simp only [List.mem_map, List.mem_filter, List.mem_mapIdx]
  constructor
  · rintro ⟨_, ⟨⟨index, inside, rfl⟩, character⟩, rfl⟩
    exact ⟨_, List.getElem?_eq_getElem inside, character⟩
  · rintro ⟨argument, found, character⟩
    obtain ⟨inside, rfl⟩ := List.getElem?_eq_some_iff.mp found
    exact ⟨_, ⟨⟨place, inside, rfl⟩, character⟩, rfl⟩

theorem nodup_characterPlaces (routine : Routine) : routine.characterPlaces.Nodup := by
  have all : ((routine.arguments.mapIdx fun index argument => (index, argument)).map Prod.fst).Nodup := by
    rw [map_fst_mapIdx]
    exact List.nodup_range
  exact all.sublist (List.filter_sublist.map Prod.fst)

/-- A text is listed under the number of texts before it. -/
theorem getElem?_stringsBefore {argument : Argument} (found : routine.arguments[place]? = some argument)
    (character : argument.type.isCharacter = true) :
    routine.characterPlaces[routine.stringsBefore place]? = some place := by
  obtain ⟨inside, rfl⟩ := List.getElem?_eq_some_iff.mp found
  have split : routine.arguments = routine.arguments.take place ++
      routine.arguments[place] :: routine.arguments.drop (place + 1) := by
    rw [List.getElem_cons_drop, List.take_append_drop]
  obtain ⟨rest, listed⟩ := exists_placesOf_append character (routine.arguments.take place)
    (routine.arguments.drop (place + 1))
  have before : (placesOf (routine.arguments.take place)).length = routine.stringsBefore place :=
    length_placesOf _
  rw [← split, List.length_take_of_le inside.le] at listed
  rw [characterPlaces, listed, ← before, List.getElem?_append_right (Nat.le_refl _), Nat.sub_self]
  rfl

/-- **The number of a text** is that of the texts before it. -/
theorem stringsBefore_of_getElem? {number : Nat} (listed : routine.characterPlaces[number]? = some place) :
    routine.stringsBefore place = number := by
  obtain ⟨argument, found, character⟩ := mem_characterPlaces.mp (List.mem_of_getElem? listed)
  have same := getElem?_stringsBefore found character
  obtain ⟨inside, isPlace⟩ := List.getElem?_eq_some_iff.mp listed
  obtain ⟨insideToo, isPlaceToo⟩ := List.getElem?_eq_some_iff.mp same
  exact (routine.nodup_characterPlaces.getElem_inj_iff).mp (isPlaceToo.trans isPlace.symm)

end Routine

namespace Context

variable {ctx : Context} {routine : Routine}

/-- **What is passed to a routine**: one thing for each argument, and the lengths of texts behind them.
-/
theorem callArguments_eq (ctx : Context) (routine : Routine) :
    ctx.callArguments routine =
      (routine.arguments.mapIdx fun index argument =>
        if argument.type.isRecord then CallArgument.record index
        else if argument.type.isCharacter then .descriptor (routine.stringsBefore index)
        else .buffer (ctx.types.host argument.type) index) ++
      if ctx.options.stringLengthsAtEnd then routine.characterPlaces.map .length else [] := by
  unfold callArguments Routine.characterPlaces placesOf
  rw [List.map_map]
  rfl

/-- **Parameters and what is passed agree**, position by position. -/
theorem forall₂_agrees (ctx : Context) (routine : Routine) :
    List.Forall₂ Agrees (ctx.parameters routine) (ctx.callArguments routine) := by
  rw [callArguments_eq]
  unfold parameters
  refine List.rel_append ?_ ?_
  · refine List.forall₂_iff_get.mpr ⟨by simp, fun index inside insideToo => ?_⟩
    have taken : index < routine.arguments.length := by simpa using inside
    simp only [List.get_eq_getElem, List.getElem_map, List.getElem_mapIdx, parameter]
    cases routine.arguments[index].type with
    | record name => exact .record
    | character => exact .descriptor
    | _ => exact .buffer
  · split
    · refine List.forall₂_iff_get.mpr ⟨?_, fun index inside insideToo => ?_⟩
      · rw [List.length_map, List.length_map, List.length_range, routine.length_characterPlaces]
      · simp only [List.get_eq_getElem, List.getElem_map]
        exact .length
    · exact .nil

end Context

/-! ### Lines about descriptors -/

/-- The line that declares descriptors. -/
def declarationLine (count : Nat) : String :=
  s!"  FSTRING fstr[{count}];"

/-- The line that fills a descriptor from the buffer at a place. -/
def fillLine (number place : Nat) : String :=
  s!"  FSETSTRING(fstr[{number}],PyArray_BYTES(ax[{place}]),PyArray_SIZE(ax[{place}]));"

/-- **A line that declares descriptors or fills one.** The spelling of a type can be anything, so the end
of the line counts, and that nothing is assigned. -/
def isStringLine (line : String) : Bool :=
  let chars := line.toList
  ("  FSTRING fstr[".toList.isPrefixOf chars && "];".toList.isSuffixOf chars) ||
    ("  FSETSTRING(".toList.isPrefixOf chars && ");".toList.isSuffixOf chars && !chars.contains '=')

theorem prefix_append (rest : String) {start : String} {head : List Char}
    (starts : head <+: start.toList) : head <+: (start ++ rest).toList := by
  rw [String.toList_append]
  exact starts.trans (List.prefix_append _ _)

theorem isStringLine_declarationLine (count : Nat) : isStringLine (declarationLine count) = true := by
  have starts : "  FSTRING fstr[".toList.isPrefixOf (declarationLine count).toList = true :=
    List.isPrefixOf_iff_prefix.mpr (prefix_append _ (prefix_append _ (List.prefix_refl _)))
  have ends : "];".toList.isSuffixOf (declarationLine count).toList = true :=
    List.isSuffixOf_iff_suffix.mpr (suffix_append _ (List.suffix_refl _))
  rw [isStringLine, starts, ends]
  rfl

theorem isStringLine_fillLine (number place : Nat) : isStringLine (fillLine number place) = true := by
  have digits (value : Nat) : '=' ∉ value.repr.toList := by
    rw [Nat.repr, String.toList_ofList]
    exact fun member =>
      absurd (List.all_eq_true.mp (CExpression.all_isDigit_toDigits value) _ member) (by decide)
  have written : fillLine number place = "  FSETSTRING(fstr[" ++ number.repr ++ "],PyArray_BYTES(ax[" ++
      place.repr ++ "]),PyArray_SIZE(ax[" ++ place.repr ++ "]));" := rfl
  have starts : "  FSETSTRING(".toList.isPrefixOf (fillLine number place).toList = true := by
    have opening : "  FSETSTRING(".toList <+: "  FSETSTRING(fstr[".toList := by decide
    rw [List.isPrefixOf_iff_prefix, written]
    exact prefix_append _ (prefix_append _ (prefix_append _ (prefix_append _ (prefix_append _
      (prefix_append _ opening)))))
  have ends : ");".toList.isSuffixOf (fillLine number place).toList = true :=
    List.isSuffixOf_iff_suffix.mpr (suffix_append _ (by decide : ");".toList <:+ "]));".toList))
  have assigns : (fillLine number place).toList.contains '=' = false := by
    rw [← Bool.not_eq_true, List.contains_iff_mem, written]
    simp only [String.toList_append, List.mem_append, digits, or_false]
    decide
  unfold isStringLine
  dsimp only
  rw [starts, ends, assigns, Bool.or_eq_true]
  exact .inr rfl

/-- A line about descriptors. -/
abbrev stringLine? : String → Option String :=
  Option.guard isStringLine

theorem stringLine?_eq_none_iff {line : String} : stringLine? line = none ↔ isStringLine line = false := by
  simp [Option.guard]

/-- A start of lines that are not about descriptors, however they go on. -/
abbrev Clear : String → Prop :=
  Overlooks stringLine?

/-- The first four characters of a line tell that it is not about descriptors. -/
theorem Clear.fixed {start : String} {more : List Char} {a b c d : Char}
    (starts : start.toList = a :: b :: c :: d :: more) (other : [a, b, c, d] ≠ "  FS".toList) :
    Clear start := by
  intro rest
  have differs {text : List Char} : ("  FS".toList ++ text).isPrefixOf (start ++ rest).toList = false := by
    rw [← Bool.not_eq_true, List.isPrefixOf_iff_prefix, String.toList_append, starts]
    intro begins
    have four : "  FS".toList <+: [a, b, c, d] :=
      List.prefix_of_prefix_length_le ((List.prefix_append _ _).trans begins)
        (List.prefix_append [a, b, c, d] (more ++ rest.toList)) (Nat.le_refl 4)
    exact other (four.eq_of_length rfl).symm
  have noDeclaration : "  FSTRING fstr[".toList.isPrefixOf (start ++ rest).toList = false := differs
  have noFill : "  FSETSTRING(".toList.isPrefixOf (start ++ rest).toList = false := differs
  rw [stringLine?_eq_none_iff]
  unfold isStringLine
  dsimp only
  rw [noDeclaration, noFill]
  rfl

/-- A line with a type that is spelled in any way: the result. -/
theorem stringLine?_result (type : String) : stringLine? s!"  {type} r;" = none := by
  have ends : ['r', ';'] <:+ (s!"  {type} r;").toList :=
    suffix_append _ (by decide : ['r', ';'] <:+ " r;".toList)
  have noDeclaration : "];".toList.isSuffixOf (s!"  {type} r;").toList = false := by
    rw [← Bool.not_eq_true, List.isSuffixOf_iff_suffix]
    exact not_suffix ends (by decide)
  have noFill : ");".toList.isSuffixOf (s!"  {type} r;").toList = false := by
    rw [← Bool.not_eq_true, List.isSuffixOf_iff_suffix]
    exact not_suffix ends (by decide)
  rw [stringLine?_eq_none_iff]
  unfold isStringLine
  dsimp only
  rw [noDeclaration, noFill, Bool.and_false, Bool.and_false]
  rfl

/-- A line with a type that is spelled in any way: a size. -/
theorem stringLine?_read (read : SizingRead) : stringLine? read.line = none := by
  have noDeclaration : "];".toList.isSuffixOf read.line.toList = false := by
    rw [← Bool.not_eq_true, List.isSuffixOf_iff_suffix]
    have ends : [')', ';'] <:+ readEnd := by decide
    exact not_suffix (ends.trans (readEnd_suffix read)) (by decide)
  have assigns : read.line.toList.contains '=' = true := by
    rw [List.contains_iff_mem]
    unfold SizingRead.line
    simp [toString]
  rw [stringLine?_eq_none_iff]
  simp only [isStringLine, noDeclaration, assigns, Bool.not_true, Bool.and_false, Bool.or_self]

/-! ### Drafts -/

/-- **The lines about descriptors of a draft**, if none of its lines failed. -/
abbrev Selects : Draft String → List String → Prop :=
  Finds stringLine? id

theorem Selects.single {line : String} (isLine : isStringLine line = true) :
    Selects (.ofList [line]) [line] := by
  have found : stringLine? line = some line := if_pos isLine
  exact .ofList (List.filterMap_cons_some found)

/-- The lines about descriptors, once all lines are there. -/
theorem Selects.filter {draft : Draft String} {lines selected : List String}
    (selects : Selects draft selected) (spelled : draft = .ofList lines) :
    lines.filter isStringLine = selected := by
  rw [← List.filterMap_eq_filter, selects lines spelled, List.map_id]

/-! ### Conversions -/

/-- The line of a conversion that fills a descriptor. -/
def Conversion.fills : Conversion → List String
  | .record _ _ _ => []
  | .buffer index _ _ _ _ descriptor => (descriptor.map fun number => fillLine number index).toList

theorem clear_refuse {indent : String} (prints : Clear (indent ++ "sprintf(e,"))
    (leaves : stringLine? (indent ++ "goto err;\x7d") = none) (error : CallError) :
    ∀ line ∈ refuse indent error, stringLine? line = none := by
  unfold refuse
  simp only [List.forall_mem_cons]
  exact ⟨((prints.append _).append _).line, leaves, List.forall_mem_nil _⟩

/-- **The lines of a conversion** fill at most one descriptor. -/
theorem Conversion.selects_lines (conversion : Conversion) :
    Selects (.ofList conversion.lines) conversion.fills := by
  have refuses (error : CallError) : ∀ line ∈ refuse "    " error, stringLine? line = none :=
    clear_refuse (.fixed rfl (by decide)) (by decide) error
  cases conversion with
  | record index typeName mismatch =>
      have object : Clear "  PyObject *t = PyObject_Type(pyobj[" := .fixed rfl (by decide)
      have named : Clear "  int isforthon = strcmp(((PyTypeObject *)t)->tp_name,\"Forthon\") == 0;" :=
        .fixed rfl (by decide)
      have condition : Clear "  if (!isforthon || strcmp(((ForthonObject *)pyobj[" :=
        .fixed rfl (by decide)
      refine .nothing ?_
      unfold lines
      simp only [List.forall_mem_append, List.forall_mem_cons]
      exact ⟨⟨⟨by decide, by decide, ((object.append _).append _).line, named.line, by decide,
        (((condition.append _).append _).append _).line, List.forall_mem_nil _⟩, refuses mismatch⟩,
        by decide, List.forall_mem_nil _⟩
  | buffer index element convention mismatch failure descriptor =>
      have condition : Clear "  if (!Forthon_checksubroutineargtype(pyobj[" := .fixed rfl (by decide)
      have buffer : Clear "  ax[" := .fixed rfl (by decide)
      have missing : Clear "  if (ax[" := .fixed rfl (by decide)
      unfold lines
      dsimp only
      rw [Draft.ofList, List.map_append]
      refine .nothingThen ?_ ?_
      · simp only [List.forall_mem_append, List.forall_mem_cons]
        exact ⟨⟨⟨⟨by decide, ((((condition.append _).append _).append _).append _).line,
          List.forall_mem_nil _⟩, refuses mismatch⟩,
          ((((buffer.append _).append _).append _).append _).line, ((missing.append _).append _).line,
          List.forall_mem_nil _⟩, refuses failure⟩
      · cases descriptor with
        | none => exact .nothing (List.forall_mem_nil _)
        | some number => exact Selects.single (isStringLine_fillLine number index)

namespace Context

variable {ctx : Context} {routine : Routine}

/-- **Every text fills the descriptor of its number**, from its own buffer. -/
theorem fills_conversions (ctx : Context) (routine : Routine) :
    (ctx.conversions routine).flatMap Conversion.fills = routine.characterPlaces.mapIdx fillLine := by
  have each : (ctx.conversions routine).flatMap Conversion.fills =
      (routine.arguments.mapIdx fun index argument => (index, argument)).flatMap fun numbered =>
        if numbered.2.type.isCharacter then [fillLine (routine.stringsBefore numbered.1) numbered.1]
        else [] := by
    unfold conversions
    rw [List.mapIdx_eq_zipIdx_map, List.mapIdx_eq_zipIdx_map, List.flatMap_map, List.flatMap_map]
    refine List.flatMap_congr fun numbered _ => ?_
    dsimp only
    cases numbered.1.type with
    | character => rfl
    | _ => rfl
  have counted : routine.characterPlaces.map (fun place => fillLine (routine.stringsBefore place) place) =
      routine.characterPlaces.mapIdx fillLine := by
    refine List.ext_getElem? fun number => ?_
    rw [List.getElem?_map, List.getElem?_mapIdx]
    cases listed : routine.characterPlaces[number]? with
    | none => rfl
    | some place =>
        rw [Option.map_some, Option.map_some, Routine.stringsBefore_of_getElem? listed]
  rw [each, ← flatMap_filter, ← counted, Routine.characterPlaces, placesOf, List.map_map,
    List.map_eq_flatMap]
  rfl

/-! ### Shape checks -/

theorem clear_rankLines (check : ShapeCheck) (routine : Routine) :
    ∀ line ∈ check.rankLines routine, stringLine? line = none := by
  have number : Clear "  argno = " := .fixed rfl (by decide)
  have condition : Clear "  if (!(" := .fixed rfl (by decide)
  unfold ShapeCheck.rankLines
  simp only [List.forall_mem_append, List.forall_mem_cons]
  refine ⟨⟨((number.append _).append _).line, ?_, List.forall_mem_nil _⟩,
    clear_refuse (.fixed rfl (by decide)) (by decide) _⟩
  split
  · exact ((((condition.append _).append _).append _).append _).line
  · exact ((((condition.append _).append _).append _).append _).line

theorem clear_extentLines (check : ShapeCheck) (routine : Routine) (scope : Scope) (known : KnownExtent) :
    ∀ line ∈ check.extentLines routine scope known, stringLine? line = none := by
  have size : Clear "    _n = (int)" := .fixed rfl (by decide)
  have rankCondition : Clear "    if (!(PyArray_NDIM(ax[" := .fixed rfl (by decide)
  have condition : Clear "    if (!(_n == " := .fixed rfl (by decide)
  unfold ShapeCheck.extentLines
  simp only [List.forall_mem_append, List.forall_mem_cons]
  refine ⟨⟨((size.append _).append _).line, ?_, List.forall_mem_nil _⟩,
    clear_refuse (.fixed rfl (by decide)) (by decide) _⟩
  split
  · exact ((((rankCondition.append _).append _).append _).append _).line
  · exact ((condition.append _).append _).line

/-- The check of all extents, under its guard. -/
theorem clear_guardedLines (check : ShapeCheck) (routine : Routine) (scope : Scope)
    (extents : List KnownExtent) :
    ∀ line ∈ check.guardedLines routine scope extents, stringLine? line = none := by
  have guard : Clear "  if (" := .fixed rfl (by decide)
  unfold ShapeCheck.guardedLines
  split
  · exact List.forall_mem_nil _
  · simp only [List.forall_mem_append, List.forall_mem_cons]
    refine ⟨⟨⟨((guard.append _).append _).line, List.forall_mem_nil _⟩, fun line member => ?_⟩,
      by decide, List.forall_mem_nil _⟩
    obtain ⟨known, -, listed⟩ := List.mem_flatMap.mp member
    exact clear_extentLines check routine scope known line listed

/-- The checks of shapes have nothing to do with descriptors. -/
theorem selects_shapeCheckLines (ctx : Context) (routine : Routine) :
    Selects (ctx.shapeCheckLines routine) [] := by
  have checks : Selects ((ctx.shapeChecks routine).flatMap fun check => check.lines routine ctx.scope)
      ((ctx.shapeChecks routine).flatMap fun _ => []) := by
    refine .flatMap fun check _ => ?_
    intro lines spelled
    obtain ⟨extents, -, rfl⟩ := ShapeCheck.exists_extents spelled
    refine Finds.nothing (List.forall_mem_append.mpr ?_) _ rfl
    exact ⟨clear_rankLines check routine, clear_guardedLines check routine ctx.scope extents⟩
  unfold shapeCheckLines
  dsimp only
  split
  · exact .nothing (List.forall_mem_nil _)
  · have opening : ∀ line ∈ ["  \x7b", "  int _n;"] ++ (ctx.sizingReads routine).map SizingRead.line,
        stringLine? line = none :=
      List.forall_mem_append.mpr ⟨by decide, List.forall_mem_map.mpr fun read _ => stringLine?_read read⟩
    have closing : Selects (.ofList ["  \x7d"]) [] := .nothing (by decide)
    have all := ((Finds.nothing opening).append checks).append closing
    rwa [List.flatMap_eq_nil_iff.mpr fun _ _ => rfl] at all

/-! ### All lines but the call -/

/-- The declarations of a wrapper have one of descriptors, as many as there are texts. -/
theorem selects_openingLines (ctx : Context) (routine : Routine) :
    Selects (.ofList (ctx.openingLines routine))
      (linesIf (routine.stringCount != 0) [declarationLine routine.stringCount]) := by
  have objects : Clear "  PyObject * pyobj[" := .fixed rfl (by decide)
  have buffers : Clear "  PyArrayObject * ax[" := .fixed rfl (by decide)
  have clears : Clear "  for (i=0;i<" := .fixed rfl (by decide)
  have parses : Clear "  if (!PyArg_ParseTuple(args, \"" := .fixed rfl (by decide)
  have declared : Selects (.ofList (linesIf (routine.stringCount != 0)
      [s!"  FSTRING fstr[{routine.stringCount}];"]))
      (linesIf (routine.stringCount != 0) [declarationLine routine.stringCount]) := by
    cases routine.stringCount != 0 with
    | false => exact .nothing (List.forall_mem_nil _)
    | true => exact Selects.single (isStringLine_declarationLine routine.stringCount)
  unfold openingLines
  dsimp only
  rw [Draft.ofList, List.map_append, List.map_append, List.map_append, List.map_append, List.map_append]
  refine .thenNothing (.thenNothing (.thenNothing (.thenNothing (.nothingThen ?_ declared) ?_) ?_) ?_) ?_
  · simp only [List.forall_mem_append, List.forall_mem_cons]
    refine ⟨⟨forall_mem_linesIf ?_, by decide, by decide, List.forall_mem_nil _⟩,
      forall_mem_linesIf (by decide)⟩
    simp only [List.forall_mem_cons]
    exact ⟨((objects.append _).append _).line, ((buffers.append _).append _).line, by decide,
      List.forall_mem_nil _⟩
  · split
    · simp only [List.forall_mem_cons]
      exact ⟨by decide, stringLine?_result _, List.forall_mem_nil _⟩
    · exact List.forall_mem_nil _
  · exact forall_mem_linesIf (by decide)
  · exact forall_mem_linesIf (List.forall_mem_singleton.mpr ((clears.append _).append _).line)
  · exact List.forall_mem_singleton.mpr ((((parses.append _).append _).append _).append _).line

/-- **The lines before the recovery point** declare and fill the descriptors. -/
theorem selects_untilRecovery (ctx : Context) (routine : Routine) :
    Selects (ctx.untilRecovery routine)
      (linesIf (routine.stringCount != 0) [declarationLine routine.stringCount] ++
        routine.characterPlaces.mapIdx fillLine) := by
  have document : Clear "static char " := .fixed rfl (by decide)
  have function : Clear "static PyObject *\n" := .fixed rfl (by decide)
  have fills : Selects (.ofList ((ctx.conversions routine).flatMap Conversion.lines))
      (routine.characterPlaces.mapIdx fillLine) := by
    rw [← ctx.fills_conversions, Draft.ofList, List.map_flatMap]
    exact .flatMap fun conversion _ => conversion.selects_lines
  have opens : ∀ line ∈ ["static char " ++ ("doc_" ++ ctx.wrapperName routine.name) ++
      s!"[] = {quoted (routine.name ++ routine.signature ++ routine.comment)};",
      "static PyObject *\n" ++ ctx.wrapperName routine.name ++ "(PyObject *self, PyObject *args)", "\x7b"],
      stringLine? line = none := by
    simp only [List.forall_mem_cons]
    exact ⟨((document.append _).append _).line, ((function.append _).append _).line, by decide,
      List.forall_mem_nil _⟩
  have all := (((Finds.nothing opens).append (ctx.selects_openingLines routine)).append fills).append
    (ctx.selects_shapeCheckLines routine)
  rw [List.nil_append, List.append_nil] at all
  unfold untilRecovery
  dsimp only
  rwa [Draft.ofList, List.map_append, List.map_append]

theorem clear_recoveryLines (routine : Routine) :
    ∀ line ∈ recoveryLines routine, stringLine? line = none := by
  have reports : Clear "    sprintf(e,\"Argument %d in " := .fixed rfl (by decide)
  unfold recoveryLines
  simp only [List.forall_mem_cons]
  exact ⟨by decide, ((reports.append _).append _).line, by decide, List.forall_mem_nil _⟩

/-- What follows the call has nothing to do with descriptors. -/
theorem clear_afterCall (ctx : Context) (routine : Routine) :
    ∀ line ∈ ctx.closingLines routine ++ exitLines routine ++ ["\x7d"], stringLine? line = none := by
  have restores : Clear "  Forthon_restoresubroutineargs(" := .fixed rfl (by decide)
  have timer : Clear "  *(double *)" := .fixed rfl (by decide)
  have builds : Clear "  ret_val = Py_BuildValue(\"" := .fixed rfl (by decide)
  have loop : Clear "  for (i=0;i<" := .fixed rfl (by decide)
  unfold closingLines exitLines
  simp only [List.forall_mem_append, List.forall_mem_cons]
  refine ⟨⟨⟨⟨forall_mem_linesIf ?_, ?_⟩, ?_⟩, ⟨⟨by decide, by decide, by decide, List.forall_mem_nil _⟩,
    forall_mem_linesIf ?_⟩, by decide, List.forall_mem_nil _⟩, by decide, List.forall_mem_nil _⟩
  · exact List.forall_mem_singleton.mpr ((restores.append _).append _).line
  · split
    · simp only [List.forall_mem_cons]
      exact ⟨by decide, ((((timer.append _).append _).append _).append _).line, List.forall_mem_nil _⟩
    · exact List.forall_mem_nil _
  · split
    · exact List.forall_mem_singleton.mpr (by decide)
    · simp only [List.forall_mem_cons]
      exact ⟨((((builds.append _).append _).append _).append _).line, by decide, List.forall_mem_nil _⟩
  · simp only [List.forall_mem_cons]
    exact ⟨((loop.append _).append _).line, by decide, List.forall_mem_nil _⟩

/-- The lines of a wrapper around its call. -/
theorem lines_aroundCall (ctx : Context) (routine : Routine) :
    (ctx.wrapperItems routine).flatMap Item.lines =
      ctx.untilRecovery routine ++ Draft.ofList (recoveryLines routine) ++ Draft.ofList
        (ctx.callLine routine :: (ctx.closingLines routine ++ exitLines routine ++ ["\x7d"])) := by
  simp [wrapperItems, Item.lines, braced, wrapperBody, untilRecovery, Draft.ofList]

/-! ### Prototype, wrapper and call -/

/-- Nothing is passed exactly if there is no parameter. -/
theorem callArguments_eq_nil_iff (ctx : Context) (routine : Routine) :
    ctx.callArguments routine = [] ↔ ctx.parameters routine = [] := by
  rw [← List.length_eq_zero_iff, ← List.length_eq_zero_iff, (ctx.forall₂_agrees routine).length_eq]

/-- **The prototype of a routine**, with `void` in place of no parameters. -/
theorem text_routinePrototype (ctx : Context) (routine : Routine) :
    (ctx.routinePrototype routine).text =
      "extern " ++ (ctx.routinePrototype routine).result ++ ctx.routineSymbol routine ++ "(" ++
        (if ctx.callArguments routine = [] then "void"
          else join "," ((ctx.parameters routine).map Parameter.text)) ++ ");" := by
  have declared : join "," (ctx.routinePrototype routine).parameters =
      if ctx.callArguments routine = [] then "void"
        else join "," ((ctx.parameters routine).map Parameter.text) := by
    simp only [callArguments_eq_nil_iff, routinePrototype, List.isEmpty_iff]
    split
    · rfl
    · rfl
  rw [← declared]
  rfl

/-- A text among the parameters and among what is passed. -/
theorem passed_text {number place : Nat} (listed : routine.characterPlaces[number]? = some place) :
    (∃ declared, routine.arguments[place]? = some declared ∧ declared.type = .character ∧
      (ctx.parameters routine)[place]? = some (.descriptor (ctx.types.host .character) declared.name)) ∧
    (ctx.callArguments routine)[place]? = some (.descriptor number) := by
  obtain ⟨declared, found, character⟩ := Routine.mem_characterPlaces.mp (List.mem_of_getElem? listed)
  obtain ⟨inside, -⟩ := List.getElem?_eq_some_iff.mp found
  have isCharacter : declared.type = .character := by
    cases isType : declared.type with
    | character => rfl
    | _ =>
        rw [isType] at character
        cases character
  constructor
  · refine ⟨declared, found, isCharacter, ?_⟩
    rw [parameters, List.getElem?_append_left (by simpa using inside), List.getElem?_map, found,
      Option.map_some, parameter, isCharacter]
    rfl
  · rw [callArguments_eq, List.getElem?_append_left (by simpa using inside), List.getElem?_mapIdx, found,
      Option.map_some, isCharacter, Routine.stringsBefore_of_getElem? listed]
    rfl

/-- The length of a text among the parameters and among what is passed. -/
theorem passed_length {number place : Nat} (atEnd : ctx.options.stringLengthsAtEnd = true)
    (listed : routine.characterPlaces[number]? = some place) :
    (ctx.callArguments routine)[routine.arguments.length + number]? = some (.length place) ∧
      (ctx.parameters routine)[routine.arguments.length + number]? = some (.length number) := by
  have inside : number < routine.stringCount := by
    rw [← routine.length_characterPlaces]
    exact (List.getElem?_eq_some_iff.mp listed).1
  constructor
  · rw [callArguments_eq, List.getElem?_append_right (by simp), List.length_mapIdx, Nat.add_sub_cancel_left,
      if_pos atEnd, List.getElem?_map, listed]
    rfl
  · rw [parameters, List.getElem?_append_right (by simp), List.length_map, Nat.add_sub_cancel_left,
      if_pos atEnd, List.getElem?_map, List.getElem?_range inside]
    rfl

/-- **Prototype, descriptors and call agree.** The call passes something for each parameter of the
prototype, which has `void` if there is none: a descriptor for a text, and otherwise an address; behind
all arguments there may be lengths, as many as there are texts. The text of a number is passed in the
descriptor of that number, and its length is the size of its buffer. The wrapper declares as many
descriptors as there are texts and fills each in one line before the call, from the buffer of the text;
there is no other such line. -/
theorem strings_passed {text : String}
    (done : (layOutItems (ctx.wrapperItems routine)).finish = .ok text) :
    List.Forall₂ Agrees (ctx.parameters routine) (ctx.callArguments routine) ∧
    (ctx.routinePrototype routine).text =
      "extern " ++ (ctx.routinePrototype routine).result ++ ctx.routineSymbol routine ++ "(" ++
        (if ctx.callArguments routine = [] then "void"
          else join "," ((ctx.parameters routine).map Parameter.text)) ++ ");" ∧
    (ctx.parameters routine).length = routine.arguments.length +
      (if ctx.options.stringLengthsAtEnd then routine.stringCount else 0) ∧
    (∀ number place, routine.characterPlaces[number]? = some place →
      (∃ declared, routine.arguments[place]? = some declared ∧ declared.type = .character ∧
        (ctx.parameters routine)[place]? =
          some (.descriptor (ctx.types.host .character) declared.name)) ∧
      (ctx.callArguments routine)[place]? = some (.descriptor number) ∧
      (ctx.options.stringLengthsAtEnd = true →
        (ctx.callArguments routine)[routine.arguments.length + number]? = some (.length place) ∧
        (ctx.parameters routine)[routine.arguments.length + number]? = some (.length number))) ∧
    (∃ lead, ctx.callLine routine = lead ++ ctx.routineSymbol routine ++ "(" ++
      join "," ((ctx.callArguments routine).map CallArgument.text) ++ ");") ∧
    ∃ before after,
      (ctx.wrapperItems routine).flatMap Item.lines =
        Draft.ofList (before ++ ctx.callLine routine :: after) ∧
      text.toList = lineChars (before ++ ctx.callLine routine :: after) ∧
      before.filter isStringLine =
        (if routine.stringCount = 0 then [] else [declarationLine routine.stringCount]) ++
          routine.characterPlaces.mapIdx fillLine ∧
      after.filter isStringLine = [] := by
  refine ⟨ctx.forall₂_agrees routine, ctx.text_routinePrototype routine, ?_,
    fun number place listed => ?_, ⟨_, rfl⟩, ?_⟩
  · rw [parameters, List.length_append, List.length_map]
    split
    · rw [List.length_map, List.length_range]
    · rfl
  · obtain ⟨parameter, passed⟩ := ctx.passed_text listed
    exact ⟨parameter, passed, fun atEnd => passed_length atEnd listed⟩
  · obtain ⟨lines, written, chars⟩ := toList_finish_endLines done
    obtain ⟨before, rest, rfl, first, second⟩ :=
      List.append_eq_map_iff.mp ((ctx.lines_aroundCall routine).symm.trans written)
    obtain rfl := ofList_injective second.symm
    refine ⟨before, _, written, chars, ?_, ?_⟩
    · have selects := (ctx.selects_untilRecovery routine).thenNothing (clear_recoveryLines routine)
      rw [Selects.filter selects first.symm, linesIf]
      simp
    · exact Selects.filter (.nothing (ctx.clear_afterCall routine)) rfl

/-- Two texts with a number between them, and a record. -/
def stamp : Routine :=
  [{ name := "label", type := .character }, { name := "n", type := .integer },
    { name := "note", type := .character }, { name := "p", type := .record "particle" }].foldl Routine.arg
    (Routine.subroutine "stamp")

/-- Two descriptors around a number, and the two lengths at the end. -/
theorem strings_passed_stamp :
    ((moduleOf stamp).routinePrototype stamp).text =
      "extern void stamp_(FSTRING label,long *n,FSTRING note,char *p,int sl0,int sl1);" ∧
    (moduleOf stamp).callLine stamp =
      "  stamp_(fstr[0],(long *)(PyArray_BYTES(ax[1])),fstr[1],((ForthonObject *)(pyobj[3]))->fobj," ++
        "PyArray_SIZE(ax[0]),PyArray_SIZE(ax[2]));" ∧
    ((moduleOf stamp).callArguments stamp)[5]? = some (.length 2) ∧
    ∃ before after,
      ((moduleOf stamp).wrapperItems stamp).flatMap Item.lines =
        Draft.ofList (before ++ (moduleOf stamp).callLine stamp :: after) ∧
      before.filter isStringLine =
        ["  FSTRING fstr[2];",
         "  FSETSTRING(fstr[0],PyArray_BYTES(ax[0]),PyArray_SIZE(ax[0]));",
         "  FSETSTRING(fstr[1],PyArray_BYTES(ax[2]),PyArray_SIZE(ax[2]));"] := by
  have emitted : (layOutItems ((moduleOf stamp).wrapperItems stamp)).finish.toOption.isSome := by
    decide +kernel
  obtain ⟨text, done⟩ := exists_ok_of_isSome emitted
  obtain ⟨-, -, -, passed, -, before, after, written, -, selected, -⟩ := strings_passed done
  have note : stamp.characterPlaces[1]? = some 2 := by decide
  refine ⟨by decide +kernel, by decide +kernel, ((passed 1 2 note).2.2 rfl).1, before, after, written, ?_⟩
  exact selected

end Context

end ForeignGlue
