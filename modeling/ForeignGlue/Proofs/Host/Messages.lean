/-
**The messages of a wrapper.**

Before it sets its recovery point, a wrapper refuses an argument by printing a fixed message and leaving.
The model of a call refuses it with an error. Both go by their own rules: the wrapper writes messages for
the places of arguments in the list, the model blames the positions that arguments hold, and each decides
for itself which arguments and dimensions are checked. The messages that stand in a wrapper are those of
`Routine.reports`, in order, and every error of the model is one of these.

* `printed?`: the message that a line prints;
* `signal?`, `Apart`: what a line has to do with refusals, and starts of lines that have nothing to do;
* `Prints`: the errors that a draft prints the messages of;
* `Conversion.prints_lines`, `prints_check`: the lines that convert an argument and that check its shape;
* `Context.prints_untilRecovery`: all lines before the recovery point;
* `Argument.convert_fault`, `Argument.checkShape_fault`: the faults that the model finds;
* `Context.messages_line_up`: wrapper and model side by side.
-/

import ForeignGlue.Proofs.Host.ShapeChecks

namespace ForeignGlue

open ForeignGlue.CSource ForeignGlue.Source ForeignGlue.Text

/-! ### What is reported -/

/-- The faults of an argument that cannot be converted. Of a record only the type is looked at. -/
def Argument.conversionFaults (argument : Argument) : List CallFault :=
  .wrongType :: if argument.type.isRecord then [] else [.conversion]

/-- The faults of an argument of the wrong shape. Dimensions that are left open are not looked at. -/
def Argument.shapeFaults (argument : Argument) : List CallFault :=
  .wrongRank :: argument.knownBounds.map fun known => .wrongDimension (known.1 + 1)

namespace Routine

/-- The errors that the conversion of all arguments can end with, in order. -/
def conversionReports (routine : Routine) : List CallError :=
  (routine.arguments.mapIdx fun index argument => (index, argument)).flatMap fun (index, argument) =>
    argument.conversionFaults.map (routine.refusal (index + 1))

/-- The errors that the check of all shapes can end with, in order. -/
def shapeReports (routine : Routine) : List CallError :=
  routine.checkedArguments.flatMap fun (index, argument) =>
    argument.shapeFaults.map (routine.refusal (index + 1))

/-- **The errors of a routine's arguments**, in the order in which they are looked for. -/
def reports (routine : Routine) : List CallError :=
  routine.conversionReports ++ routine.shapeReports

end Routine

/-- The message of an error as a string literal spells it. -/
def CallError.spelled (error : CallError) : String :=
  escape error.message

/-! ### Lines that print messages -/

/-- How a line starts that prints a message. -/
def printStart : List Char :=
  "sprintf(e,\"".toList

/-- **The message that a line prints**: what stands between the quotes of `sprintf(e,"...");`. -/
def printed? (line : String) : Option String :=
  let statement := line.toList.dropWhile (· == ' ')
  if printStart.isPrefixOf statement then
    let literal := statement.drop printStart.length
    (literalRest? literal).bind fun length =>
      if literal.drop length = [')', ';'] then some (String.ofList (literal.take (length - 1)))
      else none
  else none

/-- The line that sets the recovery point. -/
def recoveryLine : String :=
  "  if (setjmp(stackenvironment)) \x7b"

/-- **The messages before the recovery point**, in order. -/
def earlyMessages (lines : List String) : List String :=
  (lines.takeWhile (· ≠ recoveryLine)).filterMap printed?

example : earlyMessages ["  argno = 1;", "    sprintf(e,\"a \\\"b\\\"\");", "    goto err;\x7d",
    recoveryLine, "    sprintf(e,\"c\");"] = ["a \\\"b\\\""] := by
  decide

/-- What a line of a wrapper has to do with refusals. -/
inductive Signal where
  | message (text : String)
  | recovery
  deriving DecidableEq

/-- **What a line has to do with refusals**: it prints a message, or sets the recovery point. -/
def signal? (line : String) : Option Signal :=
  if line = recoveryLine then some .recovery else (printed? line).map .message

/-- A line that prints nothing and does not set the recovery point. -/
theorem signal?_eq_none_iff {line : String} :
    signal? line = none ↔ printed? line = none ∧ line ≠ recoveryLine := by
  unfold signal?
  split
  · next isRecovery => simp [isRecovery]
  · next other => simp [other]

/-- A start of lines that have nothing to do with refusals, however they go on. -/
abbrev Apart : String → Prop :=
  Overlooks signal?

/-- Whether a start shows by itself that nothing is printed. -/
def startsApart (start : String) : Bool :=
  let statement := start.toList.dropWhile (· == ' ')
  !statement.isPrefixOf printStart && !printStart.isPrefixOf statement &&
    !start.toList.isPrefixOf recoveryLine.toList

/-- A start that differs from what prints and from the recovery line. -/
theorem Apart.fixed {start : String} (shown : startsApart start = true) : Apart start := by
  intro rest
  rw [signal?_eq_none_iff]
  simp only [startsApart, Bool.and_eq_true, Bool.not_eq_true', ← Bool.not_eq_true,
    List.isPrefixOf_iff_prefix] at shown
  obtain ⟨⟨notInside, notAround⟩, notRecovery⟩ := shown
  constructor
  · have written : (start.toList.dropWhile (· == ' ')).isEmpty = false := by
      rw [← Bool.not_eq_true, List.isEmpty_iff]
      intro empty
      rw [empty] at notInside
      exact notInside List.nil_prefix
    have other : printStart.isPrefixOf ((start ++ rest).toList.dropWhile (· == ' ')) = false := by
      rw [String.toList_append, List.dropWhile_append, written, if_neg Bool.false_ne_true,
        ← Bool.not_eq_true, List.isPrefixOf_iff_prefix]
      intro begins
      exact (List.prefix_or_prefix_of_prefix begins (List.prefix_append _ _)).elim notAround notInside
    rw [printed?, other]
    rfl
  · intro same
    refine notRecovery ?_
    rw [← same, String.toList_append]
    exact List.prefix_append _ _

theorem silent_fixed {line : String} (shown : startsApart line = true) : signal? line = none :=
  (Apart.fixed shown).line

/-- The quote that ends a literal. -/
theorem exists_of_literalRest? {cs : List Char} {length : Nat} (found : literalRest? cs = some length) :
    ∃ spelled rest, cs = spelled ++ '"' :: rest ∧ length = spelled.length + 1 := by
  fun_induction literalRest? cs generalizing length with
  | case1 => cases found
  | case2 rest =>
      obtain rfl := Option.some.inj found
      exact ⟨[], rest, rfl, rfl⟩
  | case3 => cases found
  | case4 => cases found
  | case5 c cs _ ih =>
      obtain ⟨inner, isInner, rfl⟩ := Option.map_eq_some_iff.mp found
      obtain ⟨spelled, rest, rfl, rfl⟩ := ih isInner
      exact ⟨'\\' :: c :: spelled, rest, rfl, rfl⟩
  | case6 c cs _ _ _ _ ih =>
      obtain ⟨inner, isInner, rfl⟩ := Option.map_eq_some_iff.mp found
      obtain ⟨spelled, rest, rfl, rfl⟩ := ih isInner
      exact ⟨c :: spelled, rest, rfl, rfl⟩

/-- How a line ends that prints. -/
theorem suffix_of_printed? {line message : String} (prints : printed? line = some message) :
    ['"', ')', ';'] <:+ line.toList := by
  unfold printed? at prints
  dsimp only at prints
  split at prints
  · obtain ⟨length, found, prints⟩ := Option.bind_eq_some_iff.mp prints
    split at prints
    · next closed =>
        obtain ⟨spelled, rest, split, rfl⟩ := exists_of_literalRest? found
        rw [split, List.drop_append, List.drop_of_length_le (Nat.le_succ _), Nat.add_sub_cancel_left]
          at closed
        have ends : ['"', ')', ';'] <:+ spelled ++ '"' :: rest := by
          rw [List.nil_append, List.drop_succ_cons, List.drop_zero] at closed
          rw [closed]
          exact List.suffix_append _ _
        rw [← split] at ends
        exact ends.trans ((List.drop_suffix _ _).trans (List.dropWhile_suffix _))
    · cases prints
  · cases prints

/-- A line that ends otherwise prints nothing, whatever it starts with. -/
theorem silent_of_ending {start ending : String} (long : 3 ≤ ending.toList.length)
    (noPrint : ¬ ['"', ')', ';'] <:+ ending.toList)
    (noRecovery : ¬ ending.toList <:+ recoveryLine.toList) :
    signal? (start ++ ending) = none := by
  rw [signal?_eq_none_iff]
  constructor
  · cases prints : printed? (start ++ ending) with
    | none => rfl
    | some message =>
        have ends := suffix_of_printed? prints
        rw [String.toList_append] at ends
        exact absurd (List.suffix_of_suffix_length_le ends (List.suffix_append _ _) long) noPrint
  · intro same
    refine noRecovery ?_
    rw [← same, String.toList_append]
    exact List.suffix_append _ _

/-- The line that refuses an argument. -/
theorem printed?_refusal {indent : String} (blank : indent.toList.all (· == ' ') = true)
    (error : CallError) :
    printed? s!"{indent}sprintf(e,{quoted error.message});" = some error.spelled := by
  have statement : (s!"{indent}sprintf(e,{quoted error.message});").toList =
      indent.toList ++ (printStart ++ (error.spelled.toList ++ '"' :: [')', ';'])) := by
    have opens : printStart = "sprintf(e,".toList ++ "\"".toList := rfl
    have written : s!"{indent}sprintf(e,{quoted error.message});" =
        indent ++ "sprintf(e," ++ ("\"" ++ error.spelled ++ "\"") ++ ");" := rfl
    rw [opens, written]
    simp only [String.toList_append, List.append_assoc]
    rfl
  have dropped : (indent.toList ++ (printStart ++ (error.spelled.toList ++ '"' :: [')', ';']))).dropWhile
      (· == ' ') = printStart ++ (error.spelled.toList ++ '"' :: [')', ';']) := by
    rw [List.dropWhile_append, List.dropWhile_eq_nil_iff.mpr (List.all_eq_true.mp blank)]
    rfl
  have begins : printStart.isPrefixOf (printStart ++ (error.spelled.toList ++ '"' :: [')', ';'])) = true :=
    List.isPrefixOf_iff_prefix.mpr (List.prefix_append _ _)
  have literal := literalRest?_of_isLiteralBody (isLiteralBody_escape error.message) [')', ';']
  unfold printed?
  dsimp only
  rw [statement, dropped, begins, if_pos rfl, List.drop_left]
  unfold CallError.spelled
  rw [literal, Option.bind_some]
  simp

/-! ### Drafts that print messages -/

/-- **The errors whose messages the lines of a draft print**, if none of them failed. No line sets the
recovery point. -/
abbrev Prints : Draft String → List CallError → Prop :=
  Finds signal? (Signal.message ∘ CallError.spelled)

/-- **A refusal** prints the message of its error. -/
theorem Prints.refuse {indent : String} (blank : indent.toList.all (· == ' ') = true)
    (leaves : Apart (indent ++ "goto")) (error : CallError) :
    Prints (.ofList (refuse indent error)) [error] := by
  have message := printed?_refusal blank error
  have printing : signal? s!"{indent}sprintf(e,{quoted error.message});" =
      some (.message error.spelled) := by
    have other : s!"{indent}sprintf(e,{quoted error.message});" ≠ recoveryLine := by
      intro same
      have nothing : printed? recoveryLine = none := by decide
      rw [same, nothing] at message
      cases message
    rw [signal?, if_neg other, message, Option.map_some]
  have jump : signal? (indent ++ "goto err;\x7d") = none := by
    have line : indent ++ "goto err;\x7d" = indent ++ "goto" ++ " err;\x7d" := by
      rw [String.append_assoc]
      rfl
    rw [line]
    exact leaves _
  refine .ofList ?_
  rw [ForeignGlue.refuse, List.filterMap_cons_some printing, List.filterMap_cons_none jump]
  rfl

/-- The messages of a draft, and that it does not set the recovery point. -/
theorem Prints.messages {draft : Draft String} {lines : List String} {errors : List CallError}
    (prints : Prints draft errors) (spelled : draft = .ofList lines) :
    recoveryLine ∉ lines ∧ lines.filterMap printed? = errors.map CallError.spelled := by
  have signals := prints lines spelled
  have early : recoveryLine ∉ lines := by
    intro listed
    have sets : signal? recoveryLine = some .recovery := if_pos rfl
    have signalled := List.mem_filterMap.mpr ⟨_, listed, sets⟩
    rw [signals] at signalled
    obtain ⟨error, -, isMessage⟩ := List.mem_map.mp signalled
    cases isMessage
  have text : lines.filterMap signal? = (lines.filterMap printed?).map .message := by
    rw [List.map_filterMap]
    refine List.filterMap_congr fun line listed => ?_
    have other : line ≠ recoveryLine := fun same => early (same ▸ listed)
    exact if_neg other
  rw [text, ← List.map_map] at signals
  exact ⟨early, List.map_injective_iff.mpr (fun _ _ => Signal.message.inj) signals⟩

/-! ### Conversions -/

/-- The errors of a conversion, in the order in which they are looked for. -/
def Conversion.errors : Conversion → List CallError
  | .record _ _ mismatch => [mismatch]
  | .buffer _ _ _ mismatch failure _ => [mismatch, failure]

/-- **The lines of a conversion** print its errors. -/
theorem Conversion.prints_lines (conversion : Conversion) :
    Prints (.ofList conversion.lines) conversion.errors := by
  have refuses (error : CallError) : Prints (.ofList (refuse "    " error)) [error] :=
    Prints.refuse (by decide) (.fixed rfl) error
  have counts : signal? "  argno++;" = none := silent_fixed rfl
  cases conversion with
  | record index typeName mismatch =>
      have object : Apart "  PyObject *t = PyObject_Type(pyobj[" := .fixed rfl
      have condition : Apart "  if (!isforthon || strcmp(((ForthonObject *)pyobj[" := .fixed rfl
      rw [lines, Draft.ofList, List.map_append, List.map_append]
      refine (Finds.nothingThen ?_ (refuses mismatch)).thenNothing ?_
      · simp only [List.forall_mem_cons]
        exact ⟨counts, silent_fixed rfl, ((object.append _).append _).line, silent_fixed rfl,
          silent_fixed rfl,
          (((condition.append _).append _).append _).line, List.forall_mem_nil _⟩
      · exact List.forall_mem_singleton.mpr (silent_fixed rfl)
  | buffer index element convention mismatch failure descriptor =>
      have mistyped : Apart "  if (!Forthon_checksubroutineargtype(pyobj[" := .fixed rfl
      have buffer : Apart "  ax[" := .fixed rfl
      have missing : Apart "  if (ax[" := .fixed rfl
      have string : Apart "  FSETSTRING(fstr[" := .fixed rfl
      unfold lines
      dsimp only
      rw [Draft.ofList, List.map_append, List.map_append, List.map_append, List.map_append]
      refine (Finds.append (Finds.thenNothing (.nothingThen ?_ (refuses mismatch)) ?_)
        (refuses failure)).thenNothing ?_
      · simp only [List.forall_mem_cons]
        exact ⟨counts, ((((mistyped.append _).append _).append _).append _).line,
          List.forall_mem_nil _⟩
      · simp only [List.forall_mem_cons]
        exact ⟨((((buffer.append _).append _).append _).append _).line,
          ((missing.append _).append _).line, List.forall_mem_nil _⟩
      · cases descriptor with
        | none => exact List.forall_mem_nil _
        | some number =>
            exact List.forall_mem_singleton.mpr
              ((((((string.append _).append _).append _).append _).append _).append _).line

/-- The errors of a routine's conversions. -/
theorem Context.errors_conversions (ctx : Context) (routine : Routine) :
    (ctx.conversions routine).flatMap Conversion.errors = routine.conversionReports := by
  unfold conversions Routine.conversionReports
  rw [List.mapIdx_eq_zipIdx_map, List.mapIdx_eq_zipIdx_map, List.flatMap_map, List.flatMap_map]
  refine List.flatMap_congr fun numbered _ => ?_
  dsimp only
  unfold Argument.conversionFaults
  cases numbered.1.type with
  | record name => rfl
  | _ => rfl

/-! ### Shape checks -/

namespace ShapeCheck

variable {routine : Routine} (check : ShapeCheck)

/-- The check of a rank has one message. -/
theorem prints_rankLines :
    Prints (.ofList (check.rankLines routine)) [routine.refusal (check.index + 1) .wrongRank] := by
  have number : Apart "  argno = " := .fixed rfl
  have condition : Apart "  if (!(" := .fixed rfl
  unfold rankLines
  dsimp only
  rw [Draft.ofList, List.map_append]
  refine .nothingThen ?_ (Prints.refuse (by decide) (.fixed rfl) _)
  simp only [List.forall_mem_cons]
  refine ⟨((number.append _).append _).line, ?_, List.forall_mem_nil _⟩
  split
  · exact ((((condition.append _).append _).append _).append _).line
  · exact ((((condition.append _).append _).append _).append _).line

/-- The check of an extent has one message. -/
theorem prints_extentLines (scope : Scope) (known : KnownExtent) :
    Prints (.ofList (check.extentLines routine scope known))
      [routine.refusal (check.index + 1) (.wrongDimension (known.dimension + 1))] := by
  have size : Apart "    _n = (int)" := .fixed rfl
  have rankCondition : Apart "    if (!(PyArray_NDIM(ax[" := .fixed rfl
  have condition : Apart "    if (!(_n == " := .fixed rfl
  unfold extentLines
  dsimp only
  rw [Draft.ofList, List.map_append]
  refine .nothingThen ?_ (Prints.refuse (by decide) (.fixed rfl) _)
  simp only [List.forall_mem_cons]
  refine ⟨((size.append _).append _).line, ?_, List.forall_mem_nil _⟩
  split
  · exact ((((rankCondition.append _).append _).append _).append _).line
  · exact ((condition.append _).append _).line

/-- The check of all extents has a message for each. -/
theorem prints_guardedLines (scope : Scope) (extents : List KnownExtent) :
    Prints (.ofList (check.guardedLines routine scope extents))
      (extents.map fun known =>
        routine.refusal (check.index + 1) (.wrongDimension (known.dimension + 1))) := by
  have condition : Apart ("  if (" ++ scope.nonzeroGuard (extents.map KnownExtent.extent)) := by
    have start : Apart ("  if (" ++ "1") := .fixed rfl
    rw [Scope.nonzeroGuard, ← String.append_assoc, ← String.append_assoc]
    exact (start.append _).append _
  have each : Prints (extents.flatMap fun known => Draft.ofList (check.extentLines routine scope known))
      (extents.map fun known =>
        routine.refusal (check.index + 1) (.wrongDimension (known.dimension + 1))) := by
    rw [List.map_eq_flatMap]
    exact .flatMap fun known _ => check.prints_extentLines scope known
  unfold guardedLines
  split
  · next none =>
      rw [List.isEmpty_iff.mp none]
      exact .nothing (List.forall_mem_nil _)
  · rw [Draft.ofList, List.map_append, List.map_append, List.map_flatMap]
    refine (Finds.nothingThen ?_ each).thenNothing ?_
    · exact List.forall_mem_singleton.mpr (condition.append _).line
    · exact List.forall_mem_singleton.mpr (silent_fixed rfl)

end ShapeCheck

namespace Context

variable {ctx : Context} {routine : Routine}

/-- The dimensions whose extents are known are those that are not left open. -/
theorem dimensions_of_knownExtents {argument : Argument} {extents : List KnownExtent}
    (done : ctx.knownExtents routine argument = .ok extents) :
    extents.map KnownExtent.dimension = argument.knownBounds.map Prod.fst := by
  have each := collect_eq_ok_iff.mp done
  rw [← List.forall₂_eq_eq_eq, List.forall₂_map_left_iff, List.forall₂_map_right_iff] at each
  refine List.forall₂_eq_eq_eq ▸ List.forall₂_map_left_iff.mpr (List.forall₂_map_right_iff.mpr ?_)
  refine each.flip.imp fun extent known written => ?_
  obtain ⟨inner, -, same⟩ := bind_eq_ok_iff.mp written
  obtain rfl := Except.ok.inj same
  rfl

/-- **The lines that check an argument** print the errors of its shape. -/
theorem prints_check (index : Nat) (argument : Argument) :
    Prints (ShapeCheck.lines ⟨index, argument.rank, ctx.knownExtents routine argument⟩ routine ctx.scope)
      (argument.shapeFaults.map (routine.refusal (index + 1))) := by
  rw [Argument.shapeFaults, List.map_cons, List.map_map]
  refine .append (ShapeCheck.prints_rankLines _) ?_
  dsimp only
  cases done : ctx.knownExtents routine argument with
  | error error => exact .failed
  | ok extents =>
      have errors : (extents.map fun known =>
          routine.refusal (index + 1) (.wrongDimension (known.dimension + 1))) =
          argument.knownBounds.map
            (routine.refusal (index + 1) ∘ fun known => .wrongDimension (known.1 + 1)) := by
        have same := congrArg (List.map fun dimension =>
          routine.refusal (index + 1) (.wrongDimension (dimension + 1))) (dimensions_of_knownExtents done)
        rw [List.map_map, List.map_map] at same
        exact same
      rw [← errors]
      exact ShapeCheck.prints_guardedLines _ ctx.scope extents

theorem silent_sizingRead (read : SizingRead) : signal? read.line = none :=
  silent_of_ending (by decide) (by decide) (by decide)

/-- **The shape checks of a wrapper** print the errors of all shapes. -/
theorem prints_shapeCheckLines (ctx : Context) (routine : Routine) :
    Prints (ctx.shapeCheckLines routine) routine.shapeReports := by
  have listed : ctx.shapeChecks routine = routine.checkedArguments.map fun (index, argument) =>
    ⟨index, argument.rank, ctx.knownExtents routine argument⟩ := rfl
  unfold shapeCheckLines Routine.shapeReports
  dsimp only
  rw [listed, List.isEmpty_map, List.flatMap_map]
  split
  · next none =>
      rw [List.isEmpty_iff.mp none]
      exact .nothing (List.forall_mem_nil _)
  · refine (Finds.nothingThen ?_ (.flatMap fun checked _ => prints_check checked.1 checked.2)).thenNothing
      (List.forall_mem_singleton.mpr (silent_fixed rfl))
    simp only [List.forall_mem_append, List.forall_mem_cons, List.forall_mem_map]
    exact ⟨⟨silent_fixed rfl, silent_fixed rfl, List.forall_mem_nil _⟩,
      fun read _ => silent_sizingRead read⟩

/-! ### All lines before the recovery point -/

/-- The declarations of a wrapper have nothing to do with refusals. The type of a result can be spelled
in any way, and the end of its line tells. -/
theorem silent_openingLines (ctx : Context) (routine : Routine) :
    ∀ line ∈ ctx.openingLines routine, signal? line = none := by
  have objects : Apart "  PyObject * pyobj[" := .fixed rfl
  have buffers : Apart "  PyArrayObject * ax[" := .fixed rfl
  have strings : Apart "  FSTRING fstr[" := .fixed rfl
  have clears : Apart "  for (i=0;i<" := .fixed rfl
  have parses : Apart "  if (!PyArg_ParseTuple(args, \"" := .fixed rfl
  simp only [openingLines, List.forall_mem_append, List.forall_mem_cons]
  refine ⟨⟨⟨⟨⟨⟨⟨forall_mem_linesIf ?_, silent_fixed rfl, silent_fixed rfl, List.forall_mem_nil _⟩,
    forall_mem_linesIf ?_⟩, forall_mem_linesIf ?_⟩, ?_⟩, forall_mem_linesIf ?_⟩, forall_mem_linesIf ?_⟩,
    ?_, List.forall_mem_nil _⟩
  · simp only [List.forall_mem_cons]
    exact ⟨((objects.append _).append _).line, ((buffers.append _).append _).line, silent_fixed rfl,
      List.forall_mem_nil _⟩
  · exact List.forall_mem_singleton.mpr (silent_fixed rfl)
  · exact List.forall_mem_singleton.mpr ((strings.append _).append _).line
  · split
    · simp only [List.forall_mem_cons]
      exact ⟨silent_fixed rfl, silent_of_ending (by decide) (by decide) (by decide), List.forall_mem_nil _⟩
    · exact List.forall_mem_nil _
  · exact List.forall_mem_singleton.mpr (silent_fixed rfl)
  · exact List.forall_mem_singleton.mpr ((clears.append _).append _).line
  · exact ((((parses.append _).append _).append _).append _).line

/-- The lines of a wrapper before its recovery point. -/
def untilRecovery (ctx : Context) (routine : Routine) : Draft String :=
  let name := ctx.wrapperName routine.name
  .ofList (["static char " ++ ("doc_" ++ name) ++
      s!"[] = {quoted (routine.name ++ routine.signature ++ routine.comment)};",
    "static PyObject *\n" ++ name ++ "(PyObject *self, PyObject *args)", "\x7b"] ++
      ctx.openingLines routine ++ (ctx.conversions routine).flatMap Conversion.lines) ++
    ctx.shapeCheckLines routine

/-- **The lines before the recovery point** print all errors of a routine's arguments. -/
theorem prints_untilRecovery (ctx : Context) (routine : Routine) :
    Prints (ctx.untilRecovery routine) routine.reports := by
  have document : Apart "static char " := .fixed rfl
  have function : Apart "static PyObject *\n" := .fixed rfl
  have converts : Prints (.ofList ((ctx.conversions routine).flatMap Conversion.lines))
      routine.conversionReports := by
    rw [← ctx.errors_conversions, Draft.ofList, List.map_flatMap]
    exact .flatMap fun conversion _ => conversion.prints_lines
  unfold untilRecovery
  dsimp only
  rw [Draft.ofList, List.map_append]
  refine .append (.nothingThen ?_ converts) (ctx.prints_shapeCheckLines routine)
  refine List.forall_mem_append.mpr ⟨?_, ctx.silent_openingLines routine⟩
  simp only [List.forall_mem_cons]
  exact ⟨((document.append _).append _).line, ((function.append _).append _).line,
    silent_fixed rfl, List.forall_mem_nil _⟩

/-- The lines of a wrapper around its recovery point. -/
theorem lines_wrapperItems (ctx : Context) (routine : Routine) :
    ∃ after, (ctx.wrapperItems routine).flatMap Item.lines =
      ctx.untilRecovery routine ++ Draft.ofList (recoveryLine :: after) := by
  refine ⟨(recoveryLines routine).tail ++ [ctx.callLine routine] ++ ctx.closingLines routine ++
    exitLines routine ++ ["\x7d"], ?_⟩
  simp [wrapperItems, Item.lines, braced, wrapperBody, untilRecovery, Draft.ofList, recoveryLines,
    recoveryLine]

end Context

/-! ### The errors of the model -/

/-- Whatever a conversion fails with is reported. -/
theorem Argument.convert_fault {declared : Argument} {value : HostValue} {fault : CallFault}
    (failed : declared.convert value = .error fault) : fault ∈ declared.conversionFaults := by
  unfold convert at failed
  split at failed
  · split at failed
    · cases failed
    · obtain rfl := Except.error.inj failed
      exact List.mem_cons_self
  · obtain rfl := Except.error.inj failed
    exact List.mem_cons_self
  · next plain =>
      obtain rfl := Except.error.inj failed
      have notRecord : declared.type.isRecord = false := by
        cases isType : declared.type with
        | record name => exact absurd isType (plain name)
        | _ => rfl
      rw [conversionFaults, notRecord]
      decide
  · split at failed
    · obtain rfl := Except.error.inj failed
      exact List.mem_cons_self
    · split at failed
      · cases failed
      · obtain rfl := Except.error.inj failed
        exact List.mem_cons_self

/-- A shape is refused as such, or because a bound has no value. -/
theorem Argument.checkShape_fault {declared : Argument} {lookup : String → Option Int} {buffer : Buffer}
    {fault : CallFault} (failed : declared.checkShape lookup buffer = .error (.call fault)) :
    fault = .conversion ∨ fault ∈ declared.shapeFaults := by
  by_cases valued : fault = .conversion
  · exact .inl valued
  · refine .inr ?_
    rcases checkShape_cases failed (fun same => valued (ShapeFault.call.inj (Except.error.inj same)))
      (fun same => by cases same) with ⟨-, same⟩ | ⟨-, -, -, same⟩
    · obtain rfl := ShapeFault.call.inj (Except.error.inj same)
      exact List.mem_cons_self
    · split at same
      · cases same
      · split at same
        · cases same
        · next known found =>
            obtain rfl := ShapeFault.call.inj (Except.error.inj same)
            exact List.mem_cons_of_mem _ (List.mem_map.mpr ⟨known, List.mem_of_find?_eq_some found, rfl⟩)

/-- Only arguments that are no records have shapes to check. -/
theorem Argument.conversion_mem_of_checked {declared : Argument} (checked : declared.isChecked) :
    CallFault.conversion ∈ declared.conversionFaults := by
  have notRecord : declared.type.isRecord = false := by
    simp only [isChecked, Bool.and_eq_true, Bool.not_eq_true'] at checked
    exact checked.1.2
  rw [conversionFaults, notRecord]
  decide

namespace Routine

variable {routine : Routine}

/-- Places are positions. -/
theorem mem_numbered (positioned : routine.Positioned) {declared : Argument}
    (taken : declared ∈ routine.arguments) :
    (declared.position, declared) ∈ routine.arguments.mapIdx fun index argument => (index, argument) := by
  obtain ⟨index, inside, rfl⟩ := List.getElem_of_mem taken
  rw [position_of_getElem? positioned (List.getElem?_eq_getElem inside)]
  exact List.mem_mapIdx.mpr ⟨index, inside, rfl⟩

theorem mem_conversionReports (positioned : routine.Positioned) {declared : Argument} {fault : CallFault}
    (taken : declared ∈ routine.arguments) (possible : fault ∈ declared.conversionFaults) :
    routine.refusal (declared.position + 1) fault ∈ routine.conversionReports :=
  List.mem_flatMap.mpr ⟨_, mem_numbered positioned taken, List.mem_map_of_mem possible⟩

theorem mem_shapeReports (positioned : routine.Positioned) {declared : Argument} {fault : CallFault}
    (taken : declared ∈ routine.arguments) (checked : declared.isChecked)
    (possible : fault ∈ declared.shapeFaults) :
    routine.refusal (declared.position + 1) fault ∈ routine.shapeReports :=
  List.mem_flatMap.mpr ⟨_, List.mem_filter.mpr ⟨mem_numbered positioned taken, checked⟩,
    List.mem_map_of_mem possible⟩

/-- The first round fails with a fault of an argument that it converts. -/
theorem convertAll_fault {arguments : List Argument} {values : List HostValue} {error : CallError}
    (failed : routine.convertAll arguments values = .error error) :
    ∃ declared ∈ arguments, ∃ fault ∈ declared.conversionFaults,
      error = routine.refusal (declared.position + 1) fault := by
  fun_induction convertAll routine arguments values with
  | case1 declared arguments value values fault refused =>
      exact ⟨declared, List.mem_cons_self, fault, Argument.convert_fault refused,
        (Except.error.inj failed).symm⟩
  | case2 declared arguments value values buffer _ ih =>
      obtain ⟨blamed, later, rest⟩ := ih (map_eq_error_iff.mp failed)
      exact ⟨blamed, List.mem_cons_of_mem _ later, rest⟩
  | case3 => cases failed

/-- The second round fails with a fault of an argument whose shape it checks. -/
theorem checkShapes_fault {lookup : String → Option Int} {current : Nat}
    {pairs : List (Argument × Buffer)} {error : CallError}
    (failed : routine.checkShapes lookup current pairs = .error (.refused error)) :
    ∃ pair ∈ pairs, pair.1.isChecked ∧ ∃ fault, (fault = .conversion ∨ fault ∈ pair.1.shapeFaults) ∧
      error = routine.refusal (pair.1.position + 1) fault := by
  fun_induction checkShapes routine lookup current pairs with
  | case1 => cases failed
  | case2 _ declared buffer pairs checked shapeFault refused =>
      cases shapeFault with
      | unreadable => cases failed
      | call fault =>
          exact ⟨(declared, buffer), List.mem_cons_self, checked, fault,
            Argument.checkShape_fault refused, (CallFailure.refused.inj (Except.error.inj failed)).symm⟩
  | case3 _ declared buffer pairs checked _ ih =>
      obtain ⟨blamed, later, rest⟩ := ih failed
      exact ⟨blamed, List.mem_cons_of_mem _ later, rest⟩
  | case4 _ declared buffer pairs unchecked ih =>
      obtain ⟨blamed, later, rest⟩ := ih failed
      exact ⟨blamed, List.mem_cons_of_mem _ later, rest⟩

/-- **An error of a call** is one of those that are reported, unless the number of arguments is wrong. -/
theorem mem_reports_of_check (positioned : routine.Positioned) {scalars : String → Option Int}
    {values : List HostValue} {error : CallError}
    (failed : routine.check scalars values = .error (.refused error))
    (counted : ∀ expected given, error.fault ≠ .argumentCount expected given) :
    error ∈ routine.reports := by
  rcases bind_eq_error_iff.mp failed with unconverted | ⟨buffers, -, invalid⟩
  · obtain ⟨cause, refused, same⟩ := mapError_eq_error_iff.mp unconverted
    obtain rfl := CallFailure.refused.inj same
    unfold convert at refused
    split at refused
    · obtain ⟨declared, taken, fault, possible, rfl⟩ := convertAll_fault refused
      exact List.mem_append_left _ (mem_conversionReports positioned taken possible)
    · obtain rfl := Except.error.inj refused
      exact absurd rfl (counted _ _)
  · rcases bind_eq_error_iff.mp invalid with misshaped | ⟨_, -, done⟩
    · obtain ⟨pair, listed, checked, fault, possible, rfl⟩ := checkShapes_fault misshaped
      have taken : pair.1 ∈ routine.arguments := (List.of_mem_zip listed).1
      rcases possible with rfl | possible
      · exact List.mem_append_left _
          (mem_conversionReports positioned taken (Argument.conversion_mem_of_checked checked))
      · exact List.mem_append_right _ (mem_shapeReports positioned taken checked possible)
    · cases done

end Routine

/-! ### Wrapper and model -/

namespace Context

variable {ctx : Context} {routine : Routine}

/-- **The messages before the recovery point** are those of the reported errors. -/
theorem earlyMessages_eq {lines : List String}
    (written : (ctx.wrapperItems routine).flatMap Item.lines = Draft.ofList lines) :
    recoveryLine ∈ lines ∧ earlyMessages lines = routine.reports.map CallError.spelled := by
  obtain ⟨after, split⟩ := ctx.lines_wrapperItems routine
  rw [split] at written
  obtain ⟨before, rest, rfl, first, second⟩ := List.append_eq_map_iff.mp written
  obtain rfl := ofList_injective second.symm
  obtain ⟨early, messages⟩ := Prints.messages (ctx.prints_untilRecovery routine) first.symm
  refine ⟨List.mem_append_right _ List.mem_cons_self, ?_⟩
  have stops : (before ++ recoveryLine :: after).takeWhile (· ≠ recoveryLine) = before := by
    have inside (line : String) (member : line ∈ before) : line ≠ recoveryLine :=
      fun same => early (same ▸ member)
    rw [List.takeWhile_append_of_pos fun line member => decide_eq_true (inside line member),
      List.takeWhile_cons_of_neg (by simp), List.append_nil]
  rw [earlyMessages, stops, messages]

/-- **The messages of a wrapper and the errors of the model line up.** Before the recovery point, the
wrapper of a routine prints for every argument that it has the wrong type and, unless it is a record,
that it cannot be converted; then for every checked argument that it has the wrong rank, and the wrong
size in each dimension that is not left open. Whatever the model refuses a call for, other than the
number of arguments, it says in one of these messages. -/
theorem messages_line_up {text : String} (positioned : routine.Positioned)
    (done : (layOutItems (ctx.wrapperItems routine)).finish = .ok text) :
    ∃ lines, (ctx.wrapperItems routine).flatMap Item.lines = Draft.ofList lines ∧
      text.toList = lineChars lines ∧ recoveryLine ∈ lines ∧
      earlyMessages lines = routine.reports.map CallError.spelled ∧
      ∀ scalars values error, routine.check scalars values = .error (.refused error) →
        (∀ expected given, error.fault ≠ .argumentCount expected given) →
        error.spelled ∈ earlyMessages lines := by
  obtain ⟨lines, written, chars⟩ := toList_finish_endLines done
  obtain ⟨recovers, messages⟩ := earlyMessages_eq written
  refine ⟨lines, written, chars, recovers, messages, fun scalars values error failed counted => ?_⟩
  rw [messages]
  exact List.mem_map_of_mem (Routine.mem_reports_of_check positioned failed counted)

/-- A record, a text, a number, and a block that the number sizes in one dimension. -/
def gather : Routine :=
  [{ name := "p", type := .record "particle" }, { name := "label", type := .character },
    { name := "n", type := .integer },
    { name := "x", type := .real, bounds := [⟨"0", "n - 1"⟩, ⟨"1", ""⟩, ⟨"1", "3"⟩] }].foldl Routine.arg
    (Routine.subroutine "gather")

/-- The module of the routine. -/
def gatherModule : Context where
  inventory := .ofInterface { module := "wxy", declarations := [.routine gather] }

/-- A record has no second message, and the dimension that is left open has none. -/
theorem messages_line_up_gather :
    gather.reports.map (fun error => (error.argument, error.fault)) =
      [(1, .wrongType), (2, .wrongType), (2, .conversion), (3, .wrongType), (3, .conversion),
        (4, .wrongType), (4, .conversion), (4, .wrongRank), (4, .wrongDimension 1),
        (4, .wrongDimension 3)] ∧
    gather.check (fun _ => none) [.record "particle", .text "e", .int 5, .array .real [5, 7, 2]] =
      .error (.refused (gather.refusal 4 (.wrongDimension 3))) ∧
    ∃ lines, (gatherModule.wrapperItems gather).flatMap Item.lines = Draft.ofList lines ∧
      "Dimension 3 of argument 4 in gather has the wrong size" ∈ earlyMessages lines := by
  have emitted : (layOutItems (gatherModule.wrapperItems gather)).finish.toOption.isSome := by
    decide +kernel
  have refused : gather.check (fun _ => none)
      [.record "particle", .text "e", .int 5, .array .real [5, 7, 2]] =
      .error (.refused (gather.refusal 4 (.wrongDimension 3))) := by decide +kernel
  have spelled : (gather.refusal 4 (.wrongDimension 3)).spelled =
      "Dimension 3 of argument 4 in gather has the wrong size" := by decide +kernel
  obtain ⟨text, done⟩ := exists_ok_of_isSome emitted
  obtain ⟨lines, written, -, -, -, reported⟩ :=
    messages_line_up (Routine.positioned_foldl_arg rfl _) done
  refine ⟨by decide +kernel, refused, lines, written, ?_⟩
  rw [← spelled]
  exact reported _ _ _ refused fun expected given same => by cases same

end Context

end ForeignGlue
