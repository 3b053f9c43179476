/-
**The local variables that hold sizes.**

A bound may name an argument. In the shape checks of a wrapper the name becomes a local variable, which
is declared at the top of the checks and read from the buffer of that argument. Which arguments have such
a variable is found by searching the bounds; which names become one is decided where the bounds are
rendered.

* `Routine.FirstNamed`: the argument that a name stands for;
* `Context.sizingRead`: the declaration of a variable; `position_of_line`: its line tells the buffer;
* `Extent.locals`: the variables that an extent mentions; `Context.declared_of_locals`: they are declared;
* `Context.checks_eq`: declarations stand before all that mentions them;
* `Context.sizing_locals_scoped`: all of this, for a wrapper.
-/

import ForeignGlue.Proofs.Host.FaultNumber
import ForeignGlue.Proofs.Host.ShapeDecisions
import Mathlib.Data.List.Nodup

namespace ForeignGlue

open ForeignGlue.CSource ForeignGlue.Source ForeignGlue.Text

/-! ### Arguments that size others -/

namespace Routine

variable {routine : Routine}

/-- **The argument that a name stands for**: the first one of this name, in any case. -/
def FirstNamed (routine : Routine) (name : String) (argument : Argument) : Prop :=
  lower argument.name = lower name ∧ ∃ before after, routine.arguments = before ++ argument :: after ∧
    ∀ other ∈ before, lower other.name ≠ lower name

theorem firstNamed_iff {name : String} {argument : Argument} :
    routine.FirstNamed name argument ↔ routine.find? name = some argument := by
  unfold FirstNamed find?
  rw [List.find?_eq_some_iff_append]
  simp [sameName_iff, ← Bool.not_eq_true]

theorem mem_boundNames_iff {name : String} : name ∈ routine.boundNames ↔
    ∃ declared ∈ routine.arguments, declared.Shaped ∧ ∃ bound ∈ declared.bounds, bound.Mentions name := by
  simp only [boundNames, List.mem_flatMap, List.mem_filter, List.mem_append, Argument.shaped_iff,
    Bound.Mentions, and_assoc]

/-- **The arguments that size others** are those that a name in a bound with a shape stands for, if they
are numbers of one part. -/
theorem mem_sizingArguments_iff (positioned : routine.Positioned) {argument : Argument} :
    argument ∈ routine.sizingArguments ↔
      argument.type.isNumeric = true ∧ argument.type ≠ .complex ∧
        ∃ declared ∈ routine.arguments, declared.Shaped ∧ ∃ bound ∈ declared.bounds, ∃ name,
          bound.Mentions name ∧ routine.FirstNamed name argument := by
  rw [mem_sizingArguments positioned, Argument.isSizing, Bool.and_eq_true, bne_iff_ne]
  simp only [mem_boundNames_iff, firstNamed_iff]
  constructor
  · rintro ⟨⟨name, ⟨declared, taken, shaped, bound, bounded, mentioned⟩, found⟩, numeric, real⟩
    exact ⟨numeric, real, declared, taken, shaped, bound, bounded, name, mentioned, found⟩
  · rintro ⟨numeric, real, declared, taken, shaped, bound, bounded, name, mentioned, found⟩
    exact ⟨⟨name, ⟨declared, taken, shaped, bound, bounded, mentioned⟩, found⟩, numeric, real⟩

/-- Arguments are listed once. -/
theorem nodup_sizingArguments (routine : Routine) : routine.sizingArguments.Nodup :=
  List.Nodup.of_map _ (nodup_map_distinctBy Argument.position _)

end Routine

/-! ### Declarations -/

/-- The variable of a sizing argument. -/
def Context.sizingRead (ctx : Context) (argument : Argument) : SizingRead where
  type := ctx.types.host argument.type
  name := sizingLocal argument.name
  position := argument.position

/-- What follows the last bracket. -/
theorem eq_of_lastBracket {first second tail other : List Char} (noBracket : '[' ∉ tail)
    (noOther : '[' ∉ other) (same : first ++ '[' :: tail = second ++ '[' :: other) : tail = other := by
  rcases List.append_eq_append_iff.mp same with ⟨more, -, rest⟩ | ⟨more, -, rest⟩
  · cases more with
    | nil => exact (List.cons.inj rest).2
    | cons c more =>
        rw [(List.cons.inj rest).2] at noBracket
        exact absurd (List.mem_append_right _ List.mem_cons_self) noBracket
  · cases more with
    | nil => exact (List.cons.inj rest).2.symm
    | cons c more =>
        rw [(List.cons.inj rest).2] at noOther
        exact absurd (List.mem_append_right _ List.mem_cons_self) noOther

/-- The line of a declaration, up to the number of the buffer that is read. -/
theorem toList_line (read : SizingRead) :
    ∃ start, read.line.toList = start ++ '[' :: (Nat.toDigits 10 read.position ++ "]));".toList) := by
  refine ⟨(s!"  {read.type} {read.name} = *({read.type} *)(PyArray_BYTES(ax").toList, ?_⟩
  unfold SizingRead.line
  simp [toString, Nat.repr]

/-- **The line of a declaration tells the buffer** that is read. A type can be spelled in any way, so the
number is read from the end. -/
theorem position_of_line {first second : SizingRead} (same : first.line = second.line) :
    first.position = second.position := by
  have noBracket (value : Nat) : '[' ∉ Nat.toDigits 10 value ++ "]));".toList := by
    rw [List.mem_append, not_or]
    refine ⟨fun member => ?_, by decide⟩
    exact absurd (List.all_eq_true.mp (CExpression.all_isDigit_toDigits value) _ member) (by decide)
  obtain ⟨start, spelled⟩ := toList_line first
  obtain ⟨other, spelledToo⟩ := toList_line second
  rw [same, spelledToo] at spelled
  have digits := List.append_cancel_right (eq_of_lastBracket (noBracket _) (noBracket _) spelled)
  have values := congrArg (Nat.ofDigitChars 10 · 0) digits
  rw [Nat.ofDigitChars_ten_toDigits, Nat.ofDigitChars_ten_toDigits] at values
  exact values.symm

namespace Context

variable {ctx : Context} {routine : Routine}

/-- **Variables have different names**, also from the one for extents. -/
theorem nodup_sizingNames (ctx : Context) (routine : Routine) :
    ("_n" :: (ctx.sizingReads routine).map SizingRead.name).Nodup := by
  have names : (ctx.sizingReads routine).map SizingRead.name =
      routine.sizingArguments.map fun argument => sizingLocal argument.name := List.map_map
  rw [names, List.nodup_cons]
  constructor
  · intro member
    obtain ⟨argument, -, same⟩ := List.mem_map.mp member
    have ends : ['_', '_'] <:+ "_n".toList := by
      rw [← same]
      exact suffix_append _ (List.suffix_refl _)
    exact absurd ends (by decide)
  · exact routine.nodup_sizingArguments.map_on fun first isFirst second isSecond =>
      eq_of_sizingLocal_eq isFirst isSecond

theorem nodup_declarations (positioned : routine.Positioned) (ctx : Context) :
    ((ctx.sizingReads routine).map SizingRead.line).Nodup := by
  rw [show ctx.sizingReads routine = routine.sizingArguments.map ctx.sizingRead from rfl, List.map_map]
  refine routine.nodup_sizingArguments.map_on fun first isFirst second isSecond same => ?_
  exact Routine.eq_of_position_eq positioned (Routine.mem_arguments_of_sizing isFirst)
    (Routine.mem_arguments_of_sizing isSecond) (position_of_line same)

end Context

/-! ### Mentions -/

/-- The local variable that a part of an expression is. -/
def Piece.local? : Piece → Option String
  | .local label => some label
  | .verbatim _ => none
  | .slot _ => none

theorem Piece.local?_eq_some {piece : Piece} {label : String} :
    piece.local? = some label ↔ piece = .local label := by
  cases piece <;> simp [local?]

/-- **The local variables that an extent mentions.** -/
def Extent.locals (extent : Extent) : List String :=
  (extent.high ++ extent.low).filterMap Piece.local?

/-- A local variable stands for a name that is bound to it. -/
theorem Scope.exists_name_of_local {scope : Scope} {binding : Binding} {expression label : String}
    {pieces : List Piece} (done : scope.pieces binding expression = .ok pieces)
    (mentioned : .local label ∈ pieces) : ∃ name, binding name = some label := by
  have listed : Except.ok (Piece.local label) ∈
      (Expression.tokens expression).map (scope.piece binding) := by
    rw [collect_eq_ok_iff.mp done]
    exact List.mem_map_of_mem mentioned
  obtain ⟨token, -, isPiece⟩ := List.mem_map.mp listed
  unfold piece at isPiece
  split at isPiece
  · split at isPiece
    · next bound =>
        obtain rfl := Piece.local.inj (Except.ok.inj isPiece)
        exact ⟨_, bound⟩
    · obtain ⟨slot, -, same⟩ := map_eq_ok_iff.mp isPiece
      cases same
  · cases isPiece
  · cases isPiece

theorem Routine.exists_of_binding {routine : Routine} {name label : String}
    (bound : routine.binding name = some label) :
    ∃ argument ∈ routine.sizingArguments, sizingLocal argument.name = label := by
  unfold binding at bound
  split at bound
  · next listed =>
      obtain ⟨argument, member, same⟩ := List.any_eq_true.mp listed
      refine ⟨argument, member, ?_⟩
      rw [← Option.some.inj bound, sizingLocal, sizingLocal, sameName_iff.mp same]
  · cases bound

/-- **What an extent mentions is declared.** -/
theorem Context.declared_of_locals {ctx : Context} {routine : Routine} {declared : Argument}
    {extents : List KnownExtent} {known : KnownExtent} {label : String}
    (done : ctx.knownExtents routine declared = .ok extents) (member : known ∈ extents)
    (mentioned : label ∈ known.extent.locals) :
    ∃ argument ∈ routine.sizingArguments, sizingLocal argument.name = label := by
  have listed := List.mem_map_of_mem (f := Except.ok (ε := GenerationError)) member
  rw [← collect_eq_ok_iff.mp done] at listed
  obtain ⟨⟨_, bound⟩, -, rendered⟩ := List.mem_map.mp listed
  obtain ⟨extent, isExtent, same⟩ := bind_eq_ok_iff.mp rendered
  obtain rfl := Except.ok.inj same
  obtain ⟨high, isHigh, rest⟩ := bind_eq_ok_iff.mp isExtent
  obtain ⟨low, isLow, same⟩ := bind_eq_ok_iff.mp rest
  obtain rfl := Except.ok.inj same
  obtain ⟨piece, isPiece, isLocal⟩ := List.mem_filterMap.mp mentioned
  obtain rfl := Piece.local?_eq_some.mp isLocal
  rcases List.mem_append.mp isPiece with inHigh | inLow
  · obtain ⟨name, bound⟩ := Scope.exists_name_of_local isHigh inHigh
    exact Routine.exists_of_binding bound
  · obtain ⟨name, bound⟩ := Scope.exists_name_of_local isLow inLow
    exact Routine.exists_of_binding bound

/-! ### Lines -/

/-- The lines of a check that mention extents: their guard, and one line for each. -/
def mentionLines (scope : Scope) (extents : List KnownExtent) : List String :=
  s!"  if ({scope.nonzeroGuard (extents.map KnownExtent.extent)}) \x7b" ::
    extents.map fun known => s!"    _n = (int){scope.extentText known.extent};"

/-- How declarations end. -/
def readEnd : List Char :=
  [')', ')', ';']

theorem readEnd_suffix (read : SizingRead) : readEnd <:+ read.line.toList :=
  suffix_append _ (by decide : readEnd <:+ "]));".toList)

/-- A line that ends in one way does not end in another. -/
theorem not_suffix {line : String} {tail other : List Char} (ends : tail <:+ line.toList)
    (differs : tail.length = other.length ∧ tail ≠ other) : ¬other <:+ line.toList := by
  intro otherwise
  have inside := List.suffix_of_suffix_length_le ends otherwise differs.1.le
  exact differs.2 (inside.eq_of_length differs.1)

/-- How lines end that mention extents. -/
theorem suffix_of_mention {scope : Scope} {extents : List KnownExtent} {line : String}
    (member : line ∈ mentionLines scope extents) :
    [')', ' ', '\x7b'] <:+ line.toList ∨ ['1', ')', ';'] <:+ line.toList := by
  rcases List.mem_cons.mp member with rfl | listed
  · exact .inl (suffix_append _ (List.suffix_refl ") \x7b".toList))
  · obtain ⟨known, -, rfl⟩ := List.mem_map.mp listed
    have ends : ['1', ')'] <:+ (s!"    _n = (int){scope.extentText known.extent}").toList :=
      suffix_append _ (suffix_append _ (by decide : ['1', ')'] <:+ ")+1)".toList))
    obtain ⟨start, whole⟩ := ends
    refine .inr ⟨start, ?_⟩
    rw [String.toList_append, ← whole, List.append_assoc]
    rfl

theorem not_readEnd_mentionLines {scope : Scope} {extents : List KnownExtent} {line : String}
    (member : line ∈ mentionLines scope extents) : ¬readEnd <:+ line.toList := by
  rcases suffix_of_mention member with guard | extent
  · exact not_suffix guard (by decide)
  · exact not_suffix extent (by decide)

/-- A condition declares nothing. -/
theorem not_readEnd_condition {start ending : String} (opens : [')', ' ', '\x7b'] <:+ ending.toList) :
    ¬readEnd <:+ (start ++ ending).toList :=
  not_suffix (suffix_append _ opens) (by decide)

/-- A refusal declares nothing. -/
theorem not_readEnd_refuse {indent : String} (blank : indent.toList.all (· == ' ') = true)
    {error : CallError} {line : String} (member : line ∈ refuse indent error) :
    ¬readEnd <:+ line.toList := by
  rcases List.mem_cons.mp member with rfl | last
  · exact not_suffix (suffix_of_printed? (printed?_refusal blank error)) (by decide)
  · obtain rfl := List.mem_singleton.mp last
    exact not_suffix (suffix_append _ (by decide : ['r', ';', '\x7d'] <:+ "goto err;\x7d".toList))
      (by decide)

theorem not_readEnd_rankLines {check : ShapeCheck} {routine : Routine} {line : String}
    (member : line ∈ check.rankLines routine) : ¬readEnd <:+ line.toList := by
  unfold ShapeCheck.rankLines at member
  rcases List.mem_append.mp member with head | refusal
  · rcases List.mem_cons.mp head with rfl | condition
    · intro ends
      have bracket : ')' ∈ (s!"  argno = {check.index + 1};").toList := ends.subset (by decide)
      have written : s!"  argno = {check.index + 1};" = "  argno = " ++ (check.index + 1).repr ++ ";" := rfl
      rw [written, String.toList_append, String.toList_append, List.mem_append, List.mem_append] at bracket
      rcases bracket with (start | digit) | semicolon
      · exact absurd start (by decide)
      · rw [Nat.repr, String.toList_ofList] at digit
        exact absurd (List.all_eq_true.mp (CExpression.all_isDigit_toDigits _) _ digit) (by decide)
      · exact absurd semicolon (by decide)
    · rw [List.mem_singleton] at condition
      rw [condition]
      split
      · exact not_readEnd_condition (by decide)
      · exact not_readEnd_condition (by decide)
  · exact not_readEnd_refuse (by decide) refusal

theorem not_readEnd_extentLines {check : ShapeCheck} {routine : Routine} {scope : Scope}
    {known : KnownExtent} {line : String} (member : line ∈ check.extentLines routine scope known) :
    ¬readEnd <:+ line.toList := by
  unfold ShapeCheck.extentLines at member
  rcases List.mem_append.mp member with head | refusal
  · rcases List.mem_cons.mp head with rfl | condition
    · exact not_readEnd_mentionLines
        (List.mem_cons_of_mem _ (List.mem_map_of_mem (List.mem_singleton_self known)))
    · rw [List.mem_singleton] at condition
      rw [condition]
      split
      · exact not_readEnd_condition (by decide)
      · exact not_readEnd_condition (by decide)
  · exact not_readEnd_refuse (by decide) refusal

theorem not_readEnd_guardedLines {check : ShapeCheck} {routine : Routine} {scope : Scope}
    {extents : List KnownExtent} {line : String}
    (member : line ∈ check.guardedLines routine scope extents) : ¬readEnd <:+ line.toList := by
  unfold ShapeCheck.guardedLines at member
  split at member
  · cases member
  · rcases List.mem_append.mp member with inner | last
    · rcases List.mem_append.mp inner with guard | inside
      · exact not_readEnd_mentionLines (List.mem_cons.mpr (.inl (List.mem_singleton.mp guard)))
      · obtain ⟨known, -, listed⟩ := List.mem_flatMap.mp inside
        exact not_readEnd_extentLines listed
    · rw [List.mem_singleton.mp last]
      decide

/-- The lines that mention extents are among those that check them. -/
theorem mem_guardedLines_of_mention {check : ShapeCheck} {routine : Routine} {scope : Scope}
    {extents : List KnownExtent} {line : String} (known : extents ≠ [])
    (member : line ∈ mentionLines scope extents) : line ∈ check.guardedLines routine scope extents := by
  unfold ShapeCheck.guardedLines
  rw [if_neg (by simpa using known)]
  rcases List.mem_cons.mp member with rfl | listed
  · exact List.mem_append_left _ (List.mem_append_left _ List.mem_cons_self)
  · obtain ⟨known, isKnown, rfl⟩ := List.mem_map.mp listed
    exact List.mem_append_left _ (List.mem_append_right _
      (List.mem_flatMap.mpr ⟨known, isKnown, List.mem_cons_self⟩))

/-! ### All checks -/

/-- The lines of items one after the other are those of each item. -/
theorem parts_of_flatMap {α : Type} {items : List α} {draftAt : α → Draft String} {lines : List String}
    (spelled : items.flatMap draftAt = Draft.ofList lines) :
    (∀ item ∈ items, ∃ part, draftAt item = .ofList part ∧ part ⊆ lines) ∧
      ∀ line ∈ lines, ∃ item ∈ items, ∃ part, draftAt item = .ofList part ∧ line ∈ part := by
  induction items generalizing lines with
  | nil =>
      obtain rfl := ofList_injective (show Draft.ofList [] = .ofList lines from spelled)
      exact ⟨List.forall_mem_nil _, List.forall_mem_nil _⟩
  | cons item items ih =>
      obtain ⟨first, rest, rfl, isFirst, isRest⟩ := List.append_eq_map_iff.mp spelled
      obtain ⟨parts, lines⟩ := ih isRest.symm
      refine ⟨List.forall_mem_cons.mpr ⟨⟨first, isFirst.symm, List.subset_append_left _ _⟩, ?_⟩,
        List.forall_mem_append.mpr ⟨fun line member => ?_, fun line member => ?_⟩⟩
      · intro other member
        obtain ⟨part, isPart, inside⟩ := parts other member
        exact ⟨part, isPart, List.subset_append_of_subset_right _ inside⟩
      · exact ⟨item, List.mem_cons_self, first, isFirst.symm, member⟩
      · obtain ⟨other, listed, part⟩ := lines line member
        exact ⟨other, List.mem_cons_of_mem _ listed, part⟩

namespace Context

variable {ctx : Context} {routine : Routine} {checks : List String}

/-- **Declarations stand before all that mentions them**: first the variables of a routine, then the
checks, in which there is no declaration. -/
theorem checks_eq (spelled : ctx.shapeCheckLines routine = .ofList checks)
    (checked : routine.checkedArguments ≠ []) :
    ∃ uses, checks = (["  \x7b", "  int _n;"] ++ (ctx.sizingReads routine).map SizingRead.line) ++ uses ∧
      (∀ line ∈ uses, ¬readEnd <:+ line.toList) ∧
      ∀ declared ∈ routine.arguments, declared.Shaped → ∃ extents,
        ctx.knownExtents routine declared = .ok extents ∧
          (extents ≠ [] → ∀ line ∈ mentionLines ctx.scope extents, line ∈ uses) := by
  have listed : ctx.shapeChecks routine = routine.checkedArguments.map fun checked =>
    ⟨checked.1, checked.2.rank, ctx.knownExtents routine checked.2⟩ := rfl
  unfold shapeCheckLines at spelled
  dsimp only at spelled
  rw [listed, List.isEmpty_map, if_neg (by simpa using checked), List.flatMap_map] at spelled
  obtain ⟨before, last, rfl, isBefore, isLast⟩ := List.append_eq_map_iff.mp spelled
  obtain rfl := ofList_injective (show Draft.ofList ["  \x7d"] = .ofList last from isLast.symm)
  obtain ⟨opening, inner, rfl, isOpening, isInner⟩ := List.append_eq_map_iff.mp isBefore.symm
  obtain rfl := ofList_injective isOpening.symm
  obtain ⟨parts, lines⟩ := parts_of_flatMap isInner.symm
  refine ⟨inner ++ ["  \x7d"], List.append_assoc _ _ _, ?_, fun declared taken shaped => ?_⟩
  · refine List.forall_mem_append.mpr ⟨fun line member => ?_, by decide⟩
    obtain ⟨checked, -, part, isPart, inside⟩ := lines line member
    obtain ⟨extents, -, rfl⟩ := ShapeCheck.exists_extents isPart
    exact (List.mem_append.mp inside).elim not_readEnd_rankLines not_readEnd_guardedLines
  · obtain ⟨index, found⟩ := List.mem_iff_getElem?.mp taken
    obtain ⟨part, isPart, inside⟩ := parts _ (Routine.mem_checkedArguments.mpr ⟨found, shaped⟩)
    obtain ⟨extents, rendered, rfl⟩ := ShapeCheck.exists_extents isPart
    refine ⟨extents, rendered, fun known line member => List.mem_append_left _ (inside ?_)⟩
    exact List.mem_append_right _ (mem_guardedLines_of_mention known member)

/-- What stands in front of a line that comes later. -/
theorem mem_front {opening rest front back : List String} {line : String}
    (split : opening ++ rest = front ++ line :: back) (late : line ∉ opening) {text : String}
    (early : text ∈ opening) : text ∈ front := by
  rcases List.append_eq_append_iff.mp split with ⟨more, rfl, -⟩ | ⟨more, rfl, behind⟩
  · exact List.mem_append_left _ early
  · cases more with
    | nil => rwa [List.append_nil] at early
    | cons c more =>
        obtain ⟨rfl, -⟩ := List.cons.inj behind
        exact absurd (List.mem_append_right _ List.mem_cons_self) late

/-- What mentions an extent is no part of the declarations. -/
theorem mention_late {reads : List SizingRead} {scope : Scope} {extents : List KnownExtent} {line : String}
    (member : line ∈ mentionLines scope extents) :
    line ∉ ["  \x7b", "  int _n;"] ++ reads.map SizingRead.line := by
  intro early
  rcases List.mem_append.mp early with opening | declaration
  · have none : ∀ line ∈ ["  \x7b", "  int _n;"],
        ¬([')', ' ', '\x7b'] <:+ line.toList ∨ ['1', ')', ';'] <:+ line.toList) := by decide
    exact none line opening (suffix_of_mention member)
  · obtain ⟨read, -, rfl⟩ := List.mem_map.mp declaration
    exact not_readEnd_mentionLines member (readEnd_suffix read)

/-- A declaration stands in the checks once. -/
theorem count_declaration (positioned : routine.Positioned) {argument : Argument}
    (sizing : argument ∈ routine.sizingArguments) {uses : List String}
    (others : ∀ line ∈ uses, ¬readEnd <:+ line.toList) :
    ((["  \x7b", "  int _n;"] ++ (ctx.sizingReads routine).map SizingRead.line) ++ uses).count
      (ctx.sizingRead argument).line = 1 := by
  have ends := readEnd_suffix (ctx.sizingRead argument)
  have opening : (ctx.sizingRead argument).line ∉ ["  \x7b", "  int _n;"] := by
    intro member
    have none : ∀ line ∈ ["  \x7b", "  int _n;"], ¬readEnd <:+ line.toList := by decide
    exact none _ member ends
  have declared : (ctx.sizingRead argument).line ∈ (ctx.sizingReads routine).map SizingRead.line :=
    List.mem_map_of_mem (List.mem_map_of_mem sizing)
  rw [List.count_append, List.count_append, List.count_eq_zero_of_not_mem opening,
    List.count_eq_one_of_mem (nodup_declarations positioned ctx) declared,
    List.count_eq_zero_of_not_mem fun member => others _ member ends]

/-- The line that assigns the buffer of an argument. -/
def bufferLine (ctx : Context) (routine : Routine) (argument : Argument) : String :=
  let made := bufferText argument.position (ctx.types.element argument.type) routine.convention
  s!"  ax[{argument.position}] = {made};"

/-- **Every number has its buffer** after the conversion of all arguments. -/
theorem bufferLine_mem (positioned : routine.Positioned) {argument : Argument}
    (taken : argument ∈ routine.arguments) (numeric : argument.type.isNumeric = true) :
    ctx.bufferLine routine argument ∈ (ctx.conversions routine).flatMap Conversion.lines := by
  obtain ⟨index, inside, isArgument⟩ := List.getElem_of_mem taken
  have found := List.getElem?_eq_some_iff.mpr ⟨inside, isArgument⟩
  have place := Routine.position_of_getElem? positioned found
  refine List.mem_flatMap.mpr ⟨_, List.mem_mapIdx.mpr ⟨index, inside, rfl⟩, ?_⟩
  rw [isArgument, ← place]
  unfold bufferLine
  cases isType : argument.type with
  | character =>
      rw [isType] at numeric
      cases numeric
  | record name =>
      rw [isType] at numeric
      cases numeric
  | _ => simp [Conversion.lines]

/-- **Local variables with sizes are well scoped.** The arguments that have one are listed once; they are
the numbers of one part that a name in the bounds of an argument with a shape stands for. The variables
have different names. In the checks of a wrapper every variable is declared in one line, which reads the
buffer at the position of its argument, and that buffer is assigned before the checks. Whatever variable
the guard or an extent of a check mentions, its declaration stands in front of that line. -/
theorem sizing_locals_scoped {text : String} (positioned : routine.Positioned)
    (done : (layOutItems (ctx.wrapperItems routine)).finish = .ok text) :
    routine.sizingArguments.Nodup ∧
    (∀ argument, argument ∈ routine.sizingArguments ↔
      argument.type.isNumeric = true ∧ argument.type ≠ .complex ∧
        ∃ declared ∈ routine.arguments, declared.Shaped ∧ ∃ bound ∈ declared.bounds, ∃ name,
          bound.Mentions name ∧ routine.FirstNamed name argument) ∧
    ("_n" :: routine.sizingArguments.map fun argument => (ctx.sizingRead argument).name).Nodup ∧
    ∃ before checks after,
      (ctx.wrapperItems routine).flatMap Item.lines = Draft.ofList (before ++ checks ++ after) ∧
      text.toList = lineChars (before ++ checks ++ after) ∧
      ctx.shapeCheckLines routine = .ofList checks ∧
      (∀ argument ∈ routine.sizingArguments,
        routine.arguments[(ctx.sizingRead argument).position]? = some argument ∧
        ctx.bufferLine routine argument ∈ before ∧
        checks.count (ctx.sizingRead argument).line = 1) ∧
      ∀ declared ∈ routine.arguments, declared.Shaped → ∃ extents,
        ctx.knownExtents routine declared = .ok extents ∧
        (extents ≠ [] → ∀ line ∈ mentionLines ctx.scope extents, line ∈ checks) ∧
        ∀ front line back, checks = front ++ line :: back → line ∈ mentionLines ctx.scope extents →
          ∀ known ∈ extents, ∀ label ∈ known.extent.locals, ∃ argument ∈ routine.sizingArguments,
            (ctx.sizingRead argument).name = label ∧ (ctx.sizingRead argument).line ∈ front := by
  obtain ⟨lines, written, chars⟩ := toList_finish_endLines done
  obtain ⟨after, split⟩ := ctx.lines_wrapperItems routine
  obtain ⟨early, rest, rfl, first, second⟩ := List.append_eq_map_iff.mp (split.symm.trans written)
  obtain ⟨before, checks, rfl, isBefore, isChecks⟩ := List.append_eq_map_iff.mp first.symm
  obtain rfl := ofList_injective isBefore.symm
  have shapedOf {declared : Argument} (taken : declared ∈ routine.arguments) (shaped : declared.Shaped) :
      routine.checkedArguments ≠ [] := by
    obtain ⟨index, found⟩ := List.mem_iff_getElem?.mp taken
    exact List.ne_nil_of_mem (Routine.mem_checkedArguments.mpr ⟨found, shaped⟩)
  refine ⟨routine.nodup_sizingArguments, fun argument => Routine.mem_sizingArguments_iff positioned,
    ?_, _, checks, rest, written, chars, isChecks.symm, fun argument sizing => ?_,
    fun declared taken shaped => ?_⟩
  · have names := ctx.nodup_sizingNames routine
    rwa [sizingReads, List.map_map] at names
  · obtain ⟨numeric, -, declared, taken, shaped, -⟩ :=
      (Routine.mem_sizingArguments_iff positioned).mp sizing
    obtain ⟨uses, rfl, others, -⟩ := checks_eq isChecks.symm (shapedOf taken shaped)
    have listed := Routine.mem_arguments_of_sizing sizing
    refine ⟨?_, List.mem_append_right _ (bufferLine_mem positioned listed numeric),
      count_declaration positioned sizing others⟩
    obtain ⟨index, found⟩ := List.mem_iff_getElem?.mp listed
    rw [← found, ← Routine.position_of_getElem? positioned found]
    rfl
  · obtain ⟨uses, rfl, others, each⟩ := checks_eq isChecks.symm (shapedOf taken shaped)
    obtain ⟨extents, rendered, mentioned⟩ := each declared taken shaped
    refine ⟨extents, rendered,
      fun known line member => List.mem_append_right _ (mentioned known line member),
      fun front line back split member known isKnown label isLabel => ?_⟩
    obtain ⟨argument, sizing, isName⟩ := declared_of_locals rendered isKnown isLabel
    exact ⟨argument, sizing, isName, mem_front split (mention_late member)
      (List.mem_append_right _ (List.mem_map_of_mem (List.mem_map_of_mem sizing)))⟩

/-- A block that is sized by two numbers, one of whose names is given twice. -/
def regrid : Routine :=
  [{ name := "x", type := .real, bounds := [⟨"1", "N"⟩, ⟨"0", "m + n"⟩] },
    { name := "n", type := .integer }, { name := "M", type := .integer },
    { name := "N", type := .real }].foldl Routine.arg (Routine.subroutine "regrid")

theorem sizing_locals_scoped_regrid :
    regrid.sizingArguments.map Argument.position = [1, 2] ∧
    ∃ before checks after,
      ((moduleOf regrid).wrapperItems regrid).flatMap Item.lines =
        Draft.ofList (before ++ checks ++ after) ∧
      "  ax[2] = FARRAY_FROMOBJECT(pyobj[2], NPY_LONG);" ∈ before ∧
      checks.count "  long m__ = *(long *)(PyArray_BYTES(ax[2]));" = 1 ∧
      ∀ front back, checks = front ++ "  if (1*((n__)-(1)+1)*((m__ + n__)-(0)+1) != 0) \x7b" :: back →
        "  long m__ = *(long *)(PyArray_BYTES(ax[2]));" ∈ front := by
  have emitted : (layOutItems ((moduleOf regrid).wrapperItems regrid)).finish.toOption.isSome := by
    decide +kernel
  obtain ⟨text, done⟩ := exists_ok_of_isSome emitted
  have positioned : regrid.Positioned := Routine.positioned_foldl_arg rfl _
  obtain ⟨-, -, -, before, checks, after, written, -, -, declared, mentioned⟩ :=
    sizing_locals_scoped positioned done
  have sizes : regrid.sizingArguments =
      [{ name := "n", type := .integer, position := 1 },
        { name := "M", type := .integer, position := 2 }] := by
    decide +kernel
  rw [sizes] at declared mentioned
  obtain ⟨-, buffer, once⟩ := declared _ (List.mem_cons_of_mem _ List.mem_cons_self)
  refine ⟨by rw [sizes]; rfl, before, checks, after, written, buffer, once, fun front back split => ?_⟩
  obtain ⟨extents, rendered, -, early⟩ := mentioned
    { name := "x", type := .real, bounds := [⟨"1", "N"⟩, ⟨"0", "m + n"⟩], position := 0 }
    List.mem_cons_self (Argument.shaped_iff.mpr rfl)
  have isExtents : extents = [⟨0, ⟨[.local "n__"], [.verbatim "1"]⟩⟩,
      ⟨1, ⟨[.local "m__", .verbatim " + ", .local "n__"], [.verbatim "0"]⟩⟩] := by
    refine Except.ok.inj (rendered.symm.trans ?_)
    decide +kernel
  subst isExtents
  obtain ⟨argument, listed, isName, inFront⟩ := early front _ back split (by decide +kernel) _
    (List.mem_cons_of_mem _ List.mem_cons_self) "m__" (by decide)
  have isSecond : argument = { name := "M", type := .integer, position := 2 } := by
    simp only [List.mem_cons, List.not_mem_nil, or_false] at listed
    rcases listed with rfl | same
    · exact absurd isName (by decide +kernel)
    · exact same
  rw [isSecond] at inFront
  exact inFront

end Context

end ForeignGlue
