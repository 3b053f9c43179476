/-
**The shape checks of a wrapper, as C reads them.**

Where every bound is a single word, the lines that check the shapes of a routine's arguments are read
back: declarations of the sizes, and for every checked argument the number under which it goes, a test
of its rank, and under a guard a test of every declared extent. A test that fails prints an error and
jumps.

* `refusalCode`: a test and what it does if it fails; `writes_refusal`: its lines.
* `encloses_rankCondition`, `encloses_extentCondition`, `encloses_guardExpr`: the conditions.
* `Context.writesLines_shapeCheckLines`: the lines of a routine's checks are `Context.shapeCode`.
-/

import ForeignGlue.Host.Wrapper
import ForeignGlue.Proofs.CSource.BoundWord
import ForeignGlue.Proofs.CSource.Layout
import ForeignGlue.Proofs.Call.KnownBounds
import ForeignGlue.Proofs.Generation.Resolution

namespace ForeignGlue

open ForeignGlue.CSource
open ForeignGlue.Expression (IsIdentifier IsWord isLiteral)
open ForeignGlue.Source
open ForeignGlue.Text

/-! ### Buffers -/

/-- The buffer of an argument. -/
def bufferExpr (index : Nat) : Expr :=
  .element (.name "ax") (.number (Nat.toDigits 10 index))

/-- The number of dimensions of a buffer. -/
def rankExpr (index : Nat) : Expr :=
  .call (.name "PyArray_NDIM") (bufferExpr index)

/-- The length of an axis of a buffer. -/
def lengthExpr (index axis : Nat) : Expr :=
  .element (.call (.name "PyArray_DIMS") (bufferExpr index)) (.number (Nat.toDigits 10 axis))

/-- The integer at the start of a buffer. -/
def contentExpr (index : Nat) : Expr :=
  .pointed (.pointerCast "long" (.call (.name "PyArray_BYTES") (bufferExpr index)))

/-- The terminals of a function of the buffer of an argument. -/
def bufferCall (function : String) (index : Nat) : List Terminal :=
  [.name function, .mark .opening, .name "ax", .mark .openingBracket, .number (Nat.toDigits 10 index),
   .mark .closingBracket, .mark .closing]

theorem reads_bufferCall {function : String} {index : Nat} {rest after : List Terminal} {x : Expr}
    (more : Reads (.suffixes (.call (.name function) (bufferExpr index))) rest x after) :
    Reads .operand (bufferCall function index ++ rest) x after := by
  have position : Reads (.expression 0)
      (.number (Nat.toDigits 10 index) :: .mark .closingBracket :: .mark .closing :: rest)
      (.number (Nat.toDigits 10 index)) (.mark .closingBracket :: .mark .closing :: rest) :=
    .expression (.number (.suffixesEnd rfl)) (.operatorsEnd rfl)
  have buffer : Reads .arguments
      (.name "ax" :: .mark .openingBracket :: .number (Nat.toDigits 10 index) ::
        .mark .closingBracket :: .mark .closing :: rest)
      (bufferExpr index) (.mark .closing :: rest) :=
    .oneArgument (.expression (.name (.element position (.suffixesEnd rfl))) (.operatorsEnd rfl))
      (by simp)
  exact .name (.call buffer more)

theorem readsAt_rank (index : Nat) :
    ReadsAt .unary (bufferCall "PyArray_NDIM" index) (rankExpr index) := by
  intro rest ends
  exact reads_bufferCall (.suffixesEnd ends)

/-- The text of a rank that is compared. -/
theorem closed_rankEquals (index : Nat) : Closed (s!"PyArray_NDIM(ax[{index}]) == ").toList
    (bufferCall "PyArray_NDIM" index ++ [.mark .equal]) := by
  have calls : Closed "PyArray_NDIM(ax[".toList
      [.name "PyArray_NDIM", .mark .opening, .name "ax", .mark .openingBracket] :=
    closed_of_settled (by decide)
  have equals : Closed "]) == ".toList [.mark .closingBracket, .mark .closing, .mark .equal] :=
    closed_of_settled (by decide)
  convert calls.append (equals.number index (by decide)) using 1
  · simp [toString]
  · rfl

/-! ### Conditions -/

/-- Tests whether a buffer has a number of dimensions. -/
def hasRank (index rank : Nat) : Expr :=
  .binary .equal (rankExpr index) (.number (Nat.toDigits 10 rank))

/-- Tests whether the extent at hand is the length of an axis, both taken as an `int`. -/
def hasExtent (index axis : Nat) : Expr :=
  .binary .equal (.name "_n") (.cast "int" (lengthExpr index axis))

/-- Tests the rank of a buffer. A bare value passes for one dimension. -/
def rankCondition (index rank : Nat) : Expr :=
  if rank = 1 then .binary .or (hasRank index 1) (hasRank index 0) else hasRank index rank

/-- Tests the extent of an axis. A bare value passes for one dimension. -/
def extentCondition (index rank axis : Nat) : Expr :=
  if rank = 1 then .binary .or (hasRank index 0) (hasExtent index axis) else hasExtent index axis

/-- Tests whether a product of extents is not zero. -/
def guardExpr (extents : List Expr) : Expr :=
  .binary .unequal (extents.foldl (.binary (.arithmetic .mul)) (.number ['1'])) (.number ['0'])

/-- A comparison that a closing parenthesis ends. It may follow an operator that is not tighter. -/
def Compares (chars : List Char) (x : Expr) : Prop :=
  ∃ ts, Closed (chars ++ [')']) (ts ++ [.mark .closing]) ∧ ∀ level ≤ 2, ∀ rest,
    Reads (.expression level) (ts ++ .mark .closing :: rest) x (.mark .closing :: rest)

theorem Compares.encloses {cs : List Char} {x : Expr} (compares : Compares cs x) : Encloses cs x := by
  obtain ⟨ts, closed, reads⟩ := compares
  exact ⟨ts, closed, reads 0 (by omega)⟩

/-- A comparison of two operands, read at a level that is not tighter. -/
theorem reads_equal {ts us rest after : List Terminal} {x y z : Expr} {level : Nat}
    (left : ReadsAt .unary ts x) (right : ReadsAt .unary us y) (loose : level ≤ 2)
    (ends : endsSuffixes rest) (stops : endsOperators 3 rest)
    (more : Reads (.operators level (.binary .equal x y)) rest z after) :
    Reads (.expression level) (ts ++ .mark .equal :: (us ++ rest)) z after := by
  have second : Reads (.expression 3) (us ++ rest) y rest :=
    .expression (right rest ends) (.operatorsEnd stops)
  exact .expression (left _ rfl) (.operator rfl loose second more)

/-- The text of a test of the rank. -/
theorem compares_rank (index rank : Nat) :
    Compares (s!"PyArray_NDIM(ax[{index}]) == {rank}").toList (hasRank index rank) := by
  have ending : Closed ")".toList [.mark .closing] := closed_of_settled (by decide)
  have whole := (closed_rankEquals index).append (ending.number rank (by decide))
  refine ⟨bufferCall "PyArray_NDIM" index ++ [.mark .equal, .number (Nat.toDigits 10 rank)], ?_, ?_⟩
  · convert whole using 1
    · simp [toString]
    · rfl
  · intro level loose rest
    rw [List.append_assoc]
    exact reads_equal (readsAt_rank index) (.number (Nat.toDigits 10 rank)) loose rfl rfl
      (.operatorsEnd (by simp [endsOperators, operator?]))

/-- The text of a test of the extent. -/
theorem compares_extent (index axis : Nat) :
    Compares (s!"_n == (int)(PyArray_DIMS(ax[{index}])[{axis}])").toList (hasExtent index axis) := by
  have calls : Closed "_n == (int)(PyArray_DIMS(ax[".toList
      [.name "_n", .mark .equal, .mark .opening, .typeName "int", .mark .closing, .mark .opening,
       .name "PyArray_DIMS", .mark .opening, .name "ax", .mark .openingBracket] :=
    closed_of_settled (by decide)
  have between : Closed "])[".toList
      [.mark .closingBracket, .mark .closing, .mark .openingBracket] := closed_of_settled (by decide)
  have ending : Closed "]))".toList [.mark .closingBracket, .mark .closing, .mark .closing] :=
    closed_of_settled (by decide)
  have whole := calls.append ((between.number index (by decide)).append
    (ending.number axis (by decide)))
  have counter : ReadsAt .unary [.name "_n"] (.name "_n") := by
    intro rest ends
    exact .name (.suffixesEnd ends)
  have actual : ReadsAt .unary ([.mark .opening, .typeName "int", .mark .closing, .mark .opening] ++
      (bufferCall "PyArray_DIMS" index ++ [.mark .openingBracket, .number (Nat.toDigits 10 axis),
        .mark .closingBracket, .mark .closing])) (.cast "int" (lengthExpr index axis)) := by
    intro rest ends
    have position : Reads (.expression 0)
        (.number (Nat.toDigits 10 axis) :: .mark .closingBracket :: .mark .closing :: rest)
        (.number (Nat.toDigits 10 axis)) (.mark .closingBracket :: .mark .closing :: rest) :=
      .expression (.number (.suffixesEnd rfl)) (.operatorsEnd rfl)
    have length : Reads .operand (bufferCall "PyArray_DIMS" index ++
        .mark .openingBracket :: .number (Nat.toDigits 10 axis) :: .mark .closingBracket ::
          .mark .closing :: rest) (lengthExpr index axis) (.mark .closing :: rest) :=
      reads_bufferCall (.element position (.suffixesEnd rfl))
    simp only [List.append_assoc, List.cons_append, List.nil_append]
    exact .cast (.parenthesized (.expression length (.operatorsEnd rfl)) (.suffixesEnd ends))
  refine ⟨.name "_n" :: .mark .equal :: ([.mark .opening, .typeName "int", .mark .closing,
    .mark .opening] ++ (bufferCall "PyArray_DIMS" index ++ [.mark .openingBracket,
      .number (Nat.toDigits 10 axis), .mark .closingBracket, .mark .closing])), ?_, ?_⟩
  · convert whole using 1
    · simp [toString]
    · rfl
  · intro level loose rest
    exact reads_equal counter actual loose rfl rfl
      (.operatorsEnd (by simp [endsOperators, operator?]))

/-- A test of the rank, or else another comparison. -/
theorem Compares.orRank {cs : List Char} {y : Expr} (other : Compares cs y) (index rank : Nat) :
    Encloses ((s!"PyArray_NDIM(ax[{index}]) == {rank} || ").toList ++ cs)
      (.binary .or (hasRank index rank) y) := by
  obtain ⟨ts, closed, reads⟩ := other
  have either : Closed " || ".toList [.mark .orOr] := closed_of_settled (by decide)
  have whole := (closed_rankEquals index).append ((either.number rank (by decide)).append closed)
  refine ⟨bufferCall "PyArray_NDIM" index ++ .mark .equal :: ([.number (Nat.toDigits 10 rank)] ++
    .mark .orOr :: ts), ?_, fun rest => ?_⟩
  · convert whole using 1
    · simp [toString]
    · simp [bufferCall]
  · rw [List.append_assoc, List.cons_append, List.append_assoc]
    exact reads_equal (readsAt_rank index) (.number (Nat.toDigits 10 rank)) (by omega) rfl rfl
      (.operator rfl (by decide) (reads 1 (by omega) rest) (.operatorsEnd rfl))

theorem CSource.Encloses.negation {cs : List Char} {x : Expr} (encloses : Encloses cs x) :
    Encloses ("!(".toList ++ cs ++ [')']) (.negation x) := by
  obtain ⟨ts, closed, reads⟩ := encloses
  have opening : Closed "!(".toList [.mark .bang, .mark .opening] := closed_of_settled (by decide)
  have ending : Closed ")".toList [.mark .closing] := closed_of_settled (by decide)
  have whole := opening.append (closed.append ending)
  refine ⟨.mark .bang :: .mark .opening :: (ts ++ [.mark .closing]), ?_, fun rest => ?_⟩
  · convert whole using 1
    · simp
    · simp
  · have inner := reads (.mark .closing :: rest)
    simp only [List.append_assoc, List.cons_append, List.nil_append]
    exact .expression (.negation (.parenthesized inner (.suffixesEnd rfl))) (.operatorsEnd rfl)

/-- The text of the rank condition. -/
theorem encloses_rankCondition (index rank : Nat) : Encloses
    (if rank = 1 then s!"PyArray_NDIM(ax[{index}]) == 1 || PyArray_NDIM(ax[{index}]) == 0"
      else s!"PyArray_NDIM(ax[{index}]) == {rank}").toList (rankCondition index rank) := by
  unfold rankCondition
  split
  · have either := (compares_rank index 0).orRank index 1
    have one : Nat.toDigits 10 1 = ['1'] := rfl
    convert either using 1
    simp [toString, one]
  · exact (compares_rank index rank).encloses

/-- The text of the condition on an extent. -/
theorem encloses_extentCondition (index rank axis : Nat) : Encloses
    (if rank = 1 then
        s!"PyArray_NDIM(ax[{index}]) == 0 || _n == (int)(PyArray_DIMS(ax[{index}])[{axis}])"
      else s!"_n == (int)(PyArray_DIMS(ax[{index}])[{axis}])").toList
    (extentCondition index rank axis) := by
  unfold extentCondition
  split
  · have either := (compares_extent index axis).orRank index 0
    convert either using 1
    simp [toString]
  · exact (compares_extent index axis).encloses

/-! ### The guard -/

theorem CSource.Closed.star {cs : List Char} {ts : List Terminal} (closed : Closed cs ts)
    (opens : cs.head? = some '(') : Closed ('*' :: cs) (.mark .star :: ts) := by
  intro rest
  obtain ⟨more, rfl⟩ := List.head?_eq_some_iff.mp opens
  rw [List.cons_append, terminals_symbol (by decide) (by simp; decide) (by simp) rfl, closed,
    Option.map_map]
  rfl

/-- Further factors of a product. -/
theorem reads_factors {texts : List (List Char)} {extents : List Expr}
    (operands : List.Forall₂ (fun text x => Operand text x ∧ text.head? = some '(') texts extents) :
    ∃ us, Closed (texts.flatMap ('*' :: ·)) us ∧ ∀ ts x, ReadsAt .multiplicative ts x →
      ReadsAt .multiplicative (ts ++ us) (extents.foldl (.binary (.arithmetic .mul)) x) := by
  induction operands with
  | nil =>
      refine ⟨[], Closed.nil, fun ts x read => ?_⟩
      rw [List.append_nil]
      exact read
  | cons operand _ ih =>
      obtain ⟨⟨vs, closed, factor⟩, opens⟩ := operand
      obtain ⟨us, closedToo, product⟩ := ih
      have multiplies : operator? (.mark .star) = some (.arithmetic .mul) := rfl
      refine ⟨.mark .star :: vs ++ us, (closed.star opens).append closedToo, fun ts x read => ?_⟩
      have next := product _ _ (read.factor factor multiplies rfl)
      rwa [List.append_assoc] at next

/-- The text of the guard. -/
theorem encloses_guardExpr {texts : List (List Char)} {extents : List Expr}
    (operands : List.Forall₂ (fun text x => Operand text x ∧ text.head? = some '(') texts extents) :
    Encloses (['1'] ++ texts.flatMap ('*' :: ·) ++ " != 0".toList) (guardExpr extents) := by
  obtain ⟨us, closed, product⟩ := reads_factors operands
  have ending : Closed " != 0)".toList [.mark .unequal, .number ['0'], .mark .closing] :=
    closed_of_settled (by decide)
  have stops : (texts.flatMap ('*' :: ·) ++ " != 0)".toList).head?.any
      fun d => !isNameChar d && d != '.' := by
    cases texts with
    | nil => decide
    | cons text texts => simp; decide
  have whole := (closed.append ending).number 1 stops
  refine ⟨[.number ['1']] ++ us ++ [.mark .unequal, .number ['0']], ?_, fun rest => ?_⟩
  · convert whole using 1
    · have one : Nat.toDigits 10 1 = ['1'] := rfl
      simp [one]
    · simp
      rfl
  · have factors := product _ _ (ReadsAt.number ['1']).single
    have zero : Reads (.expression 3) (.number ['0'] :: .mark .closing :: rest) (.number ['0'])
        (.mark .closing :: rest) := .expression (.number (.suffixesEnd rfl)) (.operatorsEnd rfl)
    rw [List.append_assoc]
    exact factors 0 (by omega) _ _ _ rfl (.operator rfl (by decide) zero (.operatorsEnd rfl))

/-! ### Refusals -/

/-- Tests a condition. If it does not hold, an error is printed and the wrapper left. -/
def refusalCode (condition : Expr) (error : CallError) : Code :=
  .conditional (.negation condition) (.block (.ofList
    [.perform (.call (.name "sprintf") (.arguments (.name "e") (.text (escape error.message).toList))),
     .jump "err"]))

/-- A condition that refuses an argument. -/
theorem writes_refusal {lead indent condition : String} {x : Expr}
    (opens : Closed lead.toList [.ifWord, .mark .opening]) (blank : Closed indent.toList [])
    (holds : Encloses condition.toList x) (error : CallError) :
    Writes (lineChars ((lead ++ "!(" ++ condition ++ ")) \x7b") :: refuse indent error))
      [refusalCode x error] := by
  have prints : Closed "sprintf(e,".toList
      [.name "sprintf", .mark .opening, .name "e", .mark .comma] := closed_of_settled (by decide)
  have printed : Closed ");\n".toList [.mark .closing, .mark .semicolon] :=
    closed_of_settled (by decide)
  have jumps : Closed "goto err;".toList [.gotoWord, .name "err", .mark .semicolon] :=
    closed_of_settled (by decide)
  have closes : Closed "\x7d\n".toList [.mark .closingBrace] := closed_of_settled (by decide)
  have print := Writes.single (blank.append (prints.append ((closed_quoted error.message).append
    printed))) fun rest => .perform (.expression (.name (.call (.moreArguments
      (.expression (.name (.suffixesEnd rfl)) (.operatorsEnd rfl))
      (.oneArgument (.expression (.text (.suffixesEnd rfl)) (.operatorsEnd rfl)) (by simp)))
      (.suffixesEnd rfl))) (.operatorsEnd rfl))
  have jump := Writes.single (blank.append jumps) fun rest => .jump
  have whole := Writes.conditional opens holds.negation (print.append jump) closes
  convert whole using 1
  · simp [lineChars, refuse, toString]
  · rfl

/-! ### Local variables -/

theorem isIdentifier_lower {name : String} (isName : IsIdentifier name.toList) :
    IsIdentifier (lower name).toList := by
  obtain ⟨c, cs, spelled, start, inside⟩ := isName
  refine ⟨c.toLower, cs.map Char.toLower, by rw [toList_lower, spelled]; rfl,
    isNameStart_toLower start, ?_⟩
  rw [List.all_map, List.all_eq_true]
  intro d member
  exact isNameChar_toLower (List.all_eq_true.mp inside d member)

/-- The local variable of a name is no reserved word. -/
theorem isFree_sizingLocal {name : String} (isName : IsIdentifier name.toList) :
    IsFree (sizingLocal name).toList := by
  have rare : reservedWords.all fun entry => !decide ("__".toList <:+: entry.1) := by decide
  rw [sizingLocal, String.toList_append]
  exact isFree_of_infix (isIdentifier_append (isIdentifier_lower isName) (by decide))
    (List.suffix_append _ _).isInfix rare

theorem isIdentifier_of_mem_names {expression name : String}
    (member : name ∈ Expression.names expression) : IsIdentifier name.toList := by
  obtain ⟨token, listed, rfl⟩ := List.mem_map.mp member
  obtain ⟨isToken, isName⟩ := List.mem_filter.mp listed
  have wellFormed := Expression.wellFormed_of_mem_tokensFrom isToken
  rw [Expression.Token.WellFormed, beq_iff_eq.mp isName] at wellFormed
  rw [Expression.Token.text, String.toList_ofList]
  exact wellFormed

namespace Routine

variable {routine : Routine}

/-- A sizing argument goes under a name that some bound mentions. -/
theorem exists_boundName {argument : Argument} (member : argument ∈ routine.sizingArguments) :
    ∃ name ∈ routine.boundNames, routine.find? name = some argument := by
  have candidate := mem_of_mem_distinctBy member
  obtain ⟨found, -⟩ := List.mem_filter.mp candidate
  exact List.mem_filterMap.mp found

theorem isIdentifier_of_mem_boundNames {name : String} (member : name ∈ routine.boundNames) :
    IsIdentifier name.toList := by
  obtain ⟨argument, -, member⟩ := List.mem_flatMap.mp member
  obtain ⟨bound, -, member⟩ := List.mem_flatMap.mp member
  rcases List.mem_append.mp member with inLow | inHigh
  · exact isIdentifier_of_mem_names inLow
  · exact isIdentifier_of_mem_names inHigh

/-- The local variable of a sizing argument is no reserved word. -/
theorem isFree_sizingArgument {argument : Argument} (member : argument ∈ routine.sizingArguments) :
    IsFree (sizingLocal argument.name).toList := by
  obtain ⟨name, used, found⟩ := exists_boundName member
  have same : sizingLocal argument.name = sizingLocal name := by
    rw [sizingLocal, sizingLocal, sameName_iff.mp (sameName_of_find? found)]
  rw [same]
  exact isFree_sizingLocal (isIdentifier_of_mem_boundNames used)

end Routine

namespace Context

variable {ctx : Context} {routine : Routine}

/-- Declares the local variable of a sizing argument. -/
def sizeCode (argument : Argument) : Code :=
  .define "long" (sizingLocal argument.name) (contentExpr argument.position)

/-- The line that declares a local variable. -/
theorem writes_sizingRead {name : String} (free : IsFree name.toList) (position : Nat) :
    Writes ((SizingRead.line ⟨"long", name, position⟩).toList ++ ['\n'])
      [.define "long" name (contentExpr position)] := by
  have lead : Closed "  long ".toList [.typeName "long"] := closed_of_settled (by decide)
  have points : Closed " = *(long *)(PyArray_BYTES(ax[".toList
      [.mark .assign, .mark .star, .mark .opening, .typeName "long", .mark .star, .mark .closing,
       .mark .opening, .name "PyArray_BYTES", .mark .opening, .name "ax", .mark .openingBracket] :=
    closed_of_settled (by decide)
  have ending : Closed "]));\n".toList
      [.mark .closingBracket, .mark .closing, .mark .closing, .mark .semicolon] :=
    closed_of_settled (by decide)
  have whole := lead.append ((points.word free (by decide)).append
    (ending.number position (by decide)))
  have pointer (rest : List Terminal) : Reads .operand
      (.mark .opening :: (bufferCall "PyArray_BYTES" position ++ .mark .closing :: .mark .semicolon ::
        rest)) (.call (.name "PyArray_BYTES") (bufferExpr position)) (.mark .semicolon :: rest) :=
    .parenthesized (.expression (reads_bufferCall (.suffixesEnd rfl)) (.operatorsEnd rfl))
      (.suffixesEnd rfl)
  have written := Writes.single whole fun rest =>
    .define (.expression (.pointed (.pointerCast (pointer rest))) (.operatorsEnd rfl))
  convert written using 1
  · simp [SizingRead.line, toString]
  · rfl

/-! ### Extents -/

/-- The expression that C reads in the text of an extent. -/
def boundExpr (ctx : Context) (routine : Routine) (bound : Bound) : Expr :=
  extentExpr (ctx.scope.wordExpr routine.binding bound.high)
    (ctx.scope.wordExpr routine.binding bound.low)

/-- **An extent**, as C reads it. -/
theorem operand_bound (tables : ctx.scope.NamesTables) {bound : Bound} {extent : Extent}
    (words : IsWord bound.high ∧ IsWord bound.low)
    (rendered : ctx.scope.extent routine.binding bound = .ok extent) :
    Operand (ctx.scope.extentText extent).toList (ctx.boundExpr routine bound) := by
  have free {word : String} (isWord : IsWord word) (mentions : isLiteral word = false)
      (label : String) (bound : routine.binding word = some label) : IsFree label.toList := by
    rw [Routine.binding, Option.ite_none_right_eq_some] at bound
    obtain rfl := Option.some.inj bound.2
    exact isFree_sizingLocal (isWord.isIdentifier mentions)
  obtain ⟨renderedHigh, renderedLow⟩ := Scope.extent_eq_ok_iff.mp rendered
  exact Scope.operand_extentText (Scope.encloses_word tables words.1 (free words.1) renderedHigh)
    (Scope.encloses_word tables words.2 (free words.2) renderedLow)

/-- The test of a declared extent. -/
def extentCode (ctx : Context) (routine : Routine) (index rank : Nat) (known : Nat × Bound) :
    List Code :=
  [.assign (.name "_n") (.cast "int" (ctx.boundExpr routine known.2)),
   refusalCode (extentCondition index rank known.1)
    { routine := routine.name, argument := index + 1, fault := .wrongDimension (known.1 + 1) }]

/-- The lines of the test of a declared extent. -/
theorem writes_extentLines (tables : ctx.scope.NamesTables) {bound : Bound} {known : KnownExtent}
    (words : IsWord bound.high ∧ IsWord bound.low)
    (rendered : ctx.scope.extent routine.binding bound = .ok known.extent) (check : ShapeCheck) :
    Writes (lineChars (check.extentLines routine ctx.scope known))
      (ctx.extentCode routine check.index check.rank (known.dimension, bound)) := by
  obtain ⟨ts, closed, operand⟩ := operand_bound tables words rendered
  have assigns : Closed "    _n = (int)".toList
      [.name "_n", .mark .assign, .mark .opening, .typeName "int", .mark .closing] :=
    closed_of_settled (by decide)
  have ending : Closed ";\n".toList [.mark .semicolon] := closed_of_settled (by decide)
  have opens : Closed "    if (".toList [.ifWord, .mark .opening] := closed_of_settled (by decide)
  have indent : Closed "      ".toList [] := closed_of_settled (by decide)
  have counter : ReadsAt .unary [.name "_n"] (.name "_n") := by
    intro rest ends
    exact .name (.suffixesEnd ends)
  have value : ReadsAt .unary ([.mark .opening, .typeName "int", .mark .closing] ++ ts)
      (.cast "int" (ctx.boundExpr routine bound)) := by
    intro rest ends
    exact .cast (operand rest ends)
  have assign : Writes ("    _n = (int)".toList ++ ((ctx.scope.extentText known.extent).toList ++
      ";\n".toList)) [.assign (.name "_n") (.cast "int" (ctx.boundExpr routine bound))] := by
    refine Writes.single (assigns.append (closed.append ending)) fun rest => ?_
    simpa using counter.assign value rest
  have refusal := writes_refusal opens indent
    (encloses_extentCondition check.index check.rank known.dimension)
    { routine := routine.name, argument := check.index + 1,
      fault := .wrongDimension (known.dimension + 1) }
  convert assign.append refusal using 1
  · unfold ShapeCheck.extentLines
    split
    · simp [lineChars, toString]
    · simp [lineChars, toString]
  · rfl

end Context

/-! ### The checks of an argument -/

namespace Argument

/-- Every bound that is not left open is a single word. -/
def HasWordBounds (argument : Argument) : Prop :=
  ∀ bound ∈ argument.bounds, bound.isAssumed = false → IsWord bound.high ∧ IsWord bound.low

theorem HasWordBounds.known {argument : Argument} (words : argument.HasWordBounds)
    {known : Nat × Bound} (member : known ∈ argument.knownBounds) :
    IsWord known.2.high ∧ IsWord known.2.low := by
  obtain ⟨listed, declared⟩ := getElem?_bounds_of_known member
  exact words known.2 (List.mem_of_getElem? listed) declared

end Argument

namespace Context

variable {ctx : Context} {routine : Routine}

/-- The tests of the declared extents of an argument, unless it has no elements. -/
def guardedCode (ctx : Context) (routine : Routine) (index : Nat) (argument : Argument) : List Code :=
  if argument.knownBounds.isEmpty then []
  else
    [.conditional (guardExpr (argument.knownBounds.map fun known => ctx.boundExpr routine known.2))
      (.block (.ofList (argument.knownBounds.flatMap
        (ctx.extentCode routine index argument.rank))))]

/-- The checks of an argument. -/
def checkCode (ctx : Context) (routine : Routine) (index : Nat) (argument : Argument) : List Code :=
  [.assign (.name "argno") (.number (Nat.toDigits 10 (index + 1))),
   refusalCode (rankCondition index argument.rank)
    { routine := routine.name, argument := index + 1, fault := .wrongRank }] ++
  ctx.guardedCode routine index argument

/-- An extent that is the host form of a known bound of two words. -/
def Renders (ctx : Context) (routine : Routine) (known : Nat × Bound) (extent : KnownExtent) : Prop :=
  (IsWord known.2.high ∧ IsWord known.2.low) ∧ known.1 = extent.dimension ∧
    ctx.scope.extent routine.binding known.2 = .ok extent.extent

/-- The declared extents of an argument are those of its known bounds, in order. -/
theorem renders_knownExtents {argument : Argument} {extents : List KnownExtent}
    (words : argument.HasWordBounds) (done : ctx.knownExtents routine argument = .ok extents) :
    List.Forall₂ (ctx.Renders routine) argument.knownBounds extents := by
  have each := collect_eq_ok_iff.mp done
  rw [← List.forall₂_eq_eq_eq, List.forall₂_map_left_iff, List.forall₂_map_right_iff] at each
  refine (List.forall₂_and_left _ _).mpr ⟨fun known member => ?_, each.imp fun known extent rendered => ?_⟩
  · exact words.known member
  · obtain ⟨inner, isInner, same⟩ := bind_eq_ok_iff.mp rendered
    obtain rfl := Except.ok.inj same
    exact ⟨rfl, isInner⟩

/-- The lines that test the rank. -/
theorem writes_rankLines (check : ShapeCheck) :
    Writes (lineChars (check.rankLines routine))
      [.assign (.name "argno") (.number (Nat.toDigits 10 (check.index + 1))),
       refusalCode (rankCondition check.index check.rank)
        { routine := routine.name, argument := check.index + 1, fault := .wrongRank }] := by
  have assigns : Closed "  argno = ".toList [.name "argno", .mark .assign] :=
    closed_of_settled (by decide)
  have ending : Closed ";\n".toList [.mark .semicolon] := closed_of_settled (by decide)
  have opens : Closed "  if (".toList [.ifWord, .mark .opening] := closed_of_settled (by decide)
  have indent : Closed "    ".toList [] := closed_of_settled (by decide)
  have counter : ReadsAt .unary [.name "argno"] (.name "argno") := by
    intro rest ends
    exact .name (.suffixesEnd ends)
  have assign := Writes.single (assigns.append (ending.number (check.index + 1) (by decide)))
    fun rest => counter.assign (.number (Nat.toDigits 10 (check.index + 1))) rest
  have refusal := writes_refusal opens indent (encloses_rankCondition check.index check.rank)
    { routine := routine.name, argument := check.index + 1, fault := .wrongRank }
  convert assign.append refusal using 1
  · unfold ShapeCheck.rankLines
    dsimp only
    split
    · simp [lineChars, toString]
    · simp [lineChars, toString]
  · rfl

/-- The lines that test declared extents. -/
theorem writes_extentTests (tables : ctx.scope.NamesTables) {bounds : List (Nat × Bound)}
    {extents : List KnownExtent} (each : List.Forall₂ (ctx.Renders routine) bounds extents)
    (check : ShapeCheck) :
    Writes (lineChars (extents.flatMap (check.extentLines routine ctx.scope)))
      (bounds.flatMap (ctx.extentCode routine check.index check.rank)) := by
  induction each with
  | nil => exact .blank Closed.nil
  | @cons known extent bounds extents first _ ih =>
      obtain ⟨words, dimension, rendered⟩ := first
      have lines := writes_extentLines tables words rendered check
      rw [← dimension] at lines
      rw [List.flatMap_cons, List.flatMap_cons, lineChars_append]
      exact lines.append ih

/-- The text of the guard of declared extents. -/
theorem encloses_guard (tables : ctx.scope.NamesTables) {bounds : List (Nat × Bound)}
    {extents : List KnownExtent} (each : List.Forall₂ (ctx.Renders routine) bounds extents) :
    Encloses (ctx.scope.nonzeroGuard (extents.map KnownExtent.extent)).toList
      (guardExpr (bounds.map fun known => ctx.boundExpr routine known.2)) := by
  have operands : List.Forall₂ (fun text x => Operand text x ∧ text.head? = some '(')
      (extents.map fun extent => (ctx.scope.extentText extent.extent).toList)
      (bounds.map fun known => ctx.boundExpr routine known.2) := by
    rw [List.forall₂_map_left_iff, List.forall₂_map_right_iff]
    refine each.flip.imp fun extent known rendered => ⟨operand_bound tables rendered.1 rendered.2.2, ?_⟩
    simp [Scope.extentText, toString]
  convert encloses_guardExpr operands using 1
  simp [Scope.nonzeroGuard, List.flatMap_map, Function.comp_def]

/-- The lines that test the extents. -/
theorem writes_guardedLines (tables : ctx.scope.NamesTables) {argument : Argument}
    {extents : List KnownExtent}
    (each : List.Forall₂ (ctx.Renders routine) argument.knownBounds extents) (check : ShapeCheck)
    (ranked : check.rank = argument.rank) :
    Writes (lineChars (check.guardedLines routine ctx.scope extents))
      (ctx.guardedCode routine check.index argument) := by
  have guard := encloses_guard tables each
  have tests := writes_extentTests tables each check
  have opens : Closed "  if (".toList [.ifWord, .mark .opening] := closed_of_settled (by decide)
  have closes : Closed "  \x7d\n".toList [.mark .closingBrace] := closed_of_settled (by decide)
  have whole := Writes.conditional opens guard tests closes
  have sameLength := each.length_eq
  unfold ShapeCheck.guardedLines guardedCode
  rw [← ranked]
  cases extents with
  | nil =>
      rw [List.length_eq_zero_iff.mp sameLength]
      exact .blank Closed.nil
  | cons extent extents =>
      cases bounds : argument.knownBounds with
      | nil => simp [bounds] at sameLength
      | cons known others =>
          rw [bounds] at whole
          convert whole using 1
          · simp [lineChars, toString]
          · rfl

/-- The lines that check an argument. -/
theorem writesLines_check (tables : ctx.scope.NamesTables) (routine : Routine) {argument : Argument}
    (index : Nat) (words : argument.HasWordBounds) :
    WritesLines (ShapeCheck.lines ⟨index, argument.rank, ctx.knownExtents routine argument⟩ routine
      ctx.scope) (ctx.checkCode routine index argument) := by
  unfold ShapeCheck.lines
  refine .append (.ofList (writes_rankLines _)) ?_
  dsimp only
  cases done : ctx.knownExtents routine argument with
  | error error =>
      intro lines spelled
      cases lines <;> cases spelled
  | ok extents =>
      exact .ofList (writes_guardedLines tables (renders_knownExtents words done) _ rfl)

end Context

/-! ### All checks -/

/-- The arguments that are checked, with their places in the argument list. -/
def Routine.checkedArguments (routine : Routine) : List (Nat × Argument) :=
  (routine.arguments.mapIdx fun index argument => (index, argument)).filter
    fun (_, argument) => argument.isChecked

/-- The places of arguments are their positions. -/
theorem Routine.mapIdx_arguments {routine : Routine} (positioned : routine.Positioned) :
    (routine.arguments.mapIdx fun index argument => (index, argument)) =
      routine.arguments.map fun argument => (argument.position, argument) := by
  refine List.ext_getElem? fun index => ?_
  rw [List.getElem?_mapIdx, List.getElem?_map]
  cases declared : routine.arguments[index]? with
  | none => rfl
  | some argument =>
      rw [Option.map_some, Option.map_some, position_of_getElem? positioned declared]

theorem Routine.mem_arguments_of_sizing {routine : Routine} {argument : Argument}
    (member : argument ∈ routine.sizingArguments) : argument ∈ routine.arguments := by
  obtain ⟨name, -, found⟩ := exists_boundName member
  exact List.mem_of_find?_eq_some found

theorem Routine.mem_arguments_of_checked {routine : Routine} {checked : Nat × Argument}
    (member : checked ∈ routine.checkedArguments) : checked.2 ∈ routine.arguments := by
  obtain ⟨listed, -⟩ := List.mem_filter.mp member
  obtain ⟨index, inside, rfl⟩ := List.mem_mapIdx.mp listed
  exact List.getElem_mem inside

namespace Context

variable {ctx : Context} {routine : Routine}

/-- **The checks of the shapes of a routine's arguments.** -/
def shapeCode (ctx : Context) (routine : Routine) : List Code :=
  if routine.checkedArguments.isEmpty then []
  else
    [.block (.ofList (.declare "int" "_n" :: routine.sizingArguments.map sizeCode ++
      routine.checkedArguments.flatMap fun (index, argument) =>
        ctx.checkCode routine index argument))]

/-- The lines that declare local variables. -/
theorem writes_declarations (long : ctx.types.host .integer = "long")
    (integers : ∀ argument ∈ routine.arguments, argument.type = .integer) :
    Writes (lineChars ("  int _n;" :: (ctx.sizingReads routine).map SizingRead.line))
      (.declare "int" "_n" :: routine.sizingArguments.map sizeCode) := by
  have declares : Closed ("  int _n;".toList ++ ['\n'])
      [.typeName "int", .name "_n", .mark .semicolon] := by
    have chunk : Closed "  int _n;\n".toList [.typeName "int", .name "_n", .mark .semicolon] :=
      closed_of_settled (by decide)
    exact chunk
  have sizes : Writes (lineChars ((ctx.sizingReads routine).map SizingRead.line))
      (routine.sizingArguments.map sizeCode) := by
    rw [lineChars, List.flatMap_map, sizingReads, List.flatMap_map, List.map_eq_flatMap]
    refine Writes.flatMap fun argument member => ?_
    rw [integers argument (Routine.mem_arguments_of_sizing member), long]
    exact writes_sizingRead (Routine.isFree_sizingArgument member) argument.position
  exact (Writes.single declares fun rest => .declare).append sizes

/-- **The lines that check the shapes of a routine's arguments.** -/
theorem writesLines_shapeCheckLines (tables : ctx.scope.NamesTables)
    (long : ctx.types.host .integer = "long")
    (integers : ∀ argument ∈ routine.arguments, argument.type = .integer)
    (words : ∀ argument ∈ routine.arguments, argument.HasWordBounds) :
    WritesLines (ctx.shapeCheckLines routine) (ctx.shapeCode routine) := by
  have checks := WritesLines.flatMap fun checked (member : checked ∈ routine.checkedArguments) =>
    writesLines_check tables routine checked.1 (words _ (Routine.mem_arguments_of_checked member))
  have opens : Closed ("  \x7b".toList ++ ['\n']) [.mark .openingBrace] := by
    have chunk : Closed "  \x7b\n".toList [.mark .openingBrace] := closed_of_settled (by decide)
    exact chunk
  have closes : Closed ("  \x7d".toList ++ ['\n']) [.mark .closingBrace] := by
    have chunk : Closed "  \x7d\n".toList [.mark .closingBrace] := closed_of_settled (by decide)
    exact chunk
  have block := WritesLines.block opens
    ((WritesLines.ofList (writes_declarations long integers)).append checks) closes
  unfold shapeCheckLines shapeCode
  have listed : ctx.shapeChecks routine = routine.checkedArguments.map fun (index, argument) =>
    ⟨index, argument.rank, ctx.knownExtents routine argument⟩ := rfl
  dsimp only
  rw [listed, List.isEmpty_map]
  split
  · have nothing : Writes (lineChars []) [] := .blank Closed.nil
    exact .ofList nothing
  · rw [List.flatMap_map]
    exact block

end Context

end ForeignGlue
