/-
**Heads of subroutines on one line.**

The head of a generated subroutine has a folded name and a few parameters, so it is never broken, however
long the names of the module and the variable are.

* `Context.hasShortHead_of_mem_subroutines`: the name is a folded one, and in fixed form no subroutine
  has parameters;
* `Context.HasShortHead.fits`: so every head fits on a line of its dialect;
* `folded_heads_fit`: what folding does to any name, and what follows for the heads.
-/

import ForeignGlue.Proofs.Linkage.Closure
import ForeignGlue.Proofs.Source.ForeignText
import ForeignGlue.Proofs.Source.StatementLines
import ForeignGlue.Proofs.Symbol.Folding

namespace ForeignGlue

open ForeignGlue.Source
open ForeignGlue.Text

theorem byteSize_headLine (dialect : Dialect) (symbol : String) (parameters : List String) :
    byteSize (headLine dialect symbol parameters).toList =
      byteSize dialect.margin.toList + byteSize symbol.toList + byteSize (join "," parameters).toList +
        13 := by
  have keyword : byteSize "SUBROUTINE ".toList = 11 := by decide
  have opening : byteSize "(".toList = 1 := by decide
  have closing : byteSize ")".toList = 1 := by decide
  simp only [headLine, String.toList_append, byteSize_append, keyword, opening, closing]
  omega

namespace Context

variable (ctx : Context)

/-- The parameters that generated subroutines have. -/
def parameterLists : List (List String) :=
  [[], ["p__", "cobj__"], ["cobj__", "obj__", "createnew__"], ["p__", "cobj__", "dims__"],
   ["i__", "obj__"]]

/-- A subroutine with a folded name and few parameters; in fixed form it has none. -/
structure HasShortHead (subroutine : Subroutine) : Prop where
  folded : ∃ role label, subroutine.name = Symbol.fold (ctx.module ++ role ++ label)
  listed : subroutine.parameters ∈ parameterLists
  fixed : ctx.options.dialect = .fixed → subroutine.parameters = []

theorem hasShortHead_of_mem_subroutines {subroutine : Subroutine}
    (member : subroutine ∈ ctx.subroutines) : ctx.HasShortHead subroutine := by
  have none : [] ∈ parameterLists := List.mem_cons_self
  rw [subroutines_eq, List.mem_append, List.mem_append, ownBinders, List.mem_ite_nil_right,
    List.mem_ite_nil_left] at member
  rcases member with (common | ⟨free, own⟩) | ⟨-, last⟩
  · simp only [List.mem_cons, List.not_mem_nil, or_false] at common
    rcases common with rfl | rfl
    · exact ⟨⟨"passpointers", "", rfl⟩, none, fun _ => rfl⟩
    · exact ⟨⟨"nullifypointers", "", rfl⟩, none, fun _ => rfl⟩
  · have notFixed : ctx.options.dialect ≠ .fixed := by
      rw [isFree, beq_iff_eq] at free
      rw [free]
      decide
    rcases ctx.mem_binders_cases own with ⟨v, -, rfl | ⟨-, rfl⟩⟩ | ⟨v, -, rfl | rfl⟩
    · have listed : ["p__", "cobj__"] ∈ parameterLists := by decide
      exact ⟨⟨"setpointer", v.name, rfl⟩, listed, fun fixed => absurd fixed notFixed⟩
    · have listed : ["cobj__", "obj__", "createnew__"] ∈ parameterLists := by decide
      exact ⟨⟨"getpointer", v.name, rfl⟩, listed, fun fixed => absurd fixed notFixed⟩
    · have listed : ["p__", "cobj__", "dims__"] ∈ parameterLists := by decide
      exact ⟨⟨"setpointer", v.name, rfl⟩, listed, fun fixed => absurd fixed notFixed⟩
    · have listed : ["i__", "obj__"] ∈ parameterLists := by decide
      exact ⟨⟨"getpointer", v.name, rfl⟩, listed, fun fixed => absurd fixed notFixed⟩
  · rw [List.mem_singleton.mp last]
    exact ⟨⟨"data", "", rfl⟩, none, fun _ => rfl⟩

variable {ctx}

/-- **A head fits on a line.** -/
theorem HasShortHead.fits {subroutine : Subroutine} (short : ctx.HasShortHead subroutine) :
    byteSize (headLine ctx.options.dialect subroutine.name subroutine.parameters).toList ≤
      ctx.options.dialect.lineLimit := by
  obtain ⟨⟨role, label, folded⟩, listed, fixed⟩ := short
  have few : ∀ parameters ∈ parameterLists, byteSize (join "," parameters).toList ≤ 24 := by decide
  have parameters := few _ listed
  have name : byteSize subroutine.name.toList ≤ 31 := by
    rw [folded, byteSize_toList]
    exact Symbol.utf8ByteSize_fold_le _
  rw [byteSize_headLine]
  cases dialect : ctx.options.dialect with
  | free =>
      have margin : byteSize (Dialect.margin .free).toList = 0 := by decide
      have limit : Dialect.lineLimit .free = 132 := rfl
      omega
  | fixed =>
      have margin : byteSize (Dialect.margin .fixed).toList = 6 := by decide
      have none : byteSize (join "," subroutine.parameters).toList = 0 := by
        rw [fixed dialect]
        decide
      have limit : Dialect.lineLimit .fixed = 72 := rfl
      omega

/-- A head in the linkage is that of one of the subroutines. -/
theorem exists_subroutine_of_head {symbol : String} {parameters : List String}
    (member : .subroutine symbol parameters ∈ ctx.linkageStatements.statements) :
    ∃ subroutine ∈ ctx.subroutines, subroutine.name = symbol ∧ subroutine.parameters = parameters := by
  rw [Draft.mem_statements, linkageStatements, List.mem_flatMap] at member
  obtain ⟨subroutine, known, held⟩ := member
  rw [Subroutine.statements, List.mem_cons, Except.ok.injEq] at held
  rcases held with isHead | held
  · obtain ⟨rfl, rfl⟩ := Statement.subroutine.inj isHead
    exact ⟨subroutine, known, rfl, rfl⟩
  · cases (ctx.hasClosedBody_of_mem_subroutines known _ held).1

end Context

/-- **Folded names and heads that fit.** A name of at most 31 bytes is not folded. Any other keeps its
longest start of whole characters that has at most fifteen bytes, followed by sixteen small letters, one
for each byte of its digest; so it has from 28 to 31 bytes, and 31 if its first fifteen bytes are ASCII.
Folding a name again changes nothing. And the head of every generated subroutine, in both dialects and
for all names of modules and variables, has a folded name and is written as one line, unbroken. -/
theorem folded_heads_fit :
    (∀ name : String,
      (name.utf8ByteSize ≤ 31 → Symbol.fold name = name) ∧
      (31 < name.utf8ByteSize → ∃ kept letters,
        (Symbol.fold name).toList = kept ++ letters ∧
        Symbol.IsLongestStart 15 kept name.toList ∧
        Symbol.IsSpelling (Symbol.digest (Symbol.utf8Bytes name)) letters ∧ letters.length = 16 ∧
        28 ≤ (Symbol.fold name).utf8ByteSize ∧ (Symbol.fold name).utf8ByteSize ≤ 31 ∧
        ((∀ byte ∈ (Symbol.utf8Bytes name).take 15, byte.toNat < 128) →
          (Symbol.fold name).utf8ByteSize = 31)) ∧
      Symbol.fold (Symbol.fold name) = Symbol.fold name) ∧
    ∀ (ctx : Context) (symbol : String) (parameters : List String),
      .subroutine symbol parameters ∈ ctx.linkageStatements.statements →
      (∃ role label, symbol = Symbol.fold (ctx.module ++ role ++ label)) ∧
      (headLine ctx.options.dialect symbol parameters).utf8ByteSize ≤ ctx.options.dialect.lineLimit ∧
      (Statement.subroutine symbol parameters).line.write ctx.options.dialect =
        .ok (headLine ctx.options.dialect symbol parameters ++ "\n") := by
  refine ⟨fun name => ⟨Symbol.fold_of_short, fun long => ?_, Symbol.fold_fold name⟩, ?_⟩
  · obtain ⟨kept, letters, parts, isLongest, spelling⟩ := Symbol.exists_parts_of_fold long
    have size := Symbol.utf8ByteSize_of_parts parts spelling
    have count : letters.length = 16 := by rw [← spelling.length_eq, Symbol.length_digest]
    have beyond : 15 < byteSize name.toList := by
      rw [byteSize_toList]
      omega
    have unused := isLongest.lt_byteSize_add beyond
    refine ⟨kept, letters, parts, isLongest, spelling, count, by omega,
      Symbol.utf8ByteSize_fold_le name, fun ascii => ?_⟩
    rw [size, isLongest.byteSize_eq_of_ascii beyond ascii]
  · intro ctx symbol parameters member
    obtain ⟨subroutine, known, rfl, rfl⟩ := Context.exists_subroutine_of_head member
    have short := ctx.hasShortHead_of_mem_subroutines known
    have fits := short.fits
    refine ⟨short.folded, ?_, ?_⟩
    · rw [← byteSize_toList]
      exact fits
    · rw [← layOut_subroutine] at fits ⊢
      exact Line.write_of_fits fits

/-- A name of twenty characters with two bytes each. -/
def wideName : String :=
  "éééééééééééééééééééé"

/-- Of the wide name seven characters or more are kept, and the first head of a module of this name is one
line in fixed form. -/
theorem folded_heads_fit_wide :
    31 < wideName.utf8ByteSize ∧
    (∃ kept letters, (Symbol.fold wideName).toList = kept ++ letters ∧ 7 ≤ kept.length ∧
      letters.length = 16) ∧
    (Statement.subroutine (Symbol.fold (wideName ++ "passpointers")) []).line.write .fixed =
      .ok (headLine .fixed (Symbol.fold (wideName ++ "passpointers")) [] ++ "\n") := by
  have long : 31 < wideName.utf8ByteSize := by decide
  obtain ⟨names, heads⟩ := folded_heads_fit
  obtain ⟨-, folds, -⟩ := names wideName
  refine ⟨long, ?_, ?_⟩
  · obtain ⟨kept, letters, parts, isLongest, -, count, -⟩ := folds long
    have seven : List.replicate 7 'é' <+: wideName.toList := by decide
    exact ⟨kept, letters, parts, (isLongest.longest _ seven (by decide)).length_le, count⟩
  · let ctx : Context :=
      { inventory := .ofInterface { module := wideName }, options := { dialect := .fixed } }
    have named : ctx.foreignSymbol "passpointers" "" = Symbol.fold (wideName ++ "passpointers") :=
      congrArg Symbol.fold String.append_empty
    have first : .subroutine (ctx.foreignSymbol "passpointers" "") [] ∈
        ctx.linkageStatements.statements := List.mem_cons_self
    rw [← named]
    exact (heads ctx _ _ first).2.2

end ForeignGlue
