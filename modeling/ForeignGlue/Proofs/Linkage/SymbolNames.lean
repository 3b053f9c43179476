/-
**Names of generated subroutines.**

The two sides call each other by names that are put together from the module, a role and the name of a
variable, folded where they are long, and spelled for the linker. The foreign side ignores case.

* `Toolchain.linkName_eq_iff`: a linker tells apart just what the foreign side tells apart;
* `Interface.nodup_endings`: no two names of a module end alike;
* `Generator.mem_namings_of_mem_heads`: these are the names of the generated subroutines;
* `Generator.namings_clash`: so two of them can only be the same if one is long enough to be folded.
-/

import ForeignGlue.Proofs.Generation.Resolution
import ForeignGlue.Proofs.Linkage.Closure
import Mathlib.Data.List.Nodup

namespace ForeignGlue

open ForeignGlue.Source
open ForeignGlue.Text

/-! ### The linker -/

namespace Toolchain

variable (toolchain : Toolchain)

/-- What stands after a symbol in its link name. -/
def suffix (symbol : String) : String :=
  if toolchain.name == "xlf" then ""
  else if toolchain.doublesUnderscore && (lower symbol).toList.contains '_' then "__"
  else "_"

theorem linkName_eq (symbol : String) :
    toolchain.linkName symbol = lower symbol ++ toolchain.suffix symbol := by
  unfold linkName suffix
  split
  · exact String.append_empty.symm
  · split <;> rfl

/-- A second underscore is no part of a symbol without one. -/
theorem doubled_ne_single {first second : String} (plain : '_' ∉ (lower second).toList) :
    lower first ++ "__" ≠ lower second ++ "_" := by
  intro same
  have chars : ((lower first).toList ++ ['_']) ++ ['_'] = (lower second).toList ++ ['_'] := by
    simpa using congrArg String.toList same
  rw [← List.append_cancel_right chars] at plain
  exact plain (List.mem_append_right _ List.mem_cons_self)

theorem suffix_eq_of_linkName {first second : String}
    (same : toolchain.linkName first = toolchain.linkName second) :
    toolchain.suffix first = toolchain.suffix second := by
  rw [linkName_eq, linkName_eq] at same
  unfold suffix at same ⊢
  by_cases bare : toolchain.name == "xlf"
  · rw [if_pos bare, if_pos bare]
  · rw [if_neg bare, if_neg bare] at same ⊢
    have plain {symbol other : String}
        (doubled : (toolchain.doublesUnderscore && (lower symbol).toList.contains '_') = true)
        (single : ¬(toolchain.doublesUnderscore && (lower other).toList.contains '_') = true) :
        '_' ∉ (lower other).toList := fun has =>
      single (Bool.and_eq_true_iff.mpr
        ⟨(Bool.and_eq_true_iff.mp doubled).1, List.contains_iff_mem.mpr has⟩)
    by_cases firstDoubled :
        (toolchain.doublesUnderscore && (lower first).toList.contains '_') = true
    · by_cases secondDoubled :
          (toolchain.doublesUnderscore && (lower second).toList.contains '_') = true
      · rw [if_pos firstDoubled, if_pos secondDoubled]
      · rw [if_pos firstDoubled, if_neg secondDoubled] at same
        exact absurd same (doubled_ne_single (plain firstDoubled secondDoubled))
    · by_cases secondDoubled :
          (toolchain.doublesUnderscore && (lower second).toList.contains '_') = true
      · rw [if_neg firstDoubled, if_pos secondDoubled] at same
        exact absurd same.symm (doubled_ne_single (plain secondDoubled firstDoubled))
      · rw [if_neg firstDoubled, if_neg secondDoubled]

/-- **A linker tells apart just what the foreign side tells apart.** -/
theorem linkName_eq_iff {first second : String} :
    toolchain.linkName first = toolchain.linkName second ↔ sameName first second := by
  rw [sameName_iff]
  constructor
  · intro same
    have suffixes := toolchain.suffix_eq_of_linkName same
    rw [linkName_eq, linkName_eq, suffixes] at same
    exact String.append_left_inj _ |>.mp same
  · intro same
    rw [linkName, linkName, same]

end Toolchain

/-! ### What names are put together from -/

/-- The roles of the binders in the host file. -/
def binderRoles : List String :=
  ["setscalarpointers", "setderivedtypepointers", "setarraypointers", "setarraypointersobj",
   "setarraydims"]

/-- The roles of the subroutines and binders that a module has one of. -/
def moduleRoles : List String :=
  ["passpointers", "nullifypointers", "data"] ++ binderRoles

/-- The roles of the subroutines for one variable. -/
def variableRoles : List String :=
  ["setpointer", "getpointer"]

namespace Interface

variable {interface : Interface}

/-- What names are generated from: a role, and the variable that it is about, if any. -/
def namings (interface : Interface) : List (String × String) :=
  moduleRoles.map (·, "") ++
    interface.visibleVariables.flatMap fun v => variableRoles.map (·, v.name)

/-- What a generated name has after the module, without regard to case. -/
def ending (naming : String × String) : List Char :=
  (naming.1.toList ++ naming.2.toList).map Char.toLower

/-- No two variables have the same name. -/
def HasDistinctVariables (interface : Interface) : Prop :=
  interface.visibleVariables.Pairwise fun v w => ¬sameName v.name w.name

/-- The roles of variables are of one length, and they differ. -/
theorem ending_variable_ne {role other name otherName : String} (known : role ∈ variableRoles)
    (otherKnown : other ∈ variableRoles) (different : role ≠ other ∨ ¬sameName name otherName) :
    ending (role, name) ≠ ending (other, otherName) := by
  have sizes : ∀ role ∈ variableRoles, (role.toList.map Char.toLower).length = 10 := by decide
  have apart : ∀ role ∈ variableRoles, ∀ other ∈ variableRoles,
      role.toList.map Char.toLower = other.toList.map Char.toLower → role = other := by
    decide
  intro same
  rw [ending, ending, List.map_append, List.map_append] at same
  obtain ⟨sameRole, sameVariable⟩ :=
    List.append_inj same ((sizes role known).trans (sizes other otherKnown).symm)
  rcases different with different | different
  · exact different (apart role known other otherKnown sameRole)
  · rw [sameName_iff] at different
    refine different (String.toList_inj.mp ?_)
    rw [toList_lower, toList_lower]
    exact sameVariable

/-- No role of the module starts like a role of variables. -/
theorem ending_module_ne {role other name : String} (known : role ∈ moduleRoles)
    (otherKnown : other ∈ variableRoles) : ending (role, "") ≠ ending (other, name) := by
  have apart : ∀ role ∈ moduleRoles, ∀ other ∈ variableRoles,
      ¬other.toList.map Char.toLower <+: ending (role, "") := by
    decide
  intro same
  refine apart role known other otherKnown ?_
  rw [same, ending, List.map_append]
  exact List.prefix_append _ _

/-- **No two names end alike**, if no two variables have the same name. -/
theorem nodup_endings (distinct : interface.HasDistinctVariables) :
    (interface.namings.map ending).Nodup := by
  rw [namings, List.map_append, List.nodup_append]
  refine ⟨by decide, ?_, ?_⟩
  · rw [List.map_flatMap, List.nodup_flatMap]
    constructor
    · intro v _
      have setterApart : ending ("setpointer", v.name) ≠ ending ("getpointer", v.name) :=
        ending_variable_ne (by decide) (by decide) (.inl (by decide))
      simpa [variableRoles] using setterApart
    · refine distinct.imp fun different => ?_
      simp only [Function.onFun, List.disjoint_left, List.mem_map]
      rintro _ ⟨_, ⟨role, known, rfl⟩, rfl⟩ ⟨_, ⟨other, otherKnown, rfl⟩, same⟩
      exact ending_variable_ne otherKnown known (.inr fun alike => different
        (sameName_iff.mpr (sameName_iff.mp alike).symm)) same
  · intro first firstMember second secondMember same
    obtain ⟨_, firstNaming, rfl⟩ := List.mem_map.mp firstMember
    obtain ⟨role, known, rfl⟩ := List.mem_map.mp firstNaming
    obtain ⟨_, secondNaming, rfl⟩ := List.mem_map.mp secondMember
    obtain ⟨v, -, secondNaming⟩ := List.mem_flatMap.mp secondNaming
    obtain ⟨other, otherKnown, rfl⟩ := List.mem_map.mp secondNaming
    exact ending_module_ne known otherKnown same

end Interface

namespace Context

variable (ctx : Context)

/-- A generated name before it is folded. -/
def fullName (naming : String × String) : String :=
  ctx.module ++ naming.1 ++ naming.2

/-- The name that is generated. -/
def symbolOf (naming : String × String) : String :=
  ctx.foreignSymbol naming.1 naming.2

/-- Whether a name is too long for the linker, so that it is folded. -/
def IsFolded (naming : String × String) : Prop :=
  Symbol.maxBytes < byteSize (ctx.fullName naming).toList

theorem symbolOf_of_not_isFolded {naming : String × String} (fits : ¬ctx.IsFolded naming) :
    ctx.symbolOf naming = ctx.fullName naming :=
  if_pos (Nat.le_of_not_lt fits)

/-- Names that end differently are the same only if one of them is folded. -/
theorem isFolded_of_sameName {first second : String × String}
    (different : Interface.ending first ≠ Interface.ending second)
    (same : sameName (ctx.symbolOf first) (ctx.symbolOf second)) :
    ctx.IsFolded first ∨ ctx.IsFolded second := by
  by_contra both
  obtain ⟨firstFits, secondFits⟩ := not_or.mp both
  rw [ctx.symbolOf_of_not_isFolded firstFits, ctx.symbolOf_of_not_isFolded secondFits,
    sameName_iff] at same
  have chars := congrArg String.toList same
  simp only [fullName, toList_lower, String.toList_append, List.append_assoc, List.map_append]
    at chars
  apply different
  rw [Interface.ending, Interface.ending, List.map_append, List.map_append]
  exact List.append_cancel_left chars

theorem defined_binderItems :
    ctx.binderItems.filterMap Item.defined? = binderRoles.map (ctx.linkSymbol · "") :=
  rfl

/-- The binders of the host are named for roles of the module. -/
theorem role_of_mem_binderItems {item : Item} {name : String} (member : item ∈ ctx.binderItems)
    (defined : item.defined? = some name) :
    ∃ role ∈ moduleRoles, name = ctx.linkSymbol role "" := by
  have listed := List.mem_filterMap.mpr ⟨item, member, defined⟩
  rw [defined_binderItems] at listed
  obtain ⟨role, known, rfl⟩ := List.mem_map.mp listed
  exact ⟨role, List.mem_append_right _ known, rfl⟩

end Context

/-! ### The names of a module -/

namespace Interface

variable {interface : Interface}

theorem module_mem_namings (role : String) (known : role ∈ moduleRoles) :
    (role, "") ∈ interface.namings :=
  List.mem_append_left _ (List.mem_map_of_mem known)

theorem variable_mem_namings {v : Variable} (visible : v ∈ interface.visibleVariables)
    (role : String) (known : role ∈ variableRoles) : (role, v.name) ∈ interface.namings :=
  List.mem_append_right _ (List.mem_flatMap.mpr ⟨v, visible, List.mem_map_of_mem known⟩)

end Interface

namespace Generator

variable (generator : Generator) (interface : Interface)

/-- What is visible and no timer was declared. -/
theorem visible_or_timer {v : Variable}
    (visible : v ∈ (generator.timed interface).visibleVariables) :
    v ∈ interface.visibleVariables ∨ ∃ routine, v = interface.timer routine := by
  rw [timed] at visible
  split at visible
  · simp only [Interface.addTimers, Interface.visibleVariables, List.filterMap_append,
      List.mem_append, List.filterMap_map, List.mem_filterMap] at visible
    rcases visible with declared | ⟨routine, -, timer⟩
    · exact .inl (List.mem_filterMap.mpr declared)
    · exact .inr ⟨routine, (Option.some.inj timer).symm⟩
  · exact .inl visible

/-- Timers have no subroutines, so a variable that has one was declared. -/
theorem visible_of_subroutine {v : Variable} {subroutine : Subroutine}
    (scalar : v ∈ (generator.context interface).inventory.scalars)
    (own : subroutine ∈ (generator.context interface).scalarSubroutines v) :
    ∃ declared ∈ interface.visibleVariables, declared.annotate = v := by
  obtain ⟨declared, visible, -, rfl⟩ := Inventory.mem_scalars.mp scalar
  rcases generator.visible_or_timer interface visible with known | ⟨routine, rfl⟩
  · exact ⟨declared, known, rfl⟩
  · cases own

/-- A binder is named for a declared variable. -/
theorem mem_namings_of_mem_binders {subroutine : Subroutine}
    (member : subroutine ∈ (generator.context interface).binders) :
    ∃ naming ∈ interface.namings,
      subroutine.name = (generator.context interface).symbolOf naming := by
  rcases List.mem_append.mp member with scalars | arrays
  · obtain ⟨v, scalar, own⟩ := List.mem_flatMap.mp scalars
    obtain ⟨declared, visible, rfl⟩ := generator.visible_of_subroutine interface scalar own
    rw [Context.scalarSubroutines, List.mem_append, List.mem_ite_nil_right,
      List.mem_ite_nil_right, List.mem_singleton, List.mem_singleton] at own
    rcases own with ⟨-, rfl⟩ | ⟨-, rfl⟩
    · exact ⟨_, Interface.variable_mem_namings visible "setpointer" (by decide), rfl⟩
    · exact ⟨_, Interface.variable_mem_namings visible "getpointer" (by decide), rfl⟩
  · obtain ⟨v, array, own⟩ := List.mem_flatMap.mp arrays
    obtain ⟨declared, visible, -, rfl⟩ := (generator.mem_arrays_context interface).mp array
    rw [Context.arraySubroutines, List.mem_ite_nil_right, List.mem_cons,
      List.mem_ite_nil_right, List.mem_singleton] at own
    rcases own with ⟨-, rfl | ⟨-, rfl⟩⟩
    · exact ⟨_, Interface.variable_mem_namings visible "setpointer" (by decide), rfl⟩
    · exact ⟨_, Interface.variable_mem_namings visible "getpointer" (by decide), rfl⟩

/-- **The generated subroutines** have names of the list. -/
theorem mem_namings_of_mem_heads {name : String}
    (member : name ∈ (generator.context interface).linkageStatements.heads) :
    ∃ naming ∈ interface.namings, name = (generator.context interface).symbolOf naming := by
  rw [Context.heads_linkageStatements] at member
  obtain ⟨subroutine, listed, rfl⟩ := List.mem_map.mp member
  rw [Context.subroutines_eq, List.mem_append, List.mem_append] at listed
  rcases listed with (common | own) | last
  · simp only [List.mem_cons, List.not_mem_nil, or_false] at common
    rcases common with rfl | rfl
    · exact ⟨_, Interface.module_mem_namings "passpointers" (by decide), rfl⟩
    · exact ⟨_, Interface.module_mem_namings "nullifypointers" (by decide), rfl⟩
  · rw [Context.ownBinders, List.mem_ite_nil_right] at own
    exact generator.mem_namings_of_mem_binders interface own.2
  · rw [List.mem_ite_nil_left, List.mem_singleton] at last
    obtain ⟨-, rfl⟩ := last
    exact ⟨_, Interface.module_mem_namings "data" (by decide), rfl⟩

/-- **Generated names do not clash**: the names of the subroutines and binders of a module, whose
variables have different names, are different to the foreign side, unless one of two is long enough to
be folded; and what is different to the foreign side is different to every linker. The names are those
of all subroutines of the foreign source and all binders of the host file. -/
theorem namings_clash (distinct : interface.HasDistinctVariables) :
    (interface.namings.Pairwise fun first second =>
      sameName ((generator.context interface).symbolOf first)
          ((generator.context interface).symbolOf second) →
        (generator.context interface).IsFolded first ∨
          (generator.context interface).IsFolded second) ∧
      (∀ (toolchain : Toolchain) (first second : String),
        toolchain.linkName first = toolchain.linkName second ↔ sameName first second) ∧
      (∀ name ∈ (generator.context interface).linkageStatements.heads,
        ∃ naming ∈ interface.namings, name = (generator.context interface).symbolOf naming) ∧
      ∀ item ∈ (generator.context interface).binderItems, ∀ name, item.defined? = some name →
        ∃ naming ∈ interface.namings, name = generator.options.toolchain.linkName
          ((generator.context interface).symbolOf naming) := by
  refine ⟨?_, fun toolchain _ _ => toolchain.linkName_eq_iff,
    fun _ => generator.mem_namings_of_mem_heads interface, fun item member name defined => ?_⟩
  · refine List.Pairwise.imp (fun different same => ?_)
      (List.pairwise_map.mp (Interface.nodup_endings distinct))
    exact (generator.context interface).isFolded_of_sameName different same
  · obtain ⟨role, known, rfl⟩ :=
      (generator.context interface).role_of_mem_binderItems member defined
    exact ⟨_, Interface.module_mem_namings role known, rfl⟩

/-- Variables whose names complete a role, and a routine to be timed. -/
def roleNames : Interface where
  module := "wxy"
  declarations :=
    [.variable { Variable.scalar "s" .integer "g" with dynamic := true },
     .variable (Variable.array "SOBJ" .real "g" [⟨"1", "s"⟩]),
     .routine (Routine.subroutine "step")]

/-- None of its names is folded, so no two are the same. -/
theorem namings_clash_roleNames :
    roleNames.HasDistinctVariables ∧
      roleNames.namings.Pairwise fun first second =>
        ¬sameName ((context {} roleNames).symbolOf first) ((context {} roleNames).symbolOf second) := by
  have distinct : roleNames.HasDistinctVariables := by
    unfold Interface.HasDistinctVariables
    decide
  have short : ∀ naming ∈ roleNames.namings, ¬(context {} roleNames).IsFolded naming := by
    unfold Context.IsFolded
    decide
  refine ⟨distinct, (namings_clash {} roleNames distinct).1.imp_of_mem ?_⟩
  intro first second firstMember secondMember clash same
  exact (clash same).elim (short first firstMember) (short second secondMember)

end Generator

end ForeignGlue
