/-
**Names at file scope.**

The host file defines tables, functions and texts under names that are put together by several rules,
from the module and fixed words, routines, groups and roles. No two of them may come out the same.

* `Context.perm_definedNames`: the names, rule by rule;
* `append_ne_shifted`: a name that starts with the module is none that has something before the module,
  unless it goes on with letters of that;
* `Context.nodup_definedNames_iff`: so only a wrapper can have the name of something else, beside the
  names that start with the module;
* `Context.fileScopeNames_eq`: the names are those that the text declares.
-/

import ForeignGlue.Proofs.Linkage.SymbolNames
import Mathlib.Data.List.Perm.Basic

namespace ForeignGlue

open ForeignGlue.Source
open ForeignGlue.Text

/-! ### Names with a common part -/

/-- Whether one of the first letters of a text, as many as a lead has, is no letter of the lead. -/
def bringsNew (lead tail : String) : Bool :=
  (tail.toList.take lead.toList.length).any fun c => !lead.toList.contains c

theorem bringsNew_append {lead tail : String} (new : bringsNew lead tail = true) (rest : String) :
    bringsNew lead (tail ++ rest) = true := by
  rw [bringsNew, String.toList_append, List.take_append, List.any_append]
  exact Bool.or_eq_true_iff.mpr (.inl new)

/-- A word with a lead before it is the word itself, continued, only if the continuation starts with
letters of the lead. What follows the word shifts into it, so a letter that the lead does not have would
be one of the word's. -/
theorem append_ne_shifted {lead word tail rest : String} (new : bringsNew lead tail = true) :
    word ++ tail ≠ lead ++ (word ++ rest) := by
  intro same
  obtain ⟨c, member, foreign⟩ := List.any_eq_true.mp new
  have other : c ∉ lead.toList := by simpa using foreign
  have chars : word.toList ++ tail.toList = lead.toList ++ word.toList ++ rest.toList := by
    simpa using congrArg String.toList same
  have start :
      word.toList ++ tail.toList.take lead.toList.length <+: lead.toList ++ word.toList := by
    refine List.prefix_of_prefix_length_le
      ((List.prefix_append_right_inj _).mpr (List.take_prefix _ tail.toList))
      (chars ▸ List.prefix_append _ _) ?_
    rw [List.length_append, List.length_append, List.length_take]
    omega
  have count := start.sublist.count_le c
  have positive := List.count_pos_iff.mpr member
  rw [List.count_append, List.count_append, List.count_eq_zero_of_not_mem other] at count
  omega

/-- What completes a start to one of some names. -/
def completions (start : String) (names : List String) : List String :=
  names.filterMap fun name => (start.toList.isPrefixOf? name.toList).map String.ofList

/-- A name among others with a common start. -/
theorem append_mem_iff {start rest : String} {names : List String} :
    start ++ rest ∈ names ↔ rest ∈ completions start names := by
  simp only [completions, List.mem_filterMap, Option.map_eq_some_iff,
    List.isPrefixOf?_eq_some_iff_append_eq]
  constructor
  · intro member
    exact ⟨_, member, rest.toList, String.toList_append.symm, String.ofList_toList⟩
  · rintro ⟨name, member, more, spelled, rfl⟩
    have same : start ++ String.ofList more = name := by
      rw [← String.toList_inj, String.toList_append, String.toList_ofList, spelled]
    rw [same]
    exact member

/-! ### The names that are defined -/

/-- What the names have after the module that every host file defines. -/
def fixedTails : List String :=
  ["Object", "nscalars", "_fscalars", "narrays", "_farrays", "_methods", "setstaticdims", "setdims",
   "moduledef"]

namespace Context

variable (ctx : Context)

/-- The names that the host file defines, in order. -/
def definedNames : List String :=
  ctx.hostItems.filterMap Item.defined?

/-- The name of the text about a routine. -/
def docName (routine : Routine) : String :=
  "doc_" ++ ctx.wrapperName routine.name

/-- The name of the function that loads the module. -/
def initName : String :=
  "PyInit_" ++ (ctx.module ++ "py")

/-- What the names have after the module, of those that start with it. -/
def moduleTails : List String :=
  fixedTails ++ ctx.inventory.routines.map (fun routine => "_" ++ routine.name) ++
    ctx.dynamicGroups.map fun group => "setdims" ++ group

variable {ctx} in
/-- What follows the module in a name: something fixed, a routine, or a group. -/
theorem moduleTails_cases {tail : String} (listed : tail ∈ ctx.moduleTails) :
    tail ∈ fixedTails ∨ (∃ routine ∈ ctx.inventory.routines, tail = "_" ++ routine.name) ∨
      ∃ group ∈ ctx.dynamicGroups, tail = "setdims" ++ group := by
  simpa [moduleTails, eq_comm, or_assoc] using listed

theorem defined_prototypeItems :
    ctx.prototypeItems.filterMap Item.defined? = [ctx.module ++ "Object"] := by
  have routines : (ctx.inventory.routines.map fun routine =>
      Item.prototype (ctx.routinePrototype routine)).filterMap Item.defined? = [] := by
    simp [Item.defined?]
  have records : (ctx.inventory.records.map fun record =>
      Item.prototype (ctx.constructorPrototype record)).filterMap Item.defined? = [] := by
    simp [Item.defined?]
  simp only [prototypeItems, List.filterMap_append, routines, records]
  cases ctx.isFree <;> rfl

theorem defined_binderPrototypeItems :
    ctx.binderPrototypeItems.filterMap Item.defined? = [] := by
  simp [binderPrototypeItems, Item.defined?]

theorem defined_tableItems (storage type size table : String) (rows : List String) :
    (tableItems storage type size table rows).filterMap Item.defined? = [size, table] := by
  unfold tableItems
  cases rows.isEmpty <;> rfl

theorem defined_externalTableItems : ctx.externalTableItems.filterMap Item.defined? = [] := by
  simp [externalTableItems, Item.defined?]

/-- A wrapper defines its documentation and its function. -/
theorem defined_wrappersItems :
    ctx.wrappersItems.filterMap Item.defined? = ctx.inventory.routines.flatMap fun routine =>
      [ctx.docName routine, ctx.wrapperName routine.name] := by
  rw [wrappersItems, List.filterMap_append, List.filterMap_flatMap]
  exact List.append_nil _

/-- A function for each group, and one for all of them. -/
theorem defined_dynamicShapeItems :
    ctx.dynamicShapeItems.filterMap Item.defined? =
      ctx.dynamicGroups.map ctx.groupShapeSetter ++ [ctx.module ++ "setdims"] := by
  rw [dynamicShapeItems, List.filterMap_append, List.filterMap_map]
  congr 1
  exact congrFun (List.filterMap_eq_map (f := ctx.groupShapeSetter)) ctx.dynamicGroups

/-- **The names that a module defines**, in order. -/
theorem definedNames_eq : ctx.definedNames =
    ["Object", "nscalars", "_fscalars", "narrays", "_farrays"].map (ctx.module ++ ·) ++
      ctx.inventory.routines.flatMap (fun routine =>
        [ctx.docName routine, ctx.wrapperName routine.name]) ++
      ["_methods", "setstaticdims"].map (ctx.module ++ ·) ++
      ctx.dynamicGroups.map ctx.groupShapeSetter ++ ["setdims"].map (ctx.module ++ ·) ++
      binderRoles.map (ctx.linkSymbol · "") ++ [ctx.module ++ "moduledef", ctx.initName] := by
  have methods : ctx.methodTableItems.filterMap Item.defined? = [ctx.module ++ "_methods"] := rfl
  have statics : ctx.staticShapeItems.filterMap Item.defined? =
      [ctx.module ++ "setstaticdims"] := rfl
  have loading : ctx.moduleInitItems.filterMap Item.defined? =
      [ctx.module ++ "moduledef", ctx.initName] := rfl
  simp [definedNames, hostItems, scalarTableItems, arrayTableItems, scalarTable, arrayTable,
    defined_prototypeItems, defined_binderPrototypeItems, defined_externalTableItems,
    defined_tableItems, defined_wrappersItems, defined_dynamicShapeItems, defined_binderItems,
    methods, statics, loading]

/-- **The names, rule by rule.** -/
theorem perm_definedNames : ctx.definedNames.Perm
    (ctx.moduleTails.map (ctx.module ++ ·) ++ ctx.inventory.routines.map ctx.docName ++
      binderRoles.map (ctx.linkSymbol · "") ++ [ctx.initName]) := by
  have wrappers := List.map_append_flatMap_perm ctx.inventory.routines ctx.docName
    fun routine => [ctx.wrapperName routine.name]
  have named : (fun routine : Routine => ctx.wrapperName routine.name) =
      fun routine => ctx.module ++ ("_" ++ routine.name) :=
    funext fun routine => String.append_assoc ..
  have grouped : ctx.groupShapeSetter = fun group => ctx.module ++ ("setdims" ++ group) :=
    funext fun group => String.append_assoc ..
  rw [← List.map_eq_flatMap, named, List.perm_iff_count] at wrappers
  rw [definedNames_eq, grouped, List.perm_iff_count]
  intro name
  simp only [moduleTails, fixedTails, List.map_append, List.map_map, List.map_cons, List.map_nil,
    Function.comp_def, List.count_append, List.count_cons, List.count_nil, ← wrappers name]
  omega

/-! ### Names of different rules -/

/-- What a linker may add to a name. -/
def linkSuffixes : List String :=
  ["", "_", "__"]

variable {ctx}

/-- A binder whose name is not folded has the module in lower case in its name. -/
theorem linkSymbol_of_not_isFolded {role : String} (known : role ∈ binderRoles)
    (fits : ¬ctx.IsFolded (role, "")) :
    ∃ suffix ∈ linkSuffixes, ctx.linkSymbol role "" = lower ctx.module ++ (role ++ suffix) := by
  have lowered : ∀ role ∈ binderRoles, lower role = role := by decide
  have symbol : ctx.foreignSymbol role "" = ctx.module ++ role :=
    (ctx.symbolOf_of_not_isFolded fits).trans String.append_empty
  refine ⟨ctx.options.toolchain.suffix (ctx.module ++ role), ?_, ?_⟩
  · unfold Toolchain.suffix
    split
    · decide
    · split <;> decide
  · rw [linkSymbol, symbol, Toolchain.linkName_eq, lower_append, lowered role known,
      String.append_assoc]

theorem mem_dynamicGroups_iff {group : String} :
    group ∈ ctx.dynamicGroups ↔
      ∃ array ∈ ctx.inventory.arrays, array.isDynamic = true ∧ array.group = group := by
  rw [← ctx.exists_numberedArrays, dynamicGroups, mem_distinct, List.mem_map]
  simp only [dynamicArrays, List.mem_filter, and_assoc]

/-- **When the names after the module differ**: no routine has the name of a table, and no group is
empty. -/
theorem nodup_moduleTails_iff (different : (ctx.inventory.routines.map Routine.name).Nodup) :
    ctx.moduleTails.Nodup ↔
      (∀ routine ∈ ctx.inventory.routines, routine.name ∉ ["fscalars", "farrays", "methods"]) ∧
        "" ∉ ctx.dynamicGroups := by
  have known : ∀ name, "_" ++ name ∈ fixedTails ↔ name ∈ ["fscalars", "farrays", "methods"] :=
    fun name => append_mem_iff
  have unnamed : ∀ group, "setdims" ++ group ∈ fixedTails ↔ group ∈ [""] :=
    fun group => append_mem_iff
  have apart : ∀ name group, "_" ++ name ≠ "setdims" ++ group := fun name group same => by
    simpa using congrArg (fun s => s.toList.head?) same
  have wrappers : (ctx.inventory.routines.map fun routine => "_" ++ routine.name).Nodup := by
    have mapped := different.map (f := ("_" ++ ·)) fun _ _ => (String.append_right_inj _).mp
    rwa [List.map_map] at mapped
  have setters : (ctx.dynamicGroups.map ("setdims" ++ ·)).Nodup :=
    (nodup_distinct _).map fun _ _ => (String.append_right_inj _).mp
  rw [moduleTails, List.nodup_append, List.nodup_append]
  constructor
  · rintro ⟨⟨-, -, tables⟩, -, setters⟩
    refine ⟨fun routine declared clash => ?_, fun clash => ?_⟩
    · exact tables _ ((known _).mpr clash) _ (List.mem_map_of_mem declared) rfl
    · exact setters _ (List.mem_append_left _ ((unnamed "").mpr (by decide))) _
        (List.mem_map_of_mem clash) rfl
  · rintro ⟨named, grouped⟩
    refine ⟨⟨by decide, wrappers, ?_⟩, setters, ?_⟩
    · rintro _ fixed _ member rfl
      obtain ⟨routine, declared, rfl⟩ := List.mem_map.mp member
      exact named routine declared ((known _).mp fixed)
    · rintro _ other _ member rfl
      obtain ⟨group, listed, rfl⟩ := List.mem_map.mp member
      rcases List.mem_append.mp other with fixed | wrapper
      · exact grouped (List.mem_singleton.mp ((unnamed _).mp fixed) ▸ listed)
      · obtain ⟨routine, -, same⟩ := List.mem_map.mp wrapper
        exact apart _ _ same

/-- Documentation is told apart by routines. -/
theorem nodup_docNames (different : (ctx.inventory.routines.map Routine.name).Nodup) :
    (ctx.inventory.routines.map ctx.docName).Nodup := by
  have mapped := different.map (f := fun name => "doc_" ++ ctx.wrapperName name) fun _ _ same =>
    (String.append_right_inj _).mp ((String.append_right_inj _).mp same)
  rwa [List.map_map] at mapped

/-- Setters of addresses are told apart by their roles, if their names are not folded. -/
theorem nodup_binderNames (fits : ∀ role ∈ binderRoles, ¬ctx.IsFolded (role, "")) :
    (binderRoles.map (ctx.linkSymbol · "")).Nodup := by
  have apart : binderRoles.Pairwise fun first second =>
      Interface.ending (first, "") ≠ Interface.ending (second, "") := by decide
  refine List.pairwise_map.mpr (apart.imp_of_mem fun known otherKnown different same => ?_)
  have alike := (Toolchain.linkName_eq_iff _).mp same
  exact (ctx.isFolded_of_sameName different alike).elim (fits _ known) (fits _ otherKnown)

/-- What stands before the module in names that do not start with it. -/
def leads : List String :=
  ["doc_", "PyInit_"]

/-- Of the names that start with the module, only that of a wrapper can also be one that has
something before the module. -/
theorem exists_wrapperName_of_shifted {lead rest name : String} (front : lead ∈ leads)
    (listed : name ∈ ctx.moduleTails.map (ctx.module ++ ·))
    (same : name = lead ++ (ctx.module ++ rest)) :
    ∃ routine ∈ ctx.inventory.routines, ctx.wrapperName routine.name = name := by
  have fixedNew : ∀ lead ∈ leads, ∀ tail ∈ fixedTails, bringsNew lead tail = true := by decide
  obtain ⟨tail, isTail, rfl⟩ := List.mem_map.mp listed
  rcases moduleTails_cases isTail with fixed | ⟨routine, declared, rfl⟩ | ⟨group, -, rfl⟩
  · exact absurd same (append_ne_shifted (fixedNew lead front tail fixed))
  · exact ⟨routine, declared, String.append_assoc ..⟩
  · have new := bringsNew_append (fixedNew lead front "setdims" (by decide)) group
    exact absurd same (append_ne_shifted new)

/-- A symbol of the module does not start with a lead and the module, in whatever case the module is
written. -/
theorem linkSymbol_ne_shifted {role lead rest : String} (known : role ∈ binderRoles)
    (fits : ¬ctx.IsFolded (role, "")) (front : lead ∈ leads) :
    ctx.linkSymbol role "" ≠ lead ++ (ctx.module ++ rest) := by
  have new : ∀ lead ∈ leads, ∀ role ∈ binderRoles, bringsNew (lower lead) (lower role) = true := by
    decide
  obtain ⟨suffix, -, spelled⟩ := linkSymbol_of_not_isFolded known fits
  rw [spelled]
  intro same
  have lowered := congrArg lower same
  rw [lower_append, lower_append, lower_append, lower_append, lower_lower] at lowered
  exact append_ne_shifted (bringsNew_append (new lead front role known) _) lowered

/-- A setter of addresses has the name of nothing else. -/
theorem linkSymbol_not_mem {role : String} (known : role ∈ binderRoles)
    (fits : ¬ctx.IsFolded (role, "")) :
    ctx.linkSymbol role "" ∉ ctx.moduleTails.map (ctx.module ++ ·) := by
  have fixedOther : ∀ role ∈ binderRoles, ∀ suffix ∈ linkSuffixes, role ++ suffix ∉ fixedTails := by
    decide
  have otherStart : ∀ start ∈ ["_", "setdims"], ∀ role ∈ binderRoles,
      start.toList.length ≤ role.toList.length ∧ ¬start.toList <+: role.toList := by
    decide
  obtain ⟨suffix, isSuffix, spelled⟩ := linkSymbol_of_not_isFolded known fits
  have apart {start : String} (listed : start ∈ ["_", "setdims"]) (rest : String) :
      start ++ rest ≠ role ++ suffix := by
    intro same
    obtain ⟨short, other⟩ := otherStart start listed role known
    have chars : start.toList ++ rest.toList = role.toList ++ suffix.toList := by
      simpa using congrArg String.toList same
    exact other (List.prefix_of_prefix_length_le (chars ▸ List.prefix_append _ _)
      (List.prefix_append _ suffix.toList) short)
  intro member
  obtain ⟨tail, isTail, same⟩ := List.mem_map.mp member
  have chars := congrArg String.toList (same.trans spelled)
  rw [String.toList_append, String.toList_append] at chars
  obtain rfl : tail = role ++ suffix :=
    String.toList_inj.mp (List.append_inj_right chars (by rw [toList_lower, List.length_map]))
  rcases moduleTails_cases isTail with fixed | ⟨routine, -, wrapper⟩ | ⟨group, -, setter⟩
  · exact fixedOther role known suffix isSuffix fixed
  · exact apart (by decide) routine.name wrapper.symm
  · exact apart (by decide) group setter.symm

/-- Documentation is not what loads the module. -/
theorem docName_ne_initName (routine : Routine) : ctx.docName routine ≠ ctx.initName := by
  intro same
  simpa [docName, initName] using congrArg (fun s => s.toList.head?) same

theorem wrapperTail_mem {routine : Routine} (declared : routine ∈ ctx.inventory.routines) :
    "_" ++ routine.name ∈ ctx.moduleTails :=
  List.mem_append_left _ (List.mem_append_right _ (List.mem_map.mpr ⟨routine, declared, rfl⟩))

theorem wrapperName_mem {routine : Routine} (declared : routine ∈ ctx.inventory.routines) :
    ctx.wrapperName routine.name ∈ ctx.moduleTails.map (ctx.module ++ ·) :=
  List.mem_map.mpr ⟨_, wrapperTail_mem declared, (String.append_assoc ..).symm⟩

theorem docName_eq (routine : Routine) :
    ctx.docName routine = "doc_" ++ (ctx.module ++ ("_" ++ routine.name)) :=
  congrArg ("doc_" ++ ·) (String.append_assoc ..)

/-- **Only wrappers share names with what is named by another rule.** -/
theorem nodup_definedNames_iff (different : (ctx.inventory.routines.map Routine.name).Nodup)
    (fits : ∀ role ∈ binderRoles, ¬ctx.IsFolded (role, "")) :
    ctx.definedNames.Nodup ↔
      ctx.moduleTails.Nodup ∧
      (∀ routine ∈ ctx.inventory.routines, ∀ other ∈ ctx.inventory.routines,
        ctx.docName routine ≠ ctx.wrapperName other.name) ∧
      ∀ routine ∈ ctx.inventory.routines, ctx.wrapperName routine.name ≠ ctx.initName := by
  have spelled : (ctx.moduleTails.map (ctx.module ++ ·)).Nodup ↔ ctx.moduleTails.Nodup :=
    List.nodup_map_iff fun _ _ => (String.append_right_inj _).mp
  rw [ctx.perm_definedNames.nodup_iff, List.nodup_append, List.nodup_append, List.nodup_append,
    spelled]
  constructor
  · rintro ⟨⟨⟨tails, -, docs⟩, -, -⟩, -, loading⟩
    refine ⟨tails, fun routine declared other otherDeclared same => ?_, fun routine declared => ?_⟩
    · exact docs _ (wrapperName_mem otherDeclared) _ (List.mem_map_of_mem declared) same.symm
    · have member := List.mem_append_left (ctx.inventory.routines.map ctx.docName)
        (wrapperName_mem declared)
      exact loading _ (List.mem_append_left _ member) _ (List.mem_singleton_self _)
  · rintro ⟨tails, docs, loading⟩
    refine ⟨⟨⟨tails, nodup_docNames different, ?_⟩, nodup_binderNames fits, ?_⟩,
      List.nodup_singleton _, ?_⟩
    · rintro _ listed _ documented rfl
      obtain ⟨routine, declared, same⟩ := List.mem_map.mp documented
      rw [docName_eq] at same
      obtain ⟨other, otherDeclared, wrapper⟩ :=
        exists_wrapperName_of_shifted (by decide) listed same.symm
      exact docs routine declared other otherDeclared (by rw [docName_eq, same, wrapper])
    · rintro _ early _ binder rfl
      obtain ⟨role, known, rfl⟩ := List.mem_map.mp binder
      rcases List.mem_append.mp early with listed | documented
      · exact linkSymbol_not_mem known (fits role known) listed
      · obtain ⟨routine, -, same⟩ := List.mem_map.mp documented
        rw [docName_eq] at same
        exact linkSymbol_ne_shifted known (fits role known) (by decide) same.symm
    · intro name early init isInit same
      obtain rfl := List.mem_singleton.mp isInit
      rcases List.mem_append.mp early with early | binder
      · rcases List.mem_append.mp early with listed | documented
        · obtain ⟨routine, declared, wrapper⟩ :=
            exists_wrapperName_of_shifted (by decide) listed same
          exact loading routine declared (wrapper.trans same)
        · obtain ⟨routine, -, rfl⟩ := List.mem_map.mp documented
          exact docName_ne_initName routine same
      · obtain ⟨role, known, rfl⟩ := List.mem_map.mp binder
        exact linkSymbol_ne_shifted known (fits role known) (by decide) same

end Context

/-! ### What the text declares -/

/-- How lines begin that define nothing: comments, directives, and declarations of what is defined
elsewhere. -/
def silentOpenings : List String :=
  ["/* ", " * ", "#include ", "extern "]

/-- What can come after a declared name, apart from blanks. -/
def isDeclarationMark (c : Char) : Bool :=
  ['(', '[', '=', ';'].contains c

/-- The name that a text at file scope defines: the last word before the first mark. -/
def declaredName? (text : String) : Option String :=
  if text = "" ∨ ∃ opening ∈ silentOpenings, opening.toList <+: text.toList then none
  else
    let declarator := text.toList.takeWhile fun c => !isDeclarationMark c
    let reversed := (declarator.reverse.dropWhile (· == ' ')).takeWhile isNameChar
    some (String.ofList reversed.reverse)

/-- The name that the text of an item defines. -/
def Source.Item.declared? (item : Item) : Option String :=
  match item.lines.head? with
  | some (.ok text) => declaredName? text
  | _ => none

/-- What stands before the names of definitions. -/
def typeLeads : List String :=
  ["ForthonObject *", "int ", "Fortranscalar *", "Fortranscalar ", "static Fortranarray *",
   "static Fortranarray ", "static char ", "static PyObject *\n", "static struct PyMethodDef ",
   "static void ", "void ", "static struct PyModuleDef ", "PyMODINIT_FUNC\n"]

/-- How what stands after the names of definitions begins. -/
def tailOpenings : List String :=
  ["(", "[", "[] = ", "=", " = ", ";"]

/-- A text of letters, digits and underscores only. -/
def IsNamePart (text : String) : Prop :=
  ∀ c ∈ text.toList, isNameChar c

instance (text : String) : Decidable (IsNamePart text) :=
  decidable_of_iff (text.toList.all isNameChar = true) List.all_eq_true

namespace IsNamePart

variable {first second : String}

theorem append (isFirst : IsNamePart first) (isSecond : IsNamePart second) :
    IsNamePart (first ++ second) := by
  intro c member
  rw [String.toList_append] at member
  exact (List.mem_append.mp member).elim (isFirst c) (isSecond c)

theorem lower (isFirst : IsNamePart first) : IsNamePart (lower first) := by
  intro c member
  rw [toList_lower] at member
  obtain ⟨capital, here, rfl⟩ := List.mem_map.mp member
  exact isNameChar_toLower (isFirst capital here)

end IsNamePart

/-- Lines with these starts declare nothing. -/
theorem declaredName?_silent {opening : String} (known : opening ∈ silentOpenings) (rest : String) :
    declaredName? (opening ++ rest) = none := by
  refine if_pos (.inr ⟨opening, known, ?_⟩)
  rw [String.toList_append]
  exact List.prefix_append _ _

/-- A type does not start a silent line. -/
theorem not_silent {lead opening : String} (isLead : lead ∈ typeLeads)
    (known : opening ∈ silentOpenings) (rest : List Char) :
    ¬opening.toList <+: lead.toList ++ rest := by
  have openings : ∀ opening ∈ silentOpenings, 1 ≤ opening.toList.length := by decide
  have leads : ∀ lead ∈ typeLeads, 1 ≤ lead.toList.length ∧
      ∀ opening ∈ silentOpenings, opening.toList.take 1 ≠ lead.toList.take 1 := by decide
  obtain ⟨written, apart⟩ := leads lead isLead
  rintro ⟨more, same⟩
  have first := congrArg (List.take 1) same
  rw [List.take_append_of_le_length (openings opening known),
    List.take_append_of_le_length written] at first
  exact apart opening known first

/-- Before the first mark stand the type, the name and blanks. -/
theorem takeWhile_declarator {lead name opening : String} (isLead : lead ∈ typeLeads)
    (isOpening : opening ∈ tailOpenings) (rest : String) (word : IsNamePart name) :
    ∃ blanks : List Char, (∀ c ∈ blanks, (c == ' ') = true) ∧
      (lead ++ name ++ (opening ++ rest)).toList.takeWhile (fun c => !isDeclarationMark c) =
        lead.toList ++ (name.toList ++ blanks) := by
  have leads : ∀ lead ∈ typeLeads, (lead.toList.all fun c => !isDeclarationMark c) = true := by
    decide
  have openings : ∀ opening ∈ tailOpenings,
      let blanks := opening.toList.takeWhile fun c => !isDeclarationMark c
      blanks.all (· == ' ') = true ∧ blanks.length ≠ opening.toList.length := by decide
  have marks : ['(', '[', '=', ';'].all (fun c => !isNameChar c) = true := by decide
  have unmarked : ∀ c ∈ name.toList, (!isDeclarationMark c) = true := by
    intro c member
    cases isMark : isDeclarationMark c with
    | false => rfl
    | true =>
        have other := List.all_eq_true.mp marks c (List.contains_iff_mem.mp isMark)
        rw [word c member] at other
        exact absurd other (by decide)
  obtain ⟨blank, marked⟩ := openings opening isOpening
  refine ⟨_, List.all_eq_true.mp blank, ?_⟩
  rw [String.toList_append, String.toList_append, String.toList_append, List.append_assoc,
    List.takeWhile_append_of_pos (List.all_eq_true.mp (leads lead isLead)),
    List.takeWhile_append_of_pos unmarked, List.takeWhile_append, if_neg marked]

/-- **The name between a type and what follows it is read.** -/
theorem declaredName?_definition {lead name opening : String} (isLead : lead ∈ typeLeads)
    (isOpening : opening ∈ tailOpenings) (rest : String) (nonempty : name ≠ "")
    (word : IsNamePart name) :
    declaredName? (lead ++ name ++ (opening ++ rest)) = some name := by
  have ends : ∀ lead ∈ typeLeads, lead.toList.reverse.takeWhile isNameChar = [] := by decide
  have loud : ¬(lead ++ name ++ (opening ++ rest) = "" ∨ ∃ silent ∈ silentOpenings,
      silent.toList <+: (lead ++ name ++ (opening ++ rest)).toList) := by
    rintro (empty | ⟨silent, known, starts⟩)
    · rw [String.append_eq_empty_iff, String.append_eq_empty_iff] at empty
      exact nonempty empty.1.2
    · rw [String.append_assoc, String.toList_append] at starts
      exact not_silent isLead known _ starts
  obtain ⟨blanks, blank, declarator⟩ := takeWhile_declarator isLead isOpening rest word
  have reversedWord : ∀ c ∈ name.toList.reverse, isNameChar c :=
    fun c member => word c (List.mem_reverse.mp member)
  have noBlank : (name.toList.reverse ++ lead.toList.reverse).dropWhile (· == ' ') =
      name.toList.reverse ++ lead.toList.reverse := by
    cases letters : name.toList.reverse with
    | nil =>
        have empty := List.reverse_eq_nil_iff.mp letters
        exact absurd (String.toList_eq_nil_iff.mp empty) nonempty
    | cons c _ =>
        refine List.dropWhile_cons_of_neg fun isBlank => ?_
        have isName := reversedWord c (letters ▸ List.mem_cons_self)
        rw [eq_of_beq isBlank] at isName
        exact absurd isName (by decide)
  rw [declaredName?, if_neg loud]
  dsimp only
  rw [declarator, List.reverse_append, List.reverse_append, List.append_assoc,
    List.dropWhile_append_of_pos fun c member => blank c (List.mem_reverse.mp member), noBlank,
    List.takeWhile_append_of_pos reversedWord, ends lead isLead, List.append_nil,
    List.reverse_reverse, String.ofList_toList]

/-- An item whose text begins as such items do. -/
def Source.Item.IsLaidOut : Item → Prop
  | .line text => text = "" ∨ ∃ opening ∈ silentOpenings, ∃ rest, text = opening ++ rest
  | .prototype _ => True
  | .definition defined =>
      defined.lead ∈ typeLeads ∧ ∃ opening ∈ tailOpenings, ∃ rest, defined.tail = opening ++ rest

namespace Source.Item.IsLaidOut

theorem line {text : String} (opening rest : String) (spelled : text = opening ++ rest)
    (known : opening ∈ silentOpenings) : (Item.line text).IsLaidOut :=
  .inr ⟨opening, known, rest, spelled⟩

theorem definition {lead name tail : String} {body : Draft String} (opening rest : String)
    (spelled : tail = opening ++ rest) (isLead : lead ∈ typeLeads)
    (known : opening ∈ tailOpenings) : (Item.definition ⟨lead, name, tail, body⟩).IsLaidOut :=
  ⟨isLead, opening, known, rest, spelled⟩

end Source.Item.IsLaidOut

/-- **The text of an item declares what the item defines.** -/
theorem Source.Item.declared?_eq {item : Item} (laidOut : item.IsLaidOut)
    (word : ∀ name ∈ item.defined?, name ≠ "" ∧ IsNamePart name) :
    item.declared? = item.defined? := by
  cases item with
  | line text =>
      rcases laidOut with rfl | ⟨opening, known, rest, rfl⟩
      · rfl
      · exact declaredName?_silent known rest
  | prototype declared =>
      show declaredName? declared.text = none
      rw [Prototype.text, String.append_assoc, String.append_assoc, String.append_assoc,
        String.append_assoc]
      exact declaredName?_silent (by decide) _
  | definition defined =>
      obtain ⟨isLead, opening, known, rest, spelled⟩ := laidOut
      obtain ⟨nonempty, letters⟩ := word defined.name rfl
      show declaredName? (defined.lead ++ defined.name ++ defined.tail) = some defined.name
      rw [spelled]
      exact declaredName?_definition isLead known rest nonempty letters

namespace Context

variable {ctx : Context}

theorem isLaidOut_tableItems {storage type size table : String} {rows : List String}
    (pointer : storage ++ type ++ " *" ∈ typeLeads) (list : storage ++ type ++ " " ∈ typeLeads) :
    ∀ item ∈ tableItems storage type size table rows, item.IsLaidOut := by
  refine List.forall_mem_cons.mpr ⟨?_, List.forall_mem_singleton.mpr ?_⟩
  · exact .definition " = " _ (String.append_assoc ..) (by decide) (by decide)
  · split
    · exact .definition "=" "NULL;" rfl pointer (by decide)
    · exact .definition "[" _ (String.append_assoc ..) list (by decide)

theorem isLaidOut_prototypeItems : ∀ item ∈ ctx.prototypeItems, item.IsLaidOut := by
  have data : ∀ item ∈ (if ctx.isFree then [] else
      [Item.prototype (ctx.subroutinePrototype "data")]), item.IsLaidOut := by
    split
    · exact List.forall_mem_nil _
    · exact List.forall_mem_singleton.mpr trivial
  simp only [prototypeItems, List.forall_mem_append, List.forall_mem_cons, List.forall_mem_map]
  refine ⟨⟨⟨⟨⟨?_, ?_, ?_, ?_, ?_, ?_, ?_, trivial, trivial, List.forall_mem_nil _⟩, data⟩, ?_⟩, ?_⟩,
    .inl rfl, List.forall_mem_nil _⟩
  · exact .line "/* " _ (String.append_assoc ..) (by decide)
  · exact .line " * " "The descriptor tables and wrappers in this file are not reentrant:" rfl
      (by decide)
  · exact .line " * "
      "calling two wrappers that share descriptor state concurrently is undefined. */" rfl
      (by decide)
  · exact .line "#include " "\"Forthon.h\"" rfl (by decide)
  · exact .line "#include " "<setjmp.h>" rfl (by decide)
  · exact .definition ";" "" rfl (by decide) (by decide)
  · exact .line "extern " "jmp_buf stackenvironment;" rfl (by decide)
  · exact fun routine declared => trivial
  · exact fun record listed => trivial

/-- All items of the host source are laid out so. -/
theorem isLaidOut_hostItems : ∀ item ∈ ctx.hostItems, item.IsLaidOut := by
  have blank : (Item.line "").IsLaidOut := .inl rfl
  simp only [hostItems, List.forall_mem_append]
  refine ⟨⟨⟨⟨⟨⟨⟨⟨⟨isLaidOut_prototypeItems, ?_⟩, ?_⟩, ?_⟩, ?_⟩, ?_⟩, ?_⟩, ?_⟩, ?_⟩, ?_⟩
  · exact List.forall_mem_map.mpr fun prototype _ => trivial
  · refine List.forall_mem_append.mpr ⟨List.forall_mem_map.mpr fun index _ => ?_,
      isLaidOut_tableItems (by decide) (by decide)⟩
    refine .line "extern " ("Fortranscalar " ++ (index.tableName ++ "[];")) ?_ (by decide)
    rw [← String.append_assoc, ← String.append_assoc]
    rfl
  · exact isLaidOut_tableItems (by decide) (by decide)
  · refine List.forall_mem_append.mpr ⟨List.forall_mem_flatMap.mpr fun routine _ => ?_,
      List.forall_mem_singleton.mpr blank⟩
    refine List.forall_mem_cons.mpr ⟨?_, List.forall_mem_singleton.mpr ?_⟩
    · exact .definition "[] = " _ (String.append_assoc ..) (by decide) (by decide)
    · exact .definition "(" "PyObject *self, PyObject *args)" rfl (by decide) (by decide)
  · exact List.forall_mem_cons.mpr ⟨.definition "[" "] = \x7b" rfl (by decide) (by decide),
      List.forall_mem_singleton.mpr blank⟩
  · exact List.forall_mem_cons.mpr
      ⟨.definition "(" "ForthonObject *self)" rfl (by decide) (by decide),
        List.forall_mem_singleton.mpr blank⟩
  · refine List.forall_mem_append.mpr ⟨List.forall_mem_map.mpr fun group _ => ?_, ?_⟩
    · exact .definition "(" "char *name,long i)" rfl (by decide) (by decide)
    · exact List.forall_mem_cons.mpr
        ⟨.definition "(" "char *name,ForthonObject *obj,long i)" rfl (by decide) (by decide),
          List.forall_mem_singleton.mpr blank⟩
  · simp only [binderItems, List.forall_mem_cons]
    exact ⟨.definition "(" "long *i,char *p)" rfl (by decide) (by decide),
      .definition "(" "long *i,char **p)" rfl (by decide) (by decide),
      .definition "(" "long *i,char *p)" rfl (by decide) (by decide),
      .definition "(" "Fortranarray *farray,char *p)" rfl (by decide) (by decide),
      .definition "(" "Fortranarray *farray,long *dims)" rfl (by decide) (by decide), blank,
      List.forall_mem_nil _⟩
  · simp only [moduleInitItems, List.forall_mem_cons]
    exact ⟨.definition " = " "\x7b" rfl (by decide) (by decide), blank,
      .definition "(" "void)" rfl (by decide) (by decide), List.forall_mem_nil _⟩

/-- The names that the text of the host file defines, in order. -/
def fileScopeNames (ctx : Context) : List String :=
  ctx.hostItems.filterMap Item.declared?

/-- The names from which others are put together have only letters, digits and underscores. -/
structure HasPlainNames (ctx : Context) : Prop where
  module : IsNamePart ctx.module
  routine : ∀ routine ∈ ctx.inventory.routines, IsNamePart routine.name
  group : ∀ group ∈ ctx.dynamicGroups, IsNamePart group

theorem HasPlainNames.tail (names : ctx.HasPlainNames) {tail : String}
    (listed : tail ∈ ctx.moduleTails) : tail ≠ "" ∧ IsNamePart tail := by
  have fixedPlain : ∀ tail ∈ fixedTails, tail ≠ "" ∧ IsNamePart tail := by decide
  rcases moduleTails_cases listed with fixed | ⟨routine, declared, rfl⟩ | ⟨group, dynamic, rfl⟩
  · exact fixedPlain tail fixed
  · refine ⟨fun empty => ?_, .append (by decide) (names.routine routine declared)⟩
    exact absurd (String.append_eq_empty_iff.mp empty).1 (by decide)
  · refine ⟨fun empty => ?_, .append (by decide) (names.group group dynamic)⟩
    exact absurd (String.append_eq_empty_iff.mp empty).1 (by decide)

/-- All defined names are words. -/
theorem HasPlainNames.defined (names : ctx.HasPlainNames)
    (fits : ∀ role ∈ binderRoles, ¬ctx.IsFolded (role, "")) {name : String}
    (member : name ∈ ctx.definedNames) : name ≠ "" ∧ IsNamePart name := by
  have rolePlain : ∀ role ∈ binderRoles, role ≠ "" ∧ IsNamePart role := by decide
  have suffixPlain : ∀ suffix ∈ linkSuffixes, IsNamePart suffix := by decide
  have longer {first second : String} (nonempty : second ≠ "") : first ++ second ≠ "" :=
    fun empty => nonempty (String.append_eq_empty_iff.mp empty).2
  rw [ctx.perm_definedNames.mem_iff] at member
  rcases List.mem_append.mp member with early | loading
  · rcases List.mem_append.mp early with early | binder
    · rcases List.mem_append.mp early with listed | documented
      · obtain ⟨tail, isTail, rfl⟩ := List.mem_map.mp listed
        obtain ⟨nonempty, plain⟩ := names.tail isTail
        exact ⟨longer nonempty, names.module.append plain⟩
      · obtain ⟨routine, declared, rfl⟩ := List.mem_map.mp documented
        obtain ⟨nonempty, plain⟩ := names.tail (wrapperTail_mem declared)
        rw [docName_eq]
        exact ⟨longer (longer nonempty), .append (by decide) (names.module.append plain)⟩
    · obtain ⟨role, known, rfl⟩ := List.mem_map.mp binder
      obtain ⟨suffix, isSuffix, spelled⟩ := linkSymbol_of_not_isFolded known (fits role known)
      obtain ⟨nonempty, plain⟩ := rolePlain role known
      rw [spelled]
      refine ⟨longer fun empty => nonempty (String.append_eq_empty_iff.mp empty).1, ?_⟩
      exact names.module.lower.append (plain.append (suffixPlain suffix isSuffix))
  · obtain rfl := List.mem_singleton.mp loading
    exact ⟨longer (longer (by decide)), .append (by decide) (names.module.append (by decide))⟩

/-- **The names that the text declares are those that are defined.** -/
theorem fileScopeNames_eq (names : ctx.HasPlainNames)
    (fits : ∀ role ∈ binderRoles, ¬ctx.IsFolded (role, "")) :
    ctx.fileScopeNames = ctx.definedNames :=
  List.filterMap_congr fun item member => Item.declared?_eq (isLaidOut_hostItems item member)
    fun _ defined => names.defined fits (List.mem_filterMap.mpr ⟨item, member, defined⟩)

/-- **Names at file scope clash in four ways only.** If the routines have different names and no name
of a binder is folded, the host file defines different names, unless a routine is called like a table,
or a group of dynamic arrays has no name, or a wrapper is called like the text about a routine or like
the function that loads the module. The names are those that the text declares. -/
theorem definedNames_clash (ctx : Context)
    (different : (ctx.inventory.routines.map Routine.name).Nodup)
    (fits : ∀ role ∈ binderRoles, ¬ctx.IsFolded (role, "")) :
    (ctx.definedNames.Nodup ↔
      (∀ routine ∈ ctx.inventory.routines, routine.name ∉ ["fscalars", "farrays", "methods"]) ∧
      (∀ array ∈ ctx.inventory.arrays, array.isDynamic → array.group ≠ "") ∧
      (∀ routine ∈ ctx.inventory.routines, ∀ other ∈ ctx.inventory.routines,
        "doc_" ++ ctx.wrapperName routine.name ≠ ctx.wrapperName other.name) ∧
      ∀ routine ∈ ctx.inventory.routines,
        ctx.wrapperName routine.name ≠ "PyInit_" ++ (ctx.module ++ "py")) ∧
      (ctx.HasPlainNames → ctx.fileScopeNames = ctx.definedNames) := by
  refine ⟨?_, fun names => fileScopeNames_eq names fits⟩
  rw [nodup_definedNames_iff different fits, nodup_moduleTails_iff different, mem_dynamicGroups_iff,
    and_assoc]
  simp only [not_exists, not_and]
  exact Iff.rfl

end Context

namespace Generator

/-- A module that is called like the start of other names, with a routine of the same name. -/
def docModule : Interface where
  module := "doc"
  declarations :=
    [.variable (Variable.scalar "n" .integer "sizes"),
     .variable { Variable.array "a" .real "obj" [⟨"1", "n"⟩] with dynamic := true },
     .routine (Routine.subroutine "step"),
     .routine (Routine.subroutine "doc")]

/-- The names of its host file are different all the same. -/
theorem definedNames_clash_docModule :
    ((context {} docModule).inventory.routines.map Routine.name).Nodup ∧
      (∀ role ∈ binderRoles, ¬(context {} docModule).IsFolded (role, "")) ∧
      (context {} docModule).HasPlainNames ∧ (context {} docModule).fileScopeNames.Nodup := by
  have different : ((context {} docModule).inventory.routines.map Routine.name).Nodup := by
    decide +kernel
  have fits : ∀ role ∈ binderRoles, ¬(context {} docModule).IsFolded (role, "") := by
    unfold Context.IsFolded
    decide +kernel
  have names : (context {} docModule).HasPlainNames :=
    ⟨by decide, by decide +kernel, by decide +kernel⟩
  obtain ⟨clash, declared⟩ := Context.definedNames_clash (context {} docModule) different fits
  refine ⟨different, fits, names, declared names ▸ clash.mpr ⟨?_, ?_, ?_, ?_⟩⟩
  · decide +kernel
  · decide +kernel
  · decide +kernel
  · decide +kernel

/-- A routine that is called like a table of the module. -/
def methodsRoutine : Interface where
  module := "wxy"
  declarations := [.routine (Routine.subroutine "methods")]

/-- **A wrapper can be called like a table.** No two routines have one name, all generated names are
short, and the source is generated; its wrapper and its table of methods have one name. -/
theorem wrapper_named_like_table :
    methodsRoutine.HasDistinctVariables ∧
      ((context {} methodsRoutine).inventory.routines.Pairwise fun routine other =>
        ¬sameName routine.name other.name) ∧
      ((context {} methodsRoutine).inventory.records.Pairwise fun record other =>
        ¬sameName record.name other.name) ∧
      (∀ naming ∈ methodsRoutine.namings, ¬(context {} methodsRoutine).IsFolded naming) ∧
      (generate {} methodsRoutine).isOk = true ∧
      (context {} methodsRoutine).fileScopeNames.count "wxy_methods" = 2 := by
  have names : (context {} methodsRoutine).HasPlainNames := ⟨by decide, by decide, by decide⟩
  have fits : ∀ role ∈ binderRoles, ¬(context {} methodsRoutine).IsFolded (role, "") := by
    unfold Context.IsFolded
    decide +kernel
  refine ⟨?_, by decide, by decide, ?_, by decide +kernel, ?_⟩
  · unfold Interface.HasDistinctVariables
    decide
  · unfold Context.IsFolded
    decide +kernel
  · rw [Context.fileScopeNames_eq names fits]
    decide +kernel

end Generator

end ForeignGlue
