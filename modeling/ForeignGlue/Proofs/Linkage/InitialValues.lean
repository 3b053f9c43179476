/-
**Initial values in group modules.**

A group module shows the initial value of a scalar in its declaration, as it is in the interface; all
other initial values are written on one line.

* `Statement.layOut_flattened_eq_iff`: only a declaration changes when its initial value is put on one
  line;
* `Context.modulesDraft_flattened`, `Context.finish_modulesDraft_ne`: group modules are the same before
  and after exactly if no scalar has an initial value of several lines;
* `Generator.foreignSource_flattened`: so is the foreign source. Where it is not, it differs in line ends
  only;
* `Generator.declaration_split`: a declaration with a line end inside.
-/

import ForeignGlue.Proofs.Generation.FlatInterface
import ForeignGlue.Proofs.Inventory.Groups
import ForeignGlue.Proofs.Source.Finished

namespace ForeignGlue

open ForeignGlue.Source
open ForeignGlue.Text

/-! ### Statements -/

/-- The statement with an initial value in it on one line. -/
def Source.Statement.flattened : Statement → Statement
  | .declare declaration =>
    .declare { declaration with value := declaration.value.map flattenLines }
  | .data indent name initializer => .data indent name (flattenLines initializer)
  | statement => statement

namespace Source.Statement

/-- The initial value that a declaration shows. -/
def value? : Statement → Option String
  | .declare declaration => declaration.value
  | _ => none

/-- **Only a declaration shows its value as it is**; all other statements have theirs on one line. -/
theorem layOut_flattened_eq_iff {statement : Statement} :
    statement.flattened.line.layOut .free = statement.line.layOut .free ↔
      ∀ value, statement.value? = some value → '\n' ∉ value.toList := by
  cases statement with
  | declare declaration =>
      obtain ⟨type, pointer, save, name, axes, value⟩ := declaration
      cases value with
      | none =>
          refine iff_of_true rfl fun value shown => ?_
          cases shown
      | some value =>
          show "  " ++ (type ++ pointer ++ save ++ "::" ++ name ++ axes.text ++
              ("=" ++ flattenLines value)) =
            "  " ++ (type ++ pointer ++ save ++ "::" ++ name ++ axes.text ++ ("=" ++ value)) ↔
            ∀ shown, some value = some shown → '\n' ∉ shown.toList
          rw [String.append_right_inj, String.append_right_inj, String.append_right_inj,
            flattenLines_eq_self_iff]
          constructor
          · rintro oneLine shown ⟨⟩
            exact oneLine
          · exact fun known => known value rfl
  | data indent name initializer =>
      refine iff_of_true ?_ fun value shown => ?_
      · exact congrArg (blanks indent ++ "data " ++ name ++ ·)
          (flattenLines_flattenLines initializer)
      · cases shown
  | _ =>
      refine iff_of_true rfl fun value shown => ?_
      cases shown

/-- A statement that is flattened has some line ends turned into blanks. -/
theorem flattens_line (statement : Statement) :
    Flattens (statement.line.layOut .free).toList (statement.flattened.line.layOut .free).toList := by
  by_cases same : statement.flattened.line.layOut .free = statement.line.layOut .free
  · rw [same]
    exact .refl _
  · cases statement with
    | declare declaration =>
        obtain ⟨type, pointer, save, name, axes, value⟩ := declaration
        cases value with
        | none => exact absurd rfl same
        | some value =>
            show Flattens ("  " ++ (type ++ pointer ++ save ++ "::" ++ name ++ axes.text ++
                ("=" ++ value))).toList
              ("  " ++ (type ++ pointer ++ save ++ "::" ++ name ++ axes.text ++
                ("=" ++ flattenLines value))).toList
            simp only [String.toList_append]
            exact (Flattens.refl _).append ((Flattens.refl _).append ((Flattens.refl _).append
              (flattens_flattenLines value)))
    | _ =>
        refine absurd (layOut_flattened_eq_iff.mpr fun value shown => ?_) same
        cases shown

end Source.Statement

/-- A module with its initial values on one line each. -/
def GroupModule.flattened (group : GroupModule) : GroupModule :=
  { group with declarations := group.declarations.map Statement.flattened }

theorem GroupModule.statements_flattened (group : GroupModule) :
    group.flattened.statements = group.statements.map (·.map Statement.flattened) := by
  have uses (modules : List String) :
      (modules.map Statement.use).map Statement.flattened = modules.map .use := by
    rw [List.map_map]
    rfl
  obtain ⟨name, recordModules, shapeGroups, declarations⟩ := group
  unfold flattened statements
  dsimp only
  cases shapeGroups with
  | error error =>
      rw [List.map_append, List.map_cons, Draft.map_ofList, uses]
      rfl
  | ok groups =>
      rw [List.map_append, List.map_cons, Draft.map_ofList, uses]
      simp only [Draft.map_ofList, List.map_append, uses]
      rfl

namespace Context

variable (ctx : Context)

theorem declareScalar_flattened (v : Variable) :
    ctx.flattened.declareScalar v.flattened = (ctx.declareScalar v).flattened := by
  have exchange : initialValue ∘ flattenLines = flattenLines ∘ initialValue := by
    funext initializer
    rw [Function.comp_apply, Function.comp_apply, initialValue_flattenLines]
  have value : (v.initializer.map flattenLines).map initialValue =
      (v.initializer.map initialValue).map flattenLines := by
    rw [Option.map_map, exchange, Option.map_map]
  unfold declareScalar
  show Statement.declare ⟨_, _, _, _, _, (v.initializer.map flattenLines).map initialValue⟩ = _
  rw [value]
  rfl

/-- The declaration of an array, with its initial value on one line. -/
theorem declareArray_flattened (v : Variable) :
    ctx.flattened.declareArray v.flattened = (ctx.declareArray v).map Statement.flattened := by
  have dynamic : v.flattened.isDynamic = v.isDynamic := rfl
  have initial : v.flattened.initializer = v.initializer.map flattenLines := rfl
  unfold declareArray
  rw [dynamic, initial]
  cases v.isDynamic with
  | true => rfl
  | false =>
      cases v.initializer with
      | none => rfl
      | some initializer => rfl

theorem variablesIn_flattened (group : String) : ctx.flattened.inventory.variablesIn group =
    (ctx.inventory.variablesIn group).map Variable.flattened := by
  show (ctx.inventory.scalars.map Variable.flattened ++ ctx.inventory.arrays.map Variable.flattened ++
    ctx.inventory.hidden.map Variable.flattened).filter _ = _
  rw [← List.map_append, ← List.map_append, List.filter_map]
  rfl

theorem shapeGroups_flattened (group : String) :
    ctx.flattened.shapeGroups group = ctx.shapeGroups group := by
  have scope : ctx.flattened.scope.groupsIn = ctx.scope.groupsIn := ctx.scope.groupsIn_flattened
  unfold shapeGroups
  rw [variablesIn_flattened]
  dsimp only
  rw [List.filter_map, List.map_map, scope]
  rfl

/-- The module of a group, flattened declaration by declaration. -/
theorem groupModule_flattened (group : String) :
    ctx.flattened.groupModule group = (ctx.groupModule group).flattened := by
  have records (declared : List Variable) : (declared.map Variable.flattened).filterMap
      Variable.recordName? = declared.filterMap Variable.recordName? := by
    rw [List.filterMap_map]
    rfl
  have scalars (declared : List Variable) : (declared.map Variable.flattened).map
      ctx.flattened.declareScalar = (declared.map ctx.declareScalar).map Statement.flattened := by
    rw [List.map_map, List.map_map]
    exact List.map_congr_left fun v _ => ctx.declareScalar_flattened v
  have arrays (declared : List Variable) : (declared.map Variable.flattened).flatMap
      ctx.flattened.declareArray = (declared.flatMap ctx.declareArray).map Statement.flattened := by
    rw [List.flatMap_map, List.map_flatMap]
    exact List.flatMap_congr fun v _ => ctx.declareArray_flattened v
  unfold groupModule GroupModule.flattened
  dsimp only
  rw [variablesIn_flattened, shapeGroups_flattened, records,
    filter_flattened Variable.isScalar fun _ => rfl, filter_flattened (fun v => !v.isScalar) fun _ => rfl,
    scalars, arrays, List.map_append]

/-- The statements of all modules. -/
def moduleStatements : Draft Statement :=
  ctx.groupModules.flatMap GroupModule.statements

theorem moduleStatements_flattened : ctx.flattened.moduleStatements =
    ctx.moduleStatements.map (·.map Statement.flattened) := by
  have modules : ctx.flattened.groupModules = ctx.groupModules.map GroupModule.flattened := by
    have names : ctx.flattened.inventory.groupNames = ctx.inventory.groupNames := rfl
    unfold groupModules
    rw [options_flattened, names]
    cases ctx.options.dialect with
    | free =>
        rw [List.map_map]
        exact List.map_congr_left fun group _ => ctx.groupModule_flattened group
    | fixed => rfl
  unfold moduleStatements
  rw [modules, List.flatMap_map, List.map_flatMap]
  exact List.flatMap_congr fun group _ => group.statements_flattened

theorem modulesDraft_eq (free : ctx.options.dialect = .free) : ctx.modulesDraft =
    ctx.moduleStatements.map fun piece => piece.bind fun statement => statement.line.write .free := by
  unfold modulesDraft
  rw [free]
  rfl

theorem modulesDraft_flattened_eq (free : ctx.options.dialect = .free) : ctx.flattened.modulesDraft =
    ctx.moduleStatements.map fun piece =>
      piece.bind fun statement => statement.flattened.line.write .free := by
  rw [modulesDraft_eq ctx.flattened free, moduleStatements_flattened, List.map_map]
  refine List.map_congr_left fun piece _ => ?_
  cases piece with
  | error error => rfl
  | ok statement => rfl

/-- Fixed form has no modules. -/
theorem modulesDraft_fixed (fixed : ctx.options.dialect = .fixed) : ctx.modulesDraft = [] := by
  unfold modulesDraft groupModules
  rw [fixed]
  rfl

/-- **The text of the modules** is written alike, statement by statement. -/
theorem alike_modulesDraft :
    List.Forall₂ WrittenAlike ctx.modulesDraft ctx.flattened.modulesDraft := by
  cases dialect : ctx.options.dialect with
  | fixed =>
      rw [ctx.modulesDraft_fixed dialect, ctx.flattened.modulesDraft_fixed dialect]
      exact .nil
  | free =>
      rw [ctx.modulesDraft_eq dialect, ctx.modulesDraft_flattened_eq dialect]
      refine List.forall₂_map_left_iff.mpr (List.forall₂_map_right_iff.mpr ?_)
      refine List.forall₂_same.mpr fun piece _ => ?_
      cases piece with
      | error error => exact .error (.same error)
      | ok statement => exact (alike_write statement.flattens_line).imp fun _ _ both => both.1

end Context

/-! ### Declarations that run over several lines -/

/-- Whether a variable is a scalar with an initial value that has several lines. -/
def Variable.breaksLine (v : Variable) : Bool :=
  v.isScalar && v.initializer.any fun initializer => (initialValue initializer).toList.contains '\n'

/-- A declaration runs over several lines if its initial value does. -/
theorem Variable.breaksLine_iff {v : Variable} : v.breaksLine = true ↔ v.isScalar = true ∧
    ∃ initializer, v.initializer = some initializer ∧ '\n' ∈ (initialValue initializer).toList := by
  unfold breaksLine
  rw [Bool.and_eq_true, Option.any_eq_true]
  simp only [List.contains_iff_mem]

theorem GroupModule.mem_declarations {group : GroupModule} {statement : Statement} {value : String}
    (member : .ok statement ∈ group.statements) (shown : statement.value? = some value) :
    statement ∈ group.declarations := by
  unfold statements at member
  rcases List.mem_append.mp member with opening | rest
  · rcases List.mem_cons.mp opening with head | used
    · cases head
      cases shown
    · obtain ⟨_, listed, same⟩ := List.mem_map.mp used
      obtain ⟨module, -, rfl⟩ := List.mem_map.mp listed
      cases same
      cases shown
  · cases shapes : group.shapeGroups with
    | error error =>
        rw [shapes] at rest
        cases List.mem_singleton.mp rest
    | ok groups =>
        rw [shapes] at rest
        obtain ⟨_, listed, same⟩ := List.mem_map.mp rest
        cases same
        simp only [List.mem_append, List.mem_map, List.mem_singleton] at listed
        rcases listed with ((⟨module, -, rfl⟩ | rfl) | declared) | rfl
        · cases shown
        · cases shown
        · exact declared
        · cases shown

namespace Context

variable {ctx : Context}

/-- The initial value of an array stands in a statement of its own. -/
theorem value?_declareArray {v : Variable} {statement : Statement}
    (member : statement ∈ ctx.declareArray v) : statement.value? = none := by
  unfold declareArray at member
  dsimp only at member
  split at member
  · rw [List.mem_singleton.mp member]
    rfl
  · rcases List.mem_cons.mp member with rfl | data
    · rfl
    · cases given : v.initializer with
      | none =>
          rw [given] at data
          cases data
      | some initializer =>
          rw [given] at data
          rw [List.mem_singleton.mp data]
          rfl

/-- **The values that declarations show** are those of scalars. -/
theorem exists_scalar_of_value? {statement : Statement} {value : String}
    (member : .ok statement ∈ ctx.moduleStatements) (shown : statement.value? = some value) :
    ∃ v ∈ ctx.inventory.allVariables, v.isScalar = true ∧
      ∃ initializer, v.initializer = some initializer ∧ initialValue initializer = value := by
  obtain ⟨group, listed, inGroup⟩ := List.mem_flatMap.mp member
  have declared := GroupModule.mem_declarations inGroup shown
  unfold groupModules at listed
  split at listed
  · obtain ⟨name, -, rfl⟩ := List.mem_map.mp listed
    rcases List.mem_append.mp declared with scalar | array
    · obtain ⟨v, kept, rfl⟩ := List.mem_map.mp scalar
      obtain ⟨ofGroup, isScalar⟩ := List.mem_filter.mp kept
      exact ⟨v, (List.mem_filter.mp ofGroup).1, isScalar, Option.map_eq_some_iff.mp shown⟩
    · obtain ⟨v, -, declares⟩ := List.mem_flatMap.mp array
      rw [value?_declareArray declares] at shown
      cases shown
  · cases listed

/-- The declaration of a scalar stands in the modules. -/
theorem declareScalar_mem {v : Variable} (free : ctx.options.dialect = .free)
    (listed : v ∈ ctx.inventory.allVariables) (grouped : v.group ∈ ctx.inventory.groupNames)
    (scalar : v.isScalar = true) (clean : ∀ error, .error error ∉ ctx.moduleStatements) :
    .ok (ctx.declareScalar v) ∈ ctx.moduleStatements := by
  have own : ctx.groupModule v.group ∈ ctx.groupModules := by
    unfold groupModules
    rw [free]
    exact List.mem_map_of_mem grouped
  have declared : ctx.declareScalar v ∈ (ctx.groupModule v.group).declarations := by
    have ofGroup : v ∈ ctx.inventory.variablesIn v.group :=
      List.mem_filter.mpr ⟨listed, beq_self_eq_true v.group⟩
    exact List.mem_append_left _ (List.mem_map_of_mem (List.mem_filter.mpr ⟨ofGroup, scalar⟩))
  have inModule : .ok (ctx.declareScalar v) ∈ (ctx.groupModule v.group).statements := by
    unfold GroupModule.statements
    cases shapes : (ctx.groupModule v.group).shapeGroups with
    | error error =>
        refine absurd (List.mem_flatMap.mpr ⟨_, own, ?_⟩) (clean error)
        unfold GroupModule.statements
        rw [shapes]
        exact List.mem_append_right _ List.mem_cons_self
    | ok groups =>
        refine List.mem_append_right _ (List.mem_map_of_mem ?_)
        exact List.mem_append_left _ (List.mem_append_right _ declared)
  exact List.mem_flatMap.mpr ⟨_, own, inModule⟩

/-- **The modules are the same** if no declaration runs over several lines. -/
theorem modulesDraft_flattened (oneLine : ctx.options.dialect = .free →
      ∀ v ∈ ctx.inventory.allVariables, v.breaksLine = false) :
    ctx.flattened.modulesDraft = ctx.modulesDraft := by
  cases dialect : ctx.options.dialect with
  | fixed => rw [ctx.modulesDraft_fixed dialect, ctx.flattened.modulesDraft_fixed dialect]
  | free =>
      rw [ctx.modulesDraft_eq dialect, ctx.modulesDraft_flattened_eq dialect]
      refine List.map_congr_left fun piece member => ?_
      cases piece with
      | error error => rfl
      | ok statement =>
          have laidOut : statement.flattened.line.layOut .free = statement.line.layOut .free := by
            refine Statement.layOut_flattened_eq_iff.mpr fun value shown broken => ?_
            obtain ⟨v, listed, scalar, initializer, given, rfl⟩ :=
              exists_scalar_of_value? member shown
            have breaks := Variable.breaksLine_iff.mpr ⟨scalar, initializer, given, broken⟩
            rw [oneLine dialect v listed] at breaks
            cases breaks
          show statement.flattened.line.write .free = statement.line.write .free
          unfold Line.write
          rw [laidOut]

/-- **The modules differ** if a declaration runs over several lines. -/
theorem finish_modulesDraft_ne {text : String} (free : ctx.options.dialect = .free) {v : Variable}
    (listed : v ∈ ctx.inventory.allVariables) (grouped : v.group ∈ ctx.inventory.groupNames)
    (breaks : v.breaksLine = true) (done : ctx.modulesDraft.finish = .ok text) :
    ctx.flattened.modulesDraft.finish ≠ .ok text := by
  intro same
  obtain ⟨scalar, initializer, given, broken⟩ := Variable.breaksLine_iff.mp breaks
  have shown : (ctx.declareScalar v).value? = some (initialValue initializer) :=
    congrArg (Option.map initialValue) given
  have clean : ∀ error, .error error ∉ ctx.moduleStatements := (finish_layOutStatements done).1
  have member := declareScalar_mem free listed grouped scalar clean
  -- drafts of the same text would have written this declaration in the same way
  have drafts := Draft.eq_of_finish_eq ctx.alike_modulesDraft done same
  rw [ctx.modulesDraft_eq free, ctx.modulesDraft_flattened_eq free] at drafts
  have sameText : (ctx.declareScalar v).line.write .free =
      (ctx.declareScalar v).flattened.line.write .free := List.map_inj_left.mp drafts _ member
  obtain ⟨line, written⟩ : ∃ line, (ctx.declareScalar v).line.write .free = .ok line := by
    obtain ⟨texts, spelled, -⟩ := Draft.finish_eq_ok_iff.mp done
    rw [ctx.modulesDraft_eq free] at spelled
    have piece := List.mem_map_of_mem (f := (·.bind fun statement => statement.line.write .free)) member
    rw [spelled] at piece
    obtain ⟨line, -, same⟩ := List.mem_map.mp piece
    exact ⟨line, same.symm⟩
  have alike := alike_write (ctx.declareScalar v).flattens_line
  rw [← sameText, written] at alike
  cases alike with
  | ok both => exact Statement.layOut_flattened_eq_iff.mp (both.2 rfl).symm _ shown broken

end Context

/-! ### The foreign source -/

namespace Context

variable {ctx : Context}

/-- **The foreign source is written alike.** -/
theorem alike_foreignSource (ctx : Context) (records : String) :
    WrittenAlike (ctx.foreignSource records) (ctx.flattened.foreignSource records) := by
  have modules : WrittenAlike ctx.groupSource ctx.flattened.groupSource := by
    unfold groupSource
    split
    · next writes => exact if_pos writes ▸ Draft.alike_finish ctx.alike_modulesDraft
    · next left => exact if_neg left ▸ .ok (.refl _)
  unfold foreignSource
  rw [linkageDraft_flattened]
  cases ctx.linkageDraft.finish with
  | error error => exact .error (.same error)
  | ok subroutines =>
      refine modules.bind fun source flatSource flat => .ok ?_
      simp only [String.toList_append]
      exact ((Flattens.refl _).append flat).append (.refl _)

/-- The foreign source is the same if no declaration runs over several lines. -/
theorem foreignSource_of_oneLine (records : String) (oneLine : ctx.options.writeModules = true →
      ctx.options.dialect = .free → ∀ v ∈ ctx.inventory.allVariables, v.breaksLine = false) :
    ctx.flattened.foreignSource records = ctx.foreignSource records := by
  have modules : ctx.flattened.groupSource = ctx.groupSource := by
    unfold groupSource
    rw [options_flattened]
    split
    · next writes => rw [modulesDraft_flattened (oneLine writes)]
    · rfl
  unfold foreignSource
  rw [linkageDraft_flattened, modules]

/-- The foreign source differs if a declaration runs over several lines. -/
theorem foreignSource_flattened_ne {records source : String} (free : ctx.options.dialect = .free)
    (writes : ctx.options.writeModules = true) {v : Variable}
    (listed : v ∈ ctx.inventory.allVariables) (grouped : v.group ∈ ctx.inventory.groupNames)
    (breaks : v.breaksLine = true) (done : ctx.foreignSource records = .ok source) :
    ctx.flattened.foreignSource records ≠ .ok source := by
  intro same
  unfold foreignSource at done same
  rw [linkageDraft_flattened] at same
  obtain ⟨subroutines, linked, done⟩ := bind_eq_ok_iff.mp done
  obtain ⟨otherSubroutines, linkedToo, same⟩ := bind_eq_ok_iff.mp same
  obtain ⟨modules, written, joined⟩ := bind_eq_ok_iff.mp done
  obtain ⟨otherModules, writtenToo, joinedToo⟩ := bind_eq_ok_iff.mp same
  obtain rfl : subroutines = otherSubroutines := Except.ok.inj (linked.symm.trans linkedToo)
  have sameText := (Except.ok.inj joined).trans (Except.ok.inj joinedToo).symm
  obtain rfl : modules = otherModules :=
    (String.append_right_inj _).mp ((String.append_left_inj _).mp sameText)
  rw [groupSource, if_pos writes] at written
  rw [groupSource, if_pos (show ctx.flattened.options.writeModules = true from writes)] at writtenToo
  exact finish_modulesDraft_ne free listed grouped breaks written writtenToo

end Context

/-- Whether a declaration of a group module runs over several lines. -/
def Interface.breaksLine (interface : Interface) (options : Options) : Bool :=
  options.dialect == .free && options.writeModules &&
    (interface.visibleVariables ++ interface.hidden).any Variable.breaksLine

/-- Some declaration runs over several lines, and modules are written. -/
theorem Interface.breaksLine_iff {interface : Interface} {options : Options} :
    interface.breaksLine options = true ↔ (options.dialect = .free ∧ options.writeModules = true) ∧
      ∃ v ∈ interface.visibleVariables ++ interface.hidden, v.breaksLine = true := by
  unfold breaksLine
  rw [Bool.and_eq_true, Bool.and_eq_true, beq_iff_eq, List.any_eq_true]

namespace Generator

variable (generator : Generator) (interface : Interface)

/-- Timers are declared on one line each. -/
theorem mem_allVariables_context {v : Variable} (breaks : v.breaksLine = true) :
    v ∈ (generator.context interface).inventory.allVariables ↔
      ∃ declared ∈ interface.visibleVariables ++ interface.hidden, declared.annotate = v := by
  rw [inventory_context, Inventory.mem_allVariables, hidden_timed]
  simp only [List.mem_append]
  refine exists_congr fun declared => and_congr_left fun same => or_congr_left ?_
  have timer (routine : Routine) : interface.timer routine ≠ declared := by
    rintro rfl
    rw [← same] at breaks
    have zero : (initialValue "/0./").toList.contains '\n' = true := breaks
    revert zero
    decide
  rw [timed]
  cases generator.options.timeRoutines with
  | false => rfl
  | true => simp [Interface.addTimers, Interface.visibleVariables, Declaration.asVariable?, timer]

/-- The foreign source comes after the host source. -/
theorem map_foreignSource_generate (plain : generator.records = .none) :
    (generator.generate interface).map GeneratedModule.foreignSource =
      ((generator.context interface).hostSource >>= fun _ =>
        (generator.context interface).foreignSource "") := by
  unfold generate
  dsimp only
  rw [plain]
  cases (generator.context interface).hostSource with
  | error error => rfl
  | ok host =>
      show ((generator.context interface).foreignSource "" >>= fun foreign => _).map _ = _
      cases (generator.context interface).foreignSource "" with
      | error error => rfl
      | ok foreign => rfl

/-- **Line ends in initial values.** If every initial value is put on one line first, generation ends
alike: the foreign source, or the line that could not be broken, is the same up to line ends that have
become blanks. It is just the same unless group modules are written in free form and a scalar has an
initial value that, without its delimiters and the blanks around it, has several lines. If so, and the
module can be generated, the foreign source differs. -/
theorem foreignSource_flattened (options : Options) (types : TypeTable)
    (externals : List ScalarIndex) (interface : Interface) :
    let generator : Generator := { options, types, externals }
    WrittenAlike
      ((generator.generate interface).map GeneratedModule.foreignSource)
      ((generator.generate interface.flattened).map GeneratedModule.foreignSource) ∧
    (interface.breaksLine options = false →
      (generator.generate interface.flattened).map GeneratedModule.foreignSource =
        (generator.generate interface).map GeneratedModule.foreignSource) ∧
    (interface.breaksLine options = true → ∀ generated, generator.generate interface = .ok generated →
      (generator.generate interface.flattened).map GeneratedModule.foreignSource ≠
        .ok generated.foreignSource) := by
  intro generator
  have original := generator.map_foreignSource_generate interface rfl
  have flat := generator.map_foreignSource_generate interface.flattened rfl
  rw [generator.context_flattened] at flat
  have hosts := (generator.context interface).alike_hostSource
  generalize (generator.context interface).hostSource = host,
    (generator.context interface).flattened.hostSource = flatHost at original flat hosts
  cases hosts with
  | @error error _ same =>
      subst same
      have failed : (generator.generate interface).map GeneratedModule.foreignSource = .error error :=
        original
      have failedToo : (generator.generate interface.flattened).map GeneratedModule.foreignSource =
          .error error := flat
      rw [failed, failedToo]
      refine ⟨.error (.same error), fun _ => rfl, fun _ generated done => ?_⟩
      rw [done] at failed
      cases failed
  | ok _ =>
      have made : (generator.generate interface).map GeneratedModule.foreignSource =
          (generator.context interface).foreignSource "" := original
      have madeToo : (generator.generate interface.flattened).map GeneratedModule.foreignSource =
          (generator.context interface).flattened.foreignSource "" := flat
      rw [madeToo]
      refine ⟨?_, fun oneLine => ?_, fun breaks generated done => ?_⟩
      · rw [made]
        exact (generator.context interface).alike_foreignSource ""
      · rw [made]
        refine Context.foreignSource_of_oneLine "" fun writes free v listed => ?_
        by_contra breaks
        rw [Bool.not_eq_false] at breaks
        obtain ⟨declared, known, rfl⟩ :=
          (generator.mem_allVariables_context interface breaks).mp listed
        have breaksToo : interface.breaksLine options = true :=
          Interface.breaksLine_iff.mpr ⟨⟨free, writes⟩, declared, known, breaks⟩
        rw [oneLine] at breaksToo
        cases breaksToo
      · rw [done] at made
        obtain ⟨⟨free, writes⟩, v, declared, breaks⟩ := Interface.breaksLine_iff.mp breaks
        have breaksToo : v.annotate.breaksLine = true := breaks
        have listed : v.annotate ∈ (generator.context interface).inventory.allVariables :=
          (generator.mem_allVariables_context interface breaksToo).mpr ⟨v, declared, rfl⟩
        have grouped := Inventory.group_mem_groupNames listed
        exact Context.foreignSource_flattened_ne free writes listed grouped breaks made.symm

/-- Values that run over several lines where this does no harm: in the data of an array, and around
the value of a scalar. -/
def harmlessBreaks : Interface where
  module := "wxy"
  declarations :=
    [.variable { Variable.scalar "n" .integer "sizes" with initializer := some "/\n3\n/" },
     .variable
       { Variable.array "a" .real "fields" [⟨"1", "2"⟩] with initializer := some "/1.,\n2./" }]

/-- The foreign source of an interface that is not flat, in both forms. -/
theorem foreignSource_flattened_harmless :
    harmlessBreaks.flattened ≠ harmlessBreaks ∧
      (generate {} harmlessBreaks.flattened).map GeneratedModule.foreignSource =
        (generate {} harmlessBreaks).map GeneratedModule.foreignSource ∧
      (generate { options := { dialect := .fixed } } harmlessBreaks.flattened).map
          GeneratedModule.foreignSource =
        (generate { options := { dialect := .fixed } } harmlessBreaks).map
          GeneratedModule.foreignSource := by
  refine ⟨by decide +kernel, ?_, ?_⟩
  · exact (foreignSource_flattened {} .standard [] harmlessBreaks).2.1 (by decide +kernel)
  · exact (foreignSource_flattened { dialect := .fixed } .standard [] harmlessBreaks).2.1
      (by decide +kernel)

/-- A scalar whose value is a sum over two lines. -/
def brokenSum : Interface where
  module := "wxy"
  declarations :=
    [.variable { Variable.scalar "n" .integer "sizes" with initializer := some "/1+\n2/" }]

/-- The foreign source around the declaration of the scalar. -/
def sourceDeclaring (declaration : String) : String :=
  "MODULE sizes\n  SAVE\n  " ++ declaration ++ "\nEND MODULE sizes\n" ++
    "SUBROUTINE wxypasspointers()\n  USE sizes\n" ++
    "  call wxysetscalarpointers(int(0,8),n)\n  return\nend\n" ++
    "SUBROUTINE wxynullifypointers()\n  USE sizes\n  return\nend\n"

/-- **A line end reaches the foreign source**, and splits the declaration. -/
theorem declaration_split :
    (generate {} brokenSum).toOption.map GeneratedModule.foreignSource =
      some (sourceDeclaring "integer(kind=8)::n=1+\n2") ∧
    (generate {} brokenSum.flattened).toOption.map GeneratedModule.foreignSource =
      some (sourceDeclaring "integer(kind=8)::n=1+ 2") := by
  decide +kernel

end Generator

end ForeignGlue
