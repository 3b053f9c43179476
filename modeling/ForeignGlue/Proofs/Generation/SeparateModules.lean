/-
**Group modules built on their own.**

The foreign source of a module can hold the group modules, or they can be generated apart and compiled
before it. Both ways give the same code:

* `Generator.generate_eq_bind`: without code of record types, a module is its host source, its
  subroutines and its group modules, made in this order;
* `Generator.generate_writing_true`: a module with its group modules is the module without them, with
  the group modules put in front of its foreign source; it fails as the first of the two that fails;
* `Generator.generate_combined_iff_separate`: so one run succeeds exactly if both others do.
-/

import ForeignGlue.Generation
import ForeignGlue.Proofs.Outcome

namespace ForeignGlue

open ForeignGlue.Source

namespace Generator

/-- **The parts of a module** that has no code of record types, in the order in which they are made. -/
theorem generate_eq_bind (generator : Generator) (plain : generator.records = RecordEmitter.none)
    (interface : Interface) :
    generator.generate interface = (do
      let host ← (generator.context interface).hostSource
      let subroutines ← (generator.context interface).linkageDraft.finish
      let modules ← (generator.context interface).groupSource
      return assemble (generator.context interface) host (modules ++ subroutines)) := by
  unfold generate Context.foreignSource
  dsimp only
  rw [plain]
  generalize generator.context interface = ctx
  generalize ctx.hostSource = hostPart, ctx.linkageDraft.finish = linkagePart,
    ctx.groupSource = groupPart
  cases hostPart with
  | error error => rfl
  | ok host =>
      cases linkagePart with
      | error error => rfl
      | ok subroutines =>
          cases groupPart with
          | error error => rfl
          | ok modules =>
              show Except.ok (assemble ctx (host ++ "") ("" ++ modules ++ subroutines)) = _
              rw [String.append_empty, String.empty_append]
              rfl

/-- The generator that writes the group modules into the foreign source, or leaves them out. -/
def writing (generator : Generator) (modules : Bool) : Generator :=
  { generator with options := { generator.options with writeModules := modules } }

/-! Whether group modules are written is seen only where the foreign source is put together. -/

theorem hostSource_writing (generator : Generator) (modules : Bool) (interface : Interface) :
    ((generator.writing modules).context interface).hostSource =
      (generator.context interface).hostSource := rfl

theorem linkageDraft_writing (generator : Generator) (modules : Bool) (interface : Interface) :
    ((generator.writing modules).context interface).linkageDraft =
      (generator.context interface).linkageDraft := rfl

theorem moduleDeclarations_writing (generator : Generator) (modules : Bool)
    (interface : Interface) :
    (generator.writing modules).moduleDeclarations interface =
      generator.moduleDeclarations interface := rfl

theorem assemble_writing (generator : Generator) (modules : Bool) (interface : Interface) :
    assemble ((generator.writing modules).context interface) =
      assemble (generator.context interface) := rfl

/-- A module without its group modules has the subroutines alone in its foreign source. -/
theorem generate_writing_false (generator : Generator)
    (plain : generator.records = RecordEmitter.none) (interface : Interface) :
    (generator.writing false).generate interface = (do
      let host ← (generator.context interface).hostSource
      let subroutines ← (generator.context interface).linkageDraft.finish
      return assemble (generator.context interface) host subroutines) := by
  have nothing : ((generator.writing false).context interface).groupSource = .ok "" := rfl
  rw [generate_eq_bind (generator.writing false) plain, hostSource_writing, linkageDraft_writing,
    assemble_writing, nothing]
  refine bind_congr fun host => bind_congr fun subroutines => ?_
  show Except.ok (assemble _ host ("" ++ subroutines)) = _
  rw [String.empty_append]
  rfl

/-- **One build as two.** A module with its group modules is made of the module without them and of the
group modules alone, and fails as the first of these that fails. -/
theorem generate_writing_true (generator : Generator)
    (plain : generator.records = RecordEmitter.none) (interface : Interface) :
    (generator.writing true).generate interface = (do
      let rest ← (generator.writing false).generate interface
      let modules ← generator.moduleDeclarations interface
      return { rest with foreignSource := modules ++ rest.foreignSource }) := by
  have declared : ((generator.writing true).context interface).groupSource =
      generator.moduleDeclarations interface := rfl
  rw [generate_writing_false _ plain, generate_eq_bind (generator.writing true) plain,
    hostSource_writing, linkageDraft_writing, assemble_writing, declared, bind_assoc]
  refine bind_congr fun host => ?_
  rw [bind_assoc]
  exact bind_congr fun subroutines => rfl

/-- **Separate builds agree with the combined one.** Without code of record types, generation with the
group modules succeeds exactly if generation without them and that of the group modules alone both
succeed. Then the combined foreign source is that of the group modules followed by the rest, and the
host source and the index are the same. -/
theorem generate_combined_iff_separate (options : Options) (types : TypeTable)
    (externals : List ScalarIndex) (interface : Interface) :
    let generator : Generator := { options, types, externals }
    let combined := (generator.writing true).generate interface
    let separate := (generator.writing false).generate interface
    let declarations := (generator.writing false).moduleDeclarations interface
    ((∃ whole, combined = .ok whole) ↔
      (∃ rest, separate = .ok rest) ∧ ∃ modules, declarations = .ok modules) ∧
    ∀ whole rest modules, combined = .ok whole → separate = .ok rest → declarations = .ok modules →
      whole.foreignSource = modules ++ rest.foreignSource ∧
        whole.hostSource = rest.hostSource ∧ whole.index = rest.index := by
  intro generator combined separate declarations
  have split : combined = (do
      let rest ← separate
      let modules ← declarations
      return { rest with foreignSource := modules ++ rest.foreignSource }) :=
    (generate_writing_true generator rfl interface).trans
      (by rw [← moduleDeclarations_writing generator false])
  clear_value combined separate declarations
  constructor
  · constructor
    · rintro ⟨whole, done⟩
      rw [split] at done
      obtain ⟨rest, generated, done⟩ := bind_eq_ok_iff.mp done
      obtain ⟨modules, declared, -⟩ := bind_eq_ok_iff.mp done
      exact ⟨⟨rest, generated⟩, modules, declared⟩
    · rintro ⟨⟨rest, generated⟩, modules, declared⟩
      rw [split, generated, declared]
      exact ⟨_, rfl⟩
  · intro whole rest modules done generated declared
    rw [split, generated, declared] at done
    obtain rfl := Except.ok.inj done
    exact ⟨rfl, rfl, rfl⟩

/-- A static array, and the scalar that sizes it in another group. -/
def twoGroups : Interface where
  module := "wxy"
  declarations :=
    [.variable (Variable.scalar "n" .integer "sizes"),
     .variable (Variable.array "a" .real "fields" [⟨"1", "n"⟩])]

/-- Both builds of a module with two groups succeed, and agree. -/
theorem generate_combined_twoGroups :
    ∃ whole rest modules, (writing {} true).generate twoGroups = .ok whole ∧
      (writing {} false).generate twoGroups = .ok rest ∧
      (writing {} false).moduleDeclarations twoGroups = .ok modules ∧
      whole.foreignSource = modules ++ rest.foreignSource ∧
      whole.hostSource = rest.hostSource ∧ whole.index = rest.index := by
  have succeeds : ((writing {} true).generate twoGroups).toOption.isSome := by decide +kernel
  obtain ⟨whole, done⟩ := exists_ok_of_isSome succeeds
  obtain ⟨succeed, agree⟩ := generate_combined_iff_separate {} .standard [] twoGroups
  obtain ⟨⟨rest, generated⟩, modules, declared⟩ := succeed.mp ⟨whole, done⟩
  exact ⟨whole, rest, modules, done, generated, declared,
    agree whole rest modules done generated declared⟩

end Generator

end ForeignGlue
