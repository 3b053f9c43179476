/-
**Drafts that finish.**

A draft that finishes has only pieces that did not fail, and its text is these pieces, one after the
other. So the text of a list of statements is the text of each of them in order
(`finish_layOutStatements`).
-/

import ForeignGlue.Proofs.Generation.Demand
import ForeignGlue.Proofs.Linkage.Closure
import ForeignGlue.Source.Foreign
import ForeignGlue.Source.Host
import Mathlib.Data.List.Forall2

namespace ForeignGlue.Source

namespace Draft

theorem statements_append (first second : Draft Statement) :
    Draft.statements (first ++ second) = first.statements ++ second.statements :=
  List.filterMap_append

end Draft

/-- **The text of statements** is that of each statement, in order. -/
theorem finish_layOutStatements {dialect : Dialect} {draft : Draft Statement} {text : String}
    (done : (layOutStatements dialect draft).finish = .ok text) :
    (∀ error, .error error ∉ draft) ∧
      ∃ texts, List.Forall₂ (fun (statement : Statement) written =>
        statement.line.write dialect = .ok written) draft.statements texts ∧
        text = String.join texts := by
  obtain ⟨texts, spelled, joined⟩ := Draft.finish_eq_ok_iff.mp done
  clear done
  refine ⟨?_, texts, ?_, joined⟩
  · intro error member
    have failed : .error error ∈ layOutStatements dialect draft :=
      List.mem_map.mpr ⟨.error error, member, rfl⟩
    rw [spelled] at failed
    obtain ⟨written, -, isError⟩ := List.mem_map.mp failed
    cases isError
  · clear joined
    induction draft generalizing texts with
    | nil =>
        cases texts with
        | nil => exact .nil
        | cons first texts => cases spelled
    | cons piece draft ih =>
        cases texts with
        | nil => cases spelled
        | cons first texts =>
            obtain ⟨written, rest⟩ := List.cons.inj spelled
            cases piece with
            | error error => cases written
            | ok statement => exact .cons written (ih texts rest)

end ForeignGlue.Source
