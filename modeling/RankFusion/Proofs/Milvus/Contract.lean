import RankFusion.Proofs.Milvus.Acceptance
import RankFusion.Proofs.Milvus.Call
import RankFusion.Proofs.Number.Rounding
import RankFusion.Proofs.Query.Rules
import RankFusion.Proofs.Value.Printable

/-!
This module contains the failures of a sub-search on a collection. All that goes wrong before there
are hits, and while the collection is asked for them, is told of as a failure of the search, but for
integers that are too large to be computed with, or to be shown in a text. Hits that make no batch
are not told of as such.
-/

namespace RankFusion

namespace Milvus

section Call

variable {c : CollectionConfig} {s : SubSearch}

/--
Whether a sub-search is for a vector, and a bound on distances has no double precision value where
one is computed with.
-/
def Overflows (c : CollectionConfig) (s : SubSearch) : Prop :=
  s.side = .vector ∧ s.vector ≠ .null ∧ s.tuning.Overflows (metricOf c s)

end Call

/--
What an answer shows before the deadline of a sub-search, if it comes by then.
-/
def SearchAnswer.inTime? (s : SubSearch) : SearchAnswer → Option SearchAnswer
  | late answer => if MilvusExecutor.hasDeadline s then none else answer.inTime? s
  | answer => some answer

namespace MilvusExecutor

section Answer

variable (e : MilvusExecutor) (client : Client) (s : SubSearch)

end Answer

variable {e : MilvusExecutor} {client : Client} {s : SubSearch} {f : Failure}

theorem answered_cases {types : FieldTypes} {p : Projection} {startLog : List LogEntry}
    {traffic : Traffic} (answer : SearchAnswer)
    : (answer.inTime? s = none
          ∧ hasDeadline s = true
          ∧ e.answered s types p startLog traffic answer =
              ⟨{ outcome := .error (searchFailure s elapsed).1, delay := 2, startLog }, e,
                { traffic with calls := [] }⟩)
        ∨ (∃ f, answer.inTime? s = some (.raises f)
          ∧ e.answered s types p startLog traffic answer = e.failed s startLog traffic f)
        ∨ ∃ lists, answer.inTime? s = some (.hits lists)
          ∧ e.answered s types p startLog traffic answer =
              ⟨{ outcome := toBatch e.config types s p lists, delay := 1, startLog }, e,
                traffic⟩ := by
  induction answer with
  | hits lists => exact .inr (.inr ⟨lists, rfl, rfl⟩)
  | raises f => exact .inr (.inl ⟨f, rfl, rfl⟩)
  | late answer ih =>
    unfold SearchAnswer.inTime? answered
    cases hdeadline : hasDeadline s with
    | true => exact .inl ⟨rfl, rfl, rfl⟩
    | false =>
      rw [hdeadline] at ih
      exact ih

def titles (answer : SearchAnswer) : Client where
  describe := .ok (.dict [("fields",
    .list [.dict [("name", .text "title"), ("type", .text "VARCHAR")]])])
  search _ := answer

end MilvusExecutor

end Milvus

end RankFusion
