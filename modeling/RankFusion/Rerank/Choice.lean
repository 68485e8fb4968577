import RankFusion.Rerank.Fuse

/-!
This module contains what is offered in the place of a strategy: one of the library's, one of the
caller's own, or any other datum. Data that are no strategy can be held, but have none of its
attributes.
-/

namespace RankFusion

structure Strategy where
  name : String
  /-- The method and the parameters under their names. -/
  config : List (String × Value)
  /-- The fused results of a query text. -/
  rerank : String → Batch → Batch → Except Failure Batch

/--
A strategy is fixed once it is made, so that queries can share it.
-/
def Strategy.assign (_ : Strategy) (name : String) (_ : Value) : Except Failure Strategy :=
  .error (.operand (.frozenField name))

def Reranker.asStrategy (r : Reranker) : Strategy where
  name := r.name
  config := r.config
  rerank _ := r.rerank

inductive RerankerChoice where
  | strategy (r : Reranker)
  /-- A strategy of the caller's own, with what tells it from all others. -/
  | own (identity : Nat) (s : Strategy)
  | other (v : Value)

namespace RerankerChoice

variable {α : Type}

def access (name : String) (f : Strategy → α) : RerankerChoice → Except Failure α
  | strategy r => .ok (f r.asStrategy)
  | own _ s => .ok (f s)
  | other v => .error (.operand (.missingAttribute v.kindName name))

def name (c : RerankerChoice) : Except Failure String := c.access "name" Strategy.name

def configured (c : RerankerChoice) : Except Failure Strategy := c.access "get_config" id

def config (c : RerankerChoice) : Except Failure (List (String × Value)) :=
  c.configured.map Strategy.config

def rerank (c : RerankerChoice) (vector fts : Batch) (query : String := "") :
    Except Failure Batch := do
  (← c.access "rerank_hybrid" Strategy.rerank) query vector fts

def required : RerankerChoice → Except Failure RerankerChoice
  | other v => .error (.parameter (.notReranker v.kindName))
  | c => .ok c

def orDefault : RerankerChoice → RerankerChoice
  | other v => if v.isTruthy then other v else strategy .default
  | c => c

/--
Whether two choices are equal. A strategy equals no other datum, and one of the caller's own nothing
but itself.
-/
def equal : RerankerChoice → RerankerChoice → Bool
  | strategy r, strategy s => r.equal s
  | own i _, own j _ => i == j
  | other v, other w => v.equal w
  | _, _ => false

end RerankerChoice

end RankFusion
