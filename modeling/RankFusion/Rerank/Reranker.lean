import RankFusion.Number.Scalar

/-!
This module contains the rerank strategies with their parameters, and the rules that the parameters
have to obey.
-/

namespace RankFusion

inductive RerankMethod where
  | rrf
  | linear
  | mrr
  deriving DecidableEq, Repr

namespace RerankMethod

def name : RerankMethod → String
  | rrf => "rrf"
  | linear => "linear"
  | mrr => "mrr"

def all : List RerankMethod := [rrf, linear, mrr]

def ofName? (s : String) : Option RerankMethod := all.find? fun m => m.name == s

def constructorName : RerankMethod → String
  | rrf => "RRFReranker.__init__"
  | linear => "LinearCombinationReranker.__init__"
  | mrr => "MRRReranker.__init__"

def parameters : RerankMethod → List String
  | rrf => ["k"]
  | linear => ["weight", "fill"]
  | mrr => ["weight_vector", "weight_fts"]

end RerankMethod

inductive Reranker where
  /-- Reciprocal rank fusion with the fusion constant `k`. -/
  | rrf (k : Scalar)
  /-- The linear combination of distance and score, with the share of the vector side and the value
  for a missing side. -/
  | linear (weight fill : Scalar)
  /-- The weighted mean reciprocal rank. -/
  | mrr (weightVector weightFts : Scalar)
  deriving DecidableEq

namespace Reranker

def defaultConstant : Binary := .finite 60

def defaultWeight : Binary := Decimal.read false 7 (-1)

def defaultRankWeight : Binary := Decimal.read false 5 (-1)

def default : Reranker := rrf (.real defaultConstant)

def method : Reranker → RerankMethod
  | rrf .. => .rrf
  | linear .. => .linear
  | mrr .. => .mrr

def name (r : Reranker) : String := r.method.name

def parameters : Reranker → List (String × Scalar)
  | rrf k => [("k", k)]
  | linear weight fill => [("weight", weight), ("fill", fill)]
  | mrr weightVector weightFts => [("weight_vector", weightVector), ("weight_fts", weightFts)]

def config (r : Reranker) : List (String × Value) :=
  ("method", .text r.name) :: r.parameters.map fun p => (p.1, p.2.toValue)

def equal (r s : Reranker) : Bool :=
  r.method == s.method && (r.parameters.zip s.parameters).all fun p => p.1.2.equal p.2.2

/--
Requires a relation between a parameter and a bound. The bound stands on the side on which the
relation is evaluated.
-/
def requireOrder (c : Comparison) (left right : Value) (fault : ParameterFault) :
    Except Failure Unit := do
  if !(← left.compare c right) then throw (Failure.parameter fault).worded

def requireUnit (value : Value) (fault : ParameterFault) : Except Failure Unit := do
  requireOrder .le (.int 0) value fault
  requireOrder .le value (.int 1) fault

def weightTolerance : Binary := Decimal.read false 1 (-6)

def requireScalar (value : Value) : Except Failure Scalar :=
  match Scalar.ofValue? value with
  | some s => .ok s
  | none => .error (.operand (.notNumber value.kindName))

def ofConstant (k : Value) : Except Failure Reranker := do
  requireOrder .gt k (.int 0) (.fusionConstant k)
  return rrf (← requireScalar k)

def ofWeights (weight fill : Value) : Except Failure Reranker := do
  requireUnit weight (.share weight)
  requireOrder .ge fill (.int 0) (.negative "fill" fill)
  return linear (← requireScalar weight) (← requireScalar fill)

def sumsToOne (total : Binary) : Bool :=
  !weightTolerance.lt (Format.double.sub total .one).abs

def ofRankWeights (weightVector weightFts : Value) : Except Failure Reranker := do
  requireUnit weightVector (.rankWeight "weight_vector" weightVector)
  requireUnit weightFts (.rankWeight "weight_fts" weightFts)
  let v ← requireScalar weightVector
  let f ← requireScalar weightFts
  let total ← v.add f
  if !sumsToOne (← total.toReal) then throw (Failure.parameter (.weightSum total.toValue)).worded
  return mrr v f

def ofMethod (m : RerankMethod) (params : List (String × Value)) : Except Failure Reranker :=
  let parameter (name : String) (usual : Binary) := (Value.lookup? name params).getD (.real usual)
  match m with
  | .rrf => ofConstant (parameter "k" defaultConstant)
  | .linear => ofWeights (parameter "weight" defaultWeight) (parameter "fill" .one)
  | .mrr =>
    ofRankWeights (parameter "weight_vector" defaultRankWeight)
      (parameter "weight_fts" defaultRankWeight)

/--
A failure of a strategy's constructor as a fault of its parameters. Operands of a wrong kind are
reported under the method's name.
-/
def parameterFailure (m : RerankMethod) (f : Failure) : Failure :=
  if f.kind.isA .type then .parameter (.methodParameters m.name f.message) else f

def ofNamed (m : RerankMethod) (params : List (String × Value)) : Except Failure Reranker := do
  requireKeywords m.constructorName m.parameters params
  ofMethod m params

def method? : Value → Option RerankMethod
  | .text s => RerankMethod.ofName? s
  | _ => none

def methodParameter : String := "method"

/--
The strategy of a method name with parameters by name. The method is not given again among them.
-/
def create (method : Value) (params : List (String × Value)) : Except Failure Reranker :=
  if (Value.lookup? methodParameter params).isSome then
    .error (.operand (.repeatedArgument "create_reranker" methodParameter))
  else
    match method? method with
    | none => .error (Failure.parameter (.unknownMethod method)).worded
    | some m => do
      let r ← (ofNamed m params).mapError (parameterFailure m)
      -- The log shows the new strategy with its parameters.
      Value.requirePrintable (r.config.map (·.2))
      return r

/--
The strategy of parameters by name, of which the method may be one. The usual method is reciprocal
rank fusion.
-/
def ofParameters (params : List (String × Value)) : Except Failure Reranker :=
  create ((Value.lookup? methodParameter params).getD (.text RerankMethod.rrf.name))
    (params.filter fun p => p.1 != methodParameter)

end Reranker

end RankFusion
