import RankFusion.Proofs.Query.Rollback
import RankFusion.Proofs.Query.Rules

/-!
This module contains what builder calls write. Every call but one sets a single setting, after which
the rules are checked that the setting takes part in. The other one adds a vector.
-/

namespace RankFusion

inductive Setting where
  | reranker
  | predicate
  | select
  | limit
  | offset
  | fastSearch
  | postfilter
  | withRowId
  | ftsColumns
  | subSearchLimit
  | column
  | distanceMetric
  | nprobes
  | refineFactor
  | bypassVectorIndex
  | ef
  | minimumNprobes
  | maximumNprobes
  | distanceRange
  deriving DecidableEq

@[reducible]
def Setting.Kind : Setting → Type
  | reranker => RerankerChoice
  | distanceMetric => MetricChoice
  | _ => Value

namespace HybridQuery

def setting (q : HybridQuery) : (s : Setting) → s.Kind
  | .reranker => q.reranker
  | .predicate => q.config.predicate
  | .select => q.config.select
  | .limit => q.config.limit
  | .offset => q.config.offset
  | .fastSearch => q.config.fastSearch
  | .postfilter => q.config.postfilter
  | .withRowId => q.withRowId
  | .ftsColumns => q.config.ftsColumns
  | .subSearchLimit => q.config.subSearchLimit
  | .column => q.config.vector.column
  | .distanceMetric => q.config.vector.distanceMetric
  | .nprobes => q.config.vector.nprobes
  | .refineFactor => q.config.vector.refineFactor
  | .bypassVectorIndex => q.config.vector.bypassVectorIndex
  | .ef => q.config.vector.ef
  | .minimumNprobes => q.config.vector.minimumNprobes
  | .maximumNprobes => q.config.vector.maximumNprobes
  | .distanceRange => q.config.vector.distanceRange

def withConfig (q : HybridQuery) (c : QueryConfig) : HybridQuery := { q with config := c }

def withTuning (q : HybridQuery) (t : VectorTuning) : HybridQuery :=
  q.withConfig { q.config with vector := t }

def setTo (q : HybridQuery) : (s : Setting) → s.Kind → HybridQuery
  | .reranker, c => { q with reranker := c }
  | .predicate, v => q.withConfig { q.config with predicate := v }
  | .select, v => q.withConfig { q.config with select := v }
  | .limit, v => q.withConfig { q.config with limit := v }
  | .offset, v => q.withConfig { q.config with offset := v }
  | .fastSearch, v => q.withConfig { q.config with fastSearch := v }
  | .postfilter, v => q.withConfig { q.config with postfilter := v }
  | .withRowId, v => { q with withRowId := v }
  | .ftsColumns, v => q.withConfig { q.config with ftsColumns := v }
  | .subSearchLimit, v => q.withConfig { q.config with subSearchLimit := v }
  | .column, v => q.withTuning { q.config.vector with column := v }
  | .distanceMetric, m => q.withTuning { q.config.vector with distanceMetric := m }
  | .nprobes, v => q.withTuning { q.config.vector with nprobes := v }
  | .refineFactor, v => q.withTuning { q.config.vector with refineFactor := v }
  | .bypassVectorIndex, v => q.withTuning { q.config.vector with bypassVectorIndex := v }
  | .ef, v => q.withTuning { q.config.vector with ef := v }
  | .minimumNprobes, v => q.withTuning { q.config.vector with minimumNprobes := v }
  | .maximumNprobes, v => q.withTuning { q.config.vector with maximumNprobes := v }
  | .distanceRange, v => q.withTuning { q.config.vector with distanceRange := v }

def withVectors (q : HybridQuery) (vs : Value) : HybridQuery :=
  q.withTuning { q.config.vector with additionalVectors := vs }

variable {q q' : HybridQuery} {s : Setting} {x : s.Kind}

theorem setting_setTo_self : (q.setTo s x).setting s = x := by
  cases s <;> rfl

theorem setting_setTo_of_ne {s' : Setting} (h : s' ≠ s)
    : (q.setTo s x).setting s' = q.setting s' := by
  cases s <;> cases s' <;> first | rfl | exact absurd rfl h

theorem setting_withVectors (vs : Value) : (q.withVectors vs).setting s = q.setting s := by
  cases s <;> rfl

/--
What builder calls never change: what is searched for, and how a run goes about it.
-/
structure SameCore (q q' : HybridQuery) : Prop where
  query : q'.query = q.query
  vector : q'.vector = q.vector
  concurrent : q'.concurrent = q.concurrent
  timeout : q'.timeout = q.timeout

theorem SameCore.refl (q : HybridQuery) : q.SameCore q := ⟨rfl, rfl, rfl, rfl⟩

theorem SameCore.trans {q'' : HybridQuery} (h : q.SameCore q') (h' : q'.SameCore q'')
    : q.SameCore q'' :=
  ⟨h'.query.trans h.query, h'.vector.trans h.vector, h'.concurrent.trans h.concurrent,
    h'.timeout.trans h.timeout⟩

theorem sameCore_setTo : q.SameCore (q.setTo s x) := by
  cases s <;> exact ⟨rfl, rfl, rfl, rfl⟩

theorem sameCore_withVectors (vs : Value) : q.SameCore (q.withVectors vs) :=
  ⟨rfl, rfl, rfl, rfl⟩

theorem additionalVectors_setTo
    : (q.setTo s x).config.vector.additionalVectors = q.config.vector.additionalVectors := by
  cases s <;> rfl

theorem eq_of_setting (hcore : q.SameCore q') (hsettings : ∀ s, q'.setting s = q.setting s)
    (hvectors : q'.config.vector.additionalVectors = q.config.vector.additionalVectors)
    : q' = q := by
  obtain ⟨hquery, hvector, hconcurrent, htimeout⟩ := hcore
  have htuning : q'.config.vector = q.config.vector := by
    rw [VectorTuning.mk.injEq]
    exact ⟨hsettings .column, hsettings .distanceMetric, hsettings .nprobes,
      hsettings .refineFactor, hsettings .bypassVectorIndex, hsettings .ef,
      hsettings .minimumNprobes, hsettings .maximumNprobes, hsettings .distanceRange, hvectors⟩
  have hconfig : q'.config = q.config := by
    rw [QueryConfig.mk.injEq]
    exact ⟨hsettings .predicate, hsettings .fastSearch, hsettings .postfilter, hsettings .select,
      hsettings .limit, hsettings .offset, hsettings .ftsColumns, hsettings .subSearchLimit,
      htuning⟩
  rw [HybridQuery.mk.injEq]
  exact ⟨hquery, hvector, hsettings .reranker, hconfig, hsettings .withRowId, hconcurrent,
    htimeout⟩

end HybridQuery

namespace Setting

def check (s : Setting) (q : HybridQuery) : Except Failure Unit :=
  match s with
  | limit | offset | subSearchLimit => q.config.validate
  | column | distanceMetric | nprobes | refineFactor | bypassVectorIndex | ef | minimumNprobes
  | maximumNprobes | distanceRange => q.config.vector.validate
  | _ => .ok ()

variable {s : Setting} {q : HybridQuery} {x : s.Kind}

theorem check_setTo_iff (h : q.config.Valid)
    : s.check (q.setTo s x) = .ok () ↔ (q.setTo s x).config.Valid := by
  cases s with
  | limit | offset | subSearchLimit => exact QueryConfig.validate_eq_ok_iff
  | column | distanceMetric | nprobes | refineFactor | bypassVectorIndex | ef | minimumNprobes
  | maximumNprobes | distanceRange =>
    apply VectorTuning.validate_eq_ok_iff.trans
    constructor
    . intro hvector
      exact ⟨hvector, h.limit, h.offset, h.subSearchLimit⟩
    . intro hvalid
      exact hvalid.vector
  | _ => exact iff_of_true rfl ⟨h.vector, h.limit, h.offset, h.subSearchLimit⟩

end Setting

namespace BuilderCall

/--
The setting that a call writes, and what it writes there, if its arguments can be taken. A vector
that is added is no setting.
-/
def write? : BuilderCall → Option (Σ s : Setting, Except Failure s.Kind)
  | rerank choice => some ⟨.reranker, choice.required⟩
  | filter p => some ⟨.predicate, .ok p⟩
  | select columns => some ⟨.select, HybridQuery.projection columns⟩
  | limit n => some ⟨.limit, .ok n⟩
  | offset n => some ⟨.offset, .ok n⟩
  | fastSearch => some ⟨.fastSearch, .ok (.bool true)⟩
  | postfilter => some ⟨.postfilter, .ok (.bool true)⟩
  | withRowId enabled => some ⟨.withRowId, .ok enabled⟩
  | ftsColumns columns => some ⟨.ftsColumns, HybridQuery.columnList columns⟩
  | subSearchLimit n => some ⟨.subSearchLimit, .ok n⟩
  | column name => some ⟨.column, .ok name⟩
  | distanceMetric name => some ⟨.distanceMetric, .ok (.ofValue name)⟩
  | nprobes n => some ⟨.nprobes, .ok n⟩
  | refineFactor n => some ⟨.refineFactor, .ok n⟩
  | bypassVectorIndex => some ⟨.bypassVectorIndex, .ok (.bool true)⟩
  | ef n => some ⟨.ef, .ok n⟩
  | minimumNprobes n => some ⟨.minimumNprobes, .ok n⟩
  | maximumNprobes n => some ⟨.maximumNprobes, .ok n⟩
  | distanceRange lower upper => some ⟨.distanceRange, .ok (.list [lower, upper])⟩
  | addQueryVector _ => none

end BuilderCall

namespace HybridQuery

variable {q : HybridQuery} {call : BuilderCall} {s : Setting}

/--
The state after something was written to a setting and checked. A broken rule takes it back, other
failures do not.
-/
def write (q : HybridQuery) (s : Setting) : Except Failure s.Kind → HybridQuery × Option Failure
  | .ok v =>
    match s.check (q.setTo s v) with
    | .ok () => (q.setTo s v, none)
    | .error f => if f.kind.isA .invalidParameter then (q, some f) else (q.setTo s v, some f)
  | .error f => (q, some f)

theorem apply_of_write {x : Except Failure s.Kind} (h : call.write? = some ⟨s, x⟩)
    : q.apply call = q.write s x := by
  cases call with
  | addQueryVector => cases h
  | rerank choice =>
    cases h
    cases choice <;> rfl
  | select columns =>
    cases h
    change q.change ((projection columns).map _) = _
    cases projection columns <;> rfl
  | ftsColumns columns =>
    cases h
    change q.change ((columnList columns).map _) = _
    cases columnList columns <;> rfl
  | _ =>
    cases h
    rfl

end HybridQuery

end RankFusion
