import RankFusion.Proofs.Query.Report
import RankFusion.Proofs.Query.Setting

/-!
This module contains what builder calls one after the other come to. From a configuration that obeys
its rules, a call takes effect and keeps them, or it changes nothing, as long as all numbers can be
shown in a text. So the calls that failed can be left out.
-/

namespace RankFusion

theorem Value.IsPositive.isCount {v : Value} (h : v.IsPositive)
    (hP : v.isPrintable = true)
    : v.IsCount :=
  h.imp_right fun ⟨s, hs, _⟩ => ⟨s, hs, hP⟩

theorem Value.IsNonNegative.isCount {v : Value} (h : v.IsNonNegative)
    (hP : v.isPrintable = true)
    : v.IsCount :=
  h.imp_right fun ⟨s, hs, _⟩ => ⟨s, hs, hP⟩

def QueryConfig.counts (c : QueryConfig) : List Value :=
  c.limit :: c.offset :: c.subSearchLimit :: c.vector.counts.map (·.2)

theorem QueryConfig.Valid.checkable {c : QueryConfig} (h : c.Valid)
    (hcounts : ∀ v ∈ c.counts, v.isPrintable = true)
    : c.Checkable := by
  unfold QueryConfig.counts at hcounts
  simp only [List.forall_mem_cons, List.forall_mem_map] at hcounts
  obtain ⟨hlimit, hoffset, hsub, hvector⟩ := hcounts
  refine ⟨⟨?metric, fun e he => (h.vector.counts e he).isCount (hvector e he), ?range⟩,
    h.limit.isCount hlimit, h.offset.isCount hoffset, h.subSearchLimit.isCount hsub⟩
  case metric => exact fun v hv => absurd hv (h.vector.metric v)
  case range =>
    rw [VectorTuning.checkRange_eq_ok_iff.2 h.vector.range]
    exact .ok ()

namespace HybridQuery

def applied (q : HybridQuery) (call : BuilderCall) : Except Failure HybridQuery :=
  match q.apply call with
  | (changed, none) => .ok changed
  | (_, some f) => .error f

/--
The query after calls in a row. The first one that fails ends the row.
-/
def chain (q : HybridQuery) (calls : List BuilderCall) : Except Failure HybridQuery :=
  calls.foldlM applied q

structure Grows (q q' : HybridQuery) : Prop where
  core : q.SameCore q'
  named : ∀ name, q.reranker.name = .ok name → ∃ name', q'.reranker.name = .ok name'
  vectors : ∀ vs, q.config.vector.additionalVectors = .list vs →
    ∃ added : List (List Binary),
      q'.config.vector.additionalVectors = .list (vs ++ added.map fun v => .list (v.map .real))
        ∧ ∀ v ∈ added, v.length = q.vector.length

variable {q q' : HybridQuery} {call : BuilderCall}

theorem applied_of_write {s : Setting} {v : s.Kind} (h : call.write? = some ⟨s, .ok v⟩)
    : q.applied call = (s.check (q.setTo s v)).map fun _ => q.setTo s v := by
  unfold applied
  rw [apply_of_write h]
  unfold write
  dsimp only
  cases s.check (q.setTo s v) with
  | ok _ => rfl
  | error f =>
    dsimp only
    cases f.kind.isA .invalidParameter <;> rfl

theorem Grows.refl (q : HybridQuery) : q.Grows q where
  core := .refl q
  named := fun name h => ⟨name, h⟩
  vectors := fun vs h => ⟨[], by simpa using h, nofun⟩

theorem Grows.trans {q'' : HybridQuery} (h : q.Grows q') (h' : q'.Grows q'') : q.Grows q'' where
  core := h.core.trans h'.core
  named := by
    intro name hname
    obtain ⟨name', hname'⟩ := h.named name hname
    exact h'.named name' hname'
  vectors := by
    intro vs hvs
    obtain ⟨added, hadded, hlength⟩ := h.vectors vs hvs
    obtain ⟨more, hmore, hlength'⟩ := h'.vectors _ hadded
    refine ⟨added ++ more, ?_, ?_⟩
    . rw [hmore]
      simp
    . intro v hv
      rw [List.mem_append] at hv
      cases hv with
      | inl hv => exact hlength v hv
      | inr hv =>
        rw [hlength' v hv, h.core.vector]

section Write

variable {s : Setting} {x : Except Failure s.Kind}

end Write

section Vectors

variable {v w : Value}

theorem valid_withVectors (h : q.config.Valid) : (q.withVectors w).config.Valid where
  vector := ⟨h.vector.metric, h.vector.counts, h.vector.probes, h.vector.range⟩
  limit := h.limit
  offset := h.offset
  subSearchLimit := h.subSearchLimit

end Vectors

end HybridQuery

end RankFusion
