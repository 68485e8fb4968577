import RankFusion.Proofs.Query.Calls
import RankFusion.Proofs.Query.Window
import RankFusion.Proofs.Request.Build

/-!
This module contains the two ways from a request to a query: its configuration is made at once, or
the query is made first and then told one field after the other. In whichever order the fields are
told, the rules hold in between if they hold in the end, since what is not told yet breaks none.
-/

namespace RankFusion

def BuilderCall.added? : BuilderCall → Option Value
  | addQueryVector v => some v
  | _ => none

theorem BuilderCall.added?_of_write {call : BuilderCall} {w : Σ s : Setting, Except Failure s.Kind}
    (h : call.write? = some w)
    : call.added? = none := by
  cases call with
  | addQueryVector => cases h
  | _ => rfl

namespace HybridQuery

section Reply

variable {σ τ : Type} {ex : Executor σ} {reply : SubSearch → Reply}

end Reply

end HybridQuery

namespace QueryRequest

def settings : List Setting :=
  [.predicate, .select, .limit, .offset, .fastSearch, .postfilter, .ftsColumns, .subSearchLimit,
   .column, .distanceMetric, .nprobes, .refineFactor, .bypassVectorIndex, .ef, .minimumNprobes,
   .maximumNprobes, .distanceRange, .withRowId]

def callFor (r : QueryRequest) : Setting → Option BuilderCall
  | .reranker => none
  | .predicate => r.filter.map fun p => .filter (.text p)
  | .select => r.select.map fun columns => .select columns.toValue
  | .limit => r.limit.map fun n => .limit (.int n)
  | .offset => r.offset.map fun n => .offset (.int n)
  | .fastSearch => if r.fastSearch then some .fastSearch else none
  | .postfilter => if r.postfilter then some .postfilter else none
  | .withRowId => some (.withRowId (.bool r.withRowId))
  | .ftsColumns => r.ftsColumns.map fun columns => .ftsColumns (textsValue columns)
  | .subSearchLimit => r.subSearchLimit.map fun n => .subSearchLimit (.int n)
  | .column => r.column.map fun name => .column (.text name)
  | .distanceMetric => r.distanceMetric.map fun m => .distanceMetric (.text m.name)
  | .nprobes => r.nprobes.map fun n => .nprobes (.int n)
  | .refineFactor => r.refineFactor.map fun n => .refineFactor (.int n)
  | .bypassVectorIndex => if r.bypassVectorIndex then some .bypassVectorIndex else none
  | .ef => r.ef.map fun n => .ef (.int n)
  | .minimumNprobes => r.minimumNprobes.map fun n => .minimumNprobes (.int n)
  | .maximumNprobes => r.maximumNprobes.map fun n => .maximumNprobes (.int n)
  | .distanceRange => r.distanceRange.map fun bounds =>
      .distanceRange (optionalValue .real (bounds.getD 0 none))
        (optionalValue .real (bounds.getD 1 none))

/--
The calls that tell a query all that a request says: one for each field that is set, and one for
each additional vector.
-/
def calls (r : QueryRequest) : List BuilderCall :=
  settings.filterMap r.callFor ++ r.additionalVectors.map fun v => .addQueryVector (vectorValue v)

variable {r : QueryRequest} {s : Setting} {call : BuilderCall} {concurrent : Value}

theorem write?_of_callFor (h : r.InBounds) (hcall : r.callFor s = some call) (concurrent : Value)
    : call.write? = some ⟨s, .ok ((r.asked concurrent).setting s)⟩ := by
  unfold HybridQuery.setting asked config tuning
  cases s with
  | reranker => cases hcall
  | withRowId =>
    cases hcall
    rfl
  | fastSearch | postfilter | bypassVectorIndex =>
    unfold callFor at hcall
    dsimp only at hcall ⊢
    split at hcall
    . next hset =>
      cases hcall
      rw [hset]
      rfl
    . cases hcall
  | distanceRange =>
    obtain ⟨bounds, hbounds, rfl⟩ := Option.map_eq_some_iff.1 hcall
    obtain ⟨lower, upper, rfl⟩ := List.length_eq_two.1 (h.distanceRange bounds hbounds)
    dsimp only
    rw [hbounds]
    rfl
  | distanceMetric =>
    obtain ⟨m, hm, rfl⟩ := Option.map_eq_some_iff.1 hcall
    dsimp only
    rw [hm]
    cases m <;> rfl
  | select =>
    obtain ⟨columns, hcolumns, rfl⟩ := Option.map_eq_some_iff.1 hcall
    dsimp only
    rw [hcolumns]
    cases columns <;> rfl
  | _ =>
    obtain ⟨x, hx, rfl⟩ := Option.map_eq_some_iff.1 hcall
    dsimp only
    rw [hx]
    rfl

theorem callFor_inj {s' : Setting} (h : r.InBounds) (hcall : r.callFor s = some call)
    (hcall' : r.callFor s' = some call)
    : s' = s := by
  have hwrite := write?_of_callFor h hcall .null
  have hwrite' := write?_of_callFor h hcall' .null
  rw [hwrite] at hwrite'
  exact (congrArg Sigma.fst (Option.some.inj hwrite')).symm

theorem added?_of_callFor (h : r.InBounds) (hcall : r.callFor s = some call)
    : call.added? = none :=
  BuilderCall.added?_of_write (write?_of_callFor h hcall .null)

theorem optionalValue_of_null_or {α : Type} {f : α → Value} {o : Option α} {v : Value}
    (h : v = .null ∨ v = optionalValue f o)
    : ∃ o', (o' = none ∨ o' = o) ∧ v = optionalValue f o' := by
  obtain hnull | hpresent := h
  . exact ⟨none, .inl rfl, hnull⟩
  . exact ⟨o, .inr rfl, hpresent⟩

theorem mem_of_none_or {α : Type} {p : α → Prop} {o o' : Option α} (h : o' = none ∨ o' = o)
    (hall : ∀ a ∈ o, p a)
    : ∀ a ∈ o', p a := by
  obtain rfl | rfl := h
  . exact nofun
  . exact hall

/--
Whether every setting of a query is the usual one or as a request asks for.
-/
def Between (r : QueryRequest) (concurrent : Value) (q : HybridQuery) : Prop :=
  ∀ s, q.setting s = (r.started {} concurrent).setting s
    ∨ q.setting s = (r.asked concurrent).setting s

theorem Misordered.of_none_or {r' : QueryRequest} {fault : ParameterFault}
    (hmin : r'.minimumNprobes = none ∨ r'.minimumNprobes = r.minimumNprobes)
    (hmax : r'.maximumNprobes = none ∨ r'.maximumNprobes = r.maximumNprobes)
    (hrange : r'.distanceRange = none ∨ r'.distanceRange = r.distanceRange)
    (h : r'.Misordered fault)
    : r.Misordered fault := by
  cases h with
  | probes hleast hmost hlt =>
    rw [hleast] at hmin
    rw [hmost] at hmax
    exact .probes (hmin.resolve_left nofun).symm (hmax.resolve_left nofun).symm hlt
  | range hbounds hle =>
    rw [hbounds] at hrange
    exact .range (hrange.resolve_left nofun).symm hle

section Check

variable {q : HybridQuery}

theorem Between.checkMetric (h : r.Between concurrent q)
    : q.config.vector.checkMetric = .ok () := by
  rw [VectorTuning.checkMetric_eq_ok_iff]
  intro v hstray
  obtain husual | hasked := h .distanceMetric
  . cases hstray.symm.trans husual
  . have hok := VectorTuning.checkMetric_eq_ok_iff.1 (checkMetric_tuning r)
    exact hok v (hasked.symm.trans hstray)

theorem Between.counts (hbounds : r.InBounds) (h : r.Between concurrent q)
    : (q.config.vector.counts.forM fun c => requirePositive c.1 c.2) = .ok () := by
  have hcounts := counts_tuning hbounds
  rw [List.forM_eq_ok_iff] at hcounts ⊢
  simp only [VectorTuning.counts, List.forall_mem_cons, requirePositive_eq_ok_iff] at hcounts ⊢
  obtain ⟨hnprobes, hrefine, hef, hminimum, hmaximum, _⟩ := hcounts
  exact ⟨hnprobes.of_null_or (h .nprobes), hrefine.of_null_or (h .refineFactor),
    hef.of_null_or (h .ef), hminimum.of_null_or (h .minimumNprobes),
    hmaximum.of_null_or (h .maximumNprobes), List.forall_mem_nil _⟩

theorem Between.validate_tuning (hbounds : r.InBounds) (h : r.Between concurrent q)
    : q.config.vector.validate = .ok ()
        ∨ ∃ fault, r.Misordered fault
          ∧ q.config.vector.validate = .error (Failure.parameter fault).worded := by
  obtain ⟨least, hleast, hmin⟩ := optionalValue_of_null_or (h .minimumNprobes)
  obtain ⟨most, hmost, hmax⟩ := optionalValue_of_null_or (h .maximumNprobes)
  obtain ⟨bounds, hwithin, hrange⟩ := optionalValue_of_null_or (h .distanceRange)
  -- the request that says of the bounds what is told so far
  let r' : QueryRequest :=
    { r with minimumNprobes := least, maximumNprobes := most, distanceRange := bounds }
  have hprobes : q.config.vector.checkProbes = r'.tuning.checkProbes := by
    change q.config.vector.minimumNprobes = r'.tuning.minimumNprobes at hmin
    change q.config.vector.maximumNprobes = r'.tuning.maximumNprobes at hmax
    unfold VectorTuning.checkProbes
    rw [hmin, hmax]
  have hordered : q.config.vector.checkRange = r'.tuning.checkRange := by
    change q.config.vector.distanceRange = r'.tuning.distanceRange at hrange
    unfold VectorTuning.checkRange
    rw [hrange]
  have hbounds' : r'.InBounds :=
    { hbounds with
      minimumNprobes := mem_of_none_or hleast hbounds.minimumNprobes
      maximumNprobes := mem_of_none_or hmost hbounds.maximumNprobes
      distanceRange := mem_of_none_or hwithin hbounds.distanceRange }
  unfold VectorTuning.validate
  rw [h.checkMetric, h.counts hbounds, hprobes, hordered]
  obtain ⟨hok, _⟩ | ⟨fault, hfault, herror⟩ := checkProbes_cases r'
  . rw [hok]
    obtain ⟨hok', _⟩ | ⟨fault, hfault, herror⟩ := checkRange_cases hbounds'
    . exact .inl hok'
    . exact .inr ⟨fault, hfault.of_none_or hleast hmost hwithin, herror⟩
  . rw [herror]
    exact .inr ⟨fault, hfault.of_none_or hleast hmost hwithin, rfl⟩

theorem Between.check (hbounds : r.InBounds) (h : r.Between concurrent q) (s : Setting)
    : s.check q = .ok ()
        ∨ ∃ fault, r.Misordered fault
          ∧ s.check q = .error (Failure.parameter fault).worded := by
  have hvector := h.validate_tuning hbounds
  cases s with
  | limit | offset | subSearchLimit =>
    have hlimit : q.config.limit.IsNonNegative :=
      ((requireNonNegative_eq_ok_iff "limit").1
        (requireNonNegative_count hbounds.limit _)).of_null_or (h .limit)
    have hoffset : q.config.offset.IsNonNegative :=
      ((requireNonNegative_eq_ok_iff "offset").1
        (requireNonNegative_count hbounds.offset _)).of_null_or (h .offset)
    have hsub : q.config.subSearchLimit.IsPositive :=
      ((requirePositive_eq_ok_iff "sub_search_limit").1
        (requirePositive_count hbounds.subSearchLimit _)).of_null_or (h .subSearchLimit)
    have hvalidate : q.config.validate = q.config.vector.validate := by
      unfold QueryConfig.validate
      rw [(requireNonNegative_eq_ok_iff _).2 hlimit, (requireNonNegative_eq_ok_iff _).2 hoffset,
        (requirePositive_eq_ok_iff _).2 hsub]
      cases q.config.vector.validate <;> rfl
    unfold Setting.check
    dsimp only
    rw [hvalidate]
    exact hvector
  | column | distanceMetric | nprobes | refineFactor | bypassVectorIndex | ef | minimumNprobes
  | maximumNprobes | distanceRange => exact hvector
  | _ => exact .inl rfl

end Check

/--
Whether a query is on its way from the start to what a request asks for: some calls were made, and
every setting is as it was at the start or as it is asked for.
-/
structure OnWay (r : QueryRequest) (concurrent : Value) (made : List BuilderCall)
    (q : HybridQuery) : Prop where
  core : (r.asked concurrent).SameCore q
  between : r.Between concurrent q
  told : ∀ s call, r.callFor s = some call → call ∈ made →
    q.setting s = (r.asked concurrent).setting s
  vectors : q.config.vector.additionalVectors = .list (made.filterMap BuilderCall.added?)

namespace OnWay

variable {made : List BuilderCall} {q : HybridQuery}

theorem start : r.OnWay concurrent [] (r.started {} concurrent) where
  core := ⟨rfl, rfl, rfl, rfl⟩
  between := fun _ => .inl rfl
  told := fun _ _ _ hmem => absurd hmem List.not_mem_nil
  vectors := rfl

theorem setTo (hbounds : r.InBounds) (h : r.OnWay concurrent made q)
    (hcall : r.callFor s = some call) {x : s.Kind} (hx : x = (r.asked concurrent).setting s)
    : r.OnWay concurrent (made ++ [call]) (q.setTo s x) where
  core := h.core.trans HybridQuery.sameCore_setTo
  between := by
    intro s'
    by_cases heq : s' = s
    . subst heq
      right
      rw [HybridQuery.setting_setTo_self, hx]
    . rw [HybridQuery.setting_setTo_of_ne heq]
      exact h.between s'
  told := by
    intro s' call' hcall' hmem
    by_cases heq : s' = s
    . subst heq
      rw [HybridQuery.setting_setTo_self, hx]
    . rw [HybridQuery.setting_setTo_of_ne heq]
      rw [List.mem_append, List.mem_singleton] at hmem
      obtain hmem | rfl := hmem
      . exact h.told s' call' hcall' hmem
      . exact absurd (callFor_inj hbounds hcall hcall') heq
  vectors := by
    rw [HybridQuery.additionalVectors_setTo, h.vectors, List.filterMap_append]
    simp [added?_of_callFor hbounds hcall]

theorem withVectors (hbounds : r.InBounds) (h : r.OnWay concurrent made q) {v : Value}
    : r.OnWay concurrent (made ++ [.addQueryVector v])
        (q.withVectors (.list (made.filterMap BuilderCall.added? ++ [v]))) where
  core := h.core.trans (HybridQuery.sameCore_withVectors _)
  between := by
    intro s
    rw [HybridQuery.setting_withVectors]
    exact h.between s
  told := by
    intro s call hcall hmem
    rw [HybridQuery.setting_withVectors]
    rw [List.mem_append, List.mem_singleton] at hmem
    obtain hmem | rfl := hmem
    . exact h.told s call hcall hmem
    . cases added?_of_callFor hbounds hcall
  vectors := by
    rw [List.filterMap_append]
    rfl

end OnWay

section Chain

variable {made : List BuilderCall} {q : HybridQuery}

end Chain

theorem Misordered.isPrintable {fault : ParameterFault} (h : r.Misordered fault)
    (hprobes : ∀ n, n ∈ r.minimumNprobes ∨ n ∈ r.maximumNprobes → Numeral.isWithinLimit n = true)
    : ∀ v ∈ fault.shown, v.isPrintable = true := by
  cases h with
  | probes hmin hmax =>
    exact List.forall_mem_cons.2
      ⟨hprobes _ (.inl hmin), List.forall_mem_singleton.2 (hprobes _ (.inr hmax))⟩
  | range => exact List.forall_mem_cons.2 ⟨rfl, List.forall_mem_singleton.2 rfl⟩

end QueryRequest

end RankFusion
