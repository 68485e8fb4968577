import RankFusion.Proofs.Except
import RankFusion.Proofs.Number.Scalar
import RankFusion.Proofs.Value.Printable
import RankFusion.Query.Builder

/-!
This module contains what a builder call that fails leaves behind. A broken rule takes the change
back. A value that a rule cannot be applied to, because it has no order, stays in its place, and so
does one that breaks a rule and cannot be shown in a text. As long as all values that rules compare
are absent or numbers that can be shown, nothing else than broken rules makes a call fail.
-/

namespace RankFusion

variable {α β : Type}

/--
Whether nothing else than a broken rule makes a check fail, and a text can show all data that its
fault names.
-/
def FailsByRule (check : Except Failure α) : Prop :=
  check.Fails fun f => ∃ p : ParameterFault,
    (∀ v ∈ p.shown, v.isPrintable = true) ∧ f = (Failure.parameter p).worded

namespace FailsByRule

theorem ok (a : α) : FailsByRule (.ok a : Except Failure α) := Except.Fails.ok a

theorem throw_worded {p : ParameterFault} (h : ∀ v ∈ p.shown, v.isPrintable = true)
    : FailsByRule (throw (Failure.parameter p).worded : Except Failure α) :=
  Except.Fails.error ⟨p, h, rfl⟩

theorem bind {x : Except Failure α} {g : α → Except Failure β} (hx : FailsByRule x)
    (hg : ∀ a, x = .ok a → FailsByRule (g a))
    : FailsByRule (x >>= g) :=
  Except.Fails.bind hx hg

theorem compare (c : Comparison) (s t : Scalar) {p : ParameterFault}
    (h : ∀ v ∈ p.shown, v.isPrintable = true)
    : FailsByRule
        (do if ← s.toValue.compare c t.toValue then throw (Failure.parameter p).worded) := by
  rw [Scalar.compare_toValue]
  apply bind
  . exact ok _
  . intro broken _
    cases broken with
    | true => exact throw_worded h
    | false => exact ok _

theorem isA {check : Except Failure α} {f : Failure} (h : FailsByRule check)
    (herror : check = .error f)
    : f.kind.isA .invalidParameter = true := by
  obtain ⟨p, hshown, rfl⟩ := h f herror
  rw [@Failure.worded_of_printable (.parameter p) hshown]
  rfl

end FailsByRule

def Value.IsCount (v : Value) : Prop :=
  v = .null ∨ ∃ s : Scalar, v = s.toValue ∧ v.isPrintable = true

theorem failsByRule_requirePositive {v : Value} (h : v.IsCount) (name : String)
    : FailsByRule (requirePositive name v) := by
  unfold requirePositive
  obtain rfl | ⟨s, rfl, hs⟩ := h
  . exact .ok _
  . rw [Scalar.isNull_toValue]
    exact .compare .le s (.int 0) (List.forall_mem_singleton.2 hs)

theorem failsByRule_requireNonNegative {v : Value} (h : v.IsCount) (name : String)
    : FailsByRule (requireNonNegative name v) := by
  unfold requireNonNegative
  obtain rfl | ⟨s, rfl, hs⟩ := h
  . exact .ok _
  . rw [Scalar.isNull_toValue]
    exact .compare .lt s (.int 0) (List.forall_mem_singleton.2 hs)

theorem failsByRule_order {v w : Value} (hv : v.IsCount) (hw : w.IsCount) (c : Comparison)
    {p : ParameterFault} (hshown : p.shown = [v, w])
    : FailsByRule (do
        if !v.isNull && !w.isNull then
          if ← v.compare c w then throw (Failure.parameter p).worded) := by
  obtain rfl | ⟨s, rfl, hs⟩ := hv
  . exact .ok _
  . obtain rfl | ⟨t, rfl, ht⟩ := hw
    . rw [Scalar.isNull_toValue]
      exact .ok _
    . rw [Scalar.isNull_toValue, Scalar.isNull_toValue]
      apply FailsByRule.compare
      rw [hshown]
      exact List.forall_mem_cons.2 ⟨hs, List.forall_mem_singleton.2 ht⟩

namespace VectorTuning

/--
Whether all that the rules compare is absent or a number that a text can show. It can show what
stands for the metric, too, unless that is one.
-/
structure Comparable (t : VectorTuning) : Prop where
  metric : ∀ v, t.distanceMetric = .stray v → v.isPrintable = true
  counts : ∀ c ∈ t.counts, c.2.IsCount
  range : t.distanceRange = .null
    ∨ ∃ lower upper : Value,
        t.distanceRange = .list [lower, upper] ∧ lower.IsCount ∧ upper.IsCount

/--
Whether the counts are absent or numbers that a text can show, and nothing but the order of its
bounds is wrong with the range.
-/
structure Checkable (t : VectorTuning) : Prop where
  metric : ∀ v, t.distanceMetric = .stray v → v.isPrintable = true
  counts : ∀ c ∈ t.counts, c.2.IsCount
  range : FailsByRule t.checkRange

variable {t : VectorTuning}

theorem failsByRule_checkMetric (h : ∀ v, t.distanceMetric = .stray v → v.isPrintable = true)
    : FailsByRule t.checkMetric := by
  unfold checkMetric
  cases hmetric : t.distanceMetric with
  | stray v => exact .throw_worded (List.forall_mem_singleton.2 (h v hmetric))
  | _ => exact .ok _

theorem failsByRule_checkProbes (h : ∀ c ∈ t.counts, c.2.IsCount)
    : FailsByRule t.checkProbes := by
  have hminimum : t.minimumNprobes.IsCount := h ("minimum_nprobes", _) (by simp [counts])
  have hmaximum : t.maximumNprobes.IsCount := h ("maximum_nprobes", _) (by simp [counts])
  exact failsByRule_order hminimum hmaximum .gt rfl

theorem failsByRule_checkRange
    (h : t.distanceRange = .null
      ∨ ∃ lower upper : Value,
          t.distanceRange = .list [lower, upper] ∧ lower.IsCount ∧ upper.IsCount)
    : FailsByRule t.checkRange := by
  unfold checkRange
  obtain hnull | ⟨lower, upper, hrange, hlower, hupper⟩ := h
  . rw [hnull]
    exact .ok _
  . rw [hrange]
    apply FailsByRule.bind
    . exact .ok (lower, upper)
    . rintro _ ⟨⟩
      exact failsByRule_order hlower hupper .ge rfl

theorem Comparable.checkable (h : t.Comparable) : t.Checkable :=
  ⟨h.metric, h.counts, failsByRule_checkRange h.range⟩

theorem failsByRule_validate (h : t.Checkable) : FailsByRule t.validate := by
  unfold validate
  apply FailsByRule.bind
  . exact failsByRule_checkMetric h.metric
  . intro _ _
    apply FailsByRule.bind
    . apply Except.Fails.forM
      intro c hc
      exact failsByRule_requirePositive (h.counts c hc) c.1
    . intro _ _
      apply FailsByRule.bind
      . exact failsByRule_checkProbes h.counts
      . intro _ _
        exact h.range

end VectorTuning

namespace QueryConfig

structure Comparable (c : QueryConfig) : Prop where
  vector : c.vector.Comparable
  limit : c.limit.IsCount
  offset : c.offset.IsCount
  subSearchLimit : c.subSearchLimit.IsCount

structure Checkable (c : QueryConfig) : Prop where
  vector : c.vector.Checkable
  limit : c.limit.IsCount
  offset : c.offset.IsCount
  subSearchLimit : c.subSearchLimit.IsCount

theorem Comparable.checkable {c : QueryConfig} (h : c.Comparable) : c.Checkable :=
  ⟨h.vector.checkable, h.limit, h.offset, h.subSearchLimit⟩

theorem failsByRule_validate {c : QueryConfig} (h : c.Checkable) : FailsByRule c.validate := by
  unfold validate
  apply FailsByRule.bind
  . exact VectorTuning.failsByRule_validate h.vector
  . intro _ _
    apply FailsByRule.bind
    . exact failsByRule_requireNonNegative h.limit _
    . intro _ _
      apply FailsByRule.bind
      . exact failsByRule_requireNonNegative h.offset _
      . intro _ _
        exact failsByRule_requirePositive h.subSearchLimit _

end QueryConfig

namespace BuilderCall

/--
The configuration with the value of a call in its place, if the call puts it there before the rules
are checked.
-/
def staged? (c : QueryConfig) : BuilderCall → Option QueryConfig
  | limit n => some { c with limit := n }
  | offset n => some { c with offset := n }
  | subSearchLimit n => some { c with subSearchLimit := n }
  | column name => some { c with vector := { c.vector with column := name } }
  | distanceMetric name =>
    some { c with vector := { c.vector with distanceMetric := .ofValue name } }
  | nprobes n => some { c with vector := { c.vector with nprobes := n } }
  | refineFactor n => some { c with vector := { c.vector with refineFactor := n } }
  | bypassVectorIndex => some { c with vector := { c.vector with bypassVectorIndex := .bool true } }
  | ef n => some { c with vector := { c.vector with ef := n } }
  | minimumNprobes n => some { c with vector := { c.vector with minimumNprobes := n } }
  | maximumNprobes n => some { c with vector := { c.vector with maximumNprobes := n } }
  | distanceRange lower upper =>
    some { c with vector := { c.vector with distanceRange := .list [lower, upper] } }
  | _ => none

/--
Whether the values of a call that rules compare are absent or numbers that a text can show. It can
show the name of a metric, too, which may be any datum.
-/
def Comparable : BuilderCall → Prop
  | limit n | offset n | subSearchLimit n | nprobes n | refineFactor n | ef n | minimumNprobes n
  | maximumNprobes n => n.IsCount
  | distanceRange lower upper => lower.IsCount ∧ upper.IsCount
  | distanceMetric name => name.isPrintable = true
  | _ => True

end BuilderCall

theorem MetricChoice.eq_of_ofValue {v w : Value} (h : ofValue v = .stray w) : w = v := by
  unfold ofValue at h
  split at h
  . cases h
  . split at h
    . cases h
    . cases h
      rfl

namespace QueryConfig

variable {c changed : QueryConfig} {call : BuilderCall}

theorem Checkable.staged (h : c.Checkable) (hcall : call.Comparable)
    (hstaged : call.staged? c = some changed)
    : changed.Checkable := by
  -- What a call replaces is its own value, and everything else is as before.
  have htune : ∀ t : VectorTuning, t.Checkable → { c with vector := t }.Checkable :=
    fun t ht => ⟨ht, h.limit, h.offset, h.subSearchLimit⟩
  have hcounts : ∀ t : VectorTuning, (∀ e ∈ t.counts, e.2.IsCount) →
      t.distanceMetric = c.vector.distanceMetric → t.distanceRange = c.vector.distanceRange →
      { c with vector := t }.Checkable := by
    intro t ht hmetric hrange
    apply htune
    refine ⟨?_, ht, ?_⟩
    . rw [hmetric]
      exact h.vector.metric
    . unfold VectorTuning.checkRange
      rw [hrange]
      exact h.vector.range
  have hold := h.vector.counts
  simp only [VectorTuning.counts, List.forall_mem_cons] at hcounts hold
  obtain ⟨hnprobes, hrefine, hef, hminimum, hmaximum, hnil⟩ := hold
  cases call with
  | limit =>
    cases hstaged
    exact ⟨h.vector, hcall, h.offset, h.subSearchLimit⟩
  | offset =>
    cases hstaged
    exact ⟨h.vector, h.limit, hcall, h.subSearchLimit⟩
  | subSearchLimit =>
    cases hstaged
    exact ⟨h.vector, h.limit, h.offset, hcall⟩
  | column | bypassVectorIndex =>
    cases hstaged
    apply hcounts
    . exact ⟨hnprobes, hrefine, hef, hminimum, hmaximum, hnil⟩
    . rfl
    . rfl
  | distanceMetric name =>
    cases hstaged
    apply htune
    refine ⟨?_, h.vector.counts, h.vector.range⟩
    intro v hv
    rw [MetricChoice.eq_of_ofValue hv]
    exact hcall
  | nprobes | refineFactor | ef | minimumNprobes | maximumNprobes =>
    cases hstaged
    apply hcounts
    . refine ⟨?_, ?_, ?_, ?_, ?_, hnil⟩ <;> assumption
    . rfl
    . rfl
  | distanceRange lower upper =>
    cases hstaged
    apply htune
    refine ⟨h.vector.metric, h.vector.counts, ?_⟩
    apply VectorTuning.failsByRule_checkRange
    exact .inr ⟨lower, upper, rfl, hcall⟩
  | _ => cases hstaged

end QueryConfig

namespace HybridQuery

variable {q : HybridQuery} {call : BuilderCall} {f : Failure}

theorem apply_cases (q : HybridQuery) (call : BuilderCall)
    : (∃ changed check, call.staged? q.config = some changed
        ∧ q.apply call = q.settle changed check
        ∧ (check = changed.validate ∨ check = changed.vector.validate))
      ∨ (call.staged? q.config = none
        ∧ ∀ f, (q.apply call).2 = some f → (q.apply call).1 = q) := by
  have hchange : ∀ x : Except Failure HybridQuery, ∀ f, (q.change x).2 = some f →
      (q.change x).1 = q := by
    intro x f h
    cases x with
    | ok q' => cases h
    | error g => rfl
  cases call with
  | limit | offset | subSearchLimit => exact .inl ⟨_, _, rfl, rfl, .inl rfl⟩
  | column | distanceMetric | nprobes | refineFactor | bypassVectorIndex | ef | minimumNprobes
  | maximumNprobes | distanceRange => exact .inl ⟨_, _, rfl, rfl, .inr rfl⟩
  | rerank | select | ftsColumns | addQueryVector => exact .inr ⟨rfl, hchange _⟩
  | filter | fastSearch | postfilter | withRowId => exact .inr ⟨rfl, fun _ h => (by cases h)⟩

theorem settle_eq_of_failed {changed : QueryConfig} {check : Except Failure Unit}
    (h : (q.settle changed check).2 = some f)
    : check = .error f
        ∧ (q.settle changed check).1 =
            if f.kind.isA .invalidParameter then q else { q with config := changed } := by
  unfold settle at h ⊢
  cases check with
  | ok _ => cases h
  | error g =>
    have hg : g = f := by
      dsimp only at h
      split at h <;> exact Option.some.inj h
    rw [hg]
    refine ⟨rfl, ?_⟩
    dsimp only
    split <;> rfl

theorem state_of_failed (h : (q.apply call).2 = some f)
    : -- exactly what is left behind
      (q.apply call).1 =
          (if f.kind.isA .invalidParameter then q
            else { q with config := (call.staged? q.config).getD q.config })
        -- nothing but the state before, as long as the rules can be applied to all values, and a
        -- text can show them
        ∧ (q.config.Comparable → call.Comparable →
            (q.apply call).1 = q) := by
  obtain ⟨changed, check, hstaged, happly, hcheck⟩ | ⟨hstaged, hsame⟩ := apply_cases q call
  . rw [happly] at h ⊢
    obtain ⟨herror, hstate⟩ := settle_eq_of_failed h
    rw [hstate, hstaged]
    refine ⟨rfl, ?_⟩
    intro hconfig hcall
    have hchanged := hconfig.checkable.staged hcall hstaged
    have hrule : f.kind.isA .invalidParameter = true := by
      obtain rfl | rfl := hcheck
      . exact (QueryConfig.failsByRule_validate hchanged).isA herror
      . exact (VectorTuning.failsByRule_validate hchanged.vector).isA herror
    rw [if_pos hrule]
  . rw [hsame f h, hstaged]
    exact ⟨(ite_self q).symm, fun _ _ => rfl⟩

theorem state_of_failed_probes
    : let q : HybridQuery :=
        { query := "q", vector := [.one], config := { vector := { maximumNprobes := .int 5 } } }
      let call := BuilderCall.minimumNprobes (.int 9)
      (q.apply call).2 = some (.parameter (.probeOrder (.int 9) (.int 5)))
        ∧ q.config.Comparable
        ∧ call.Comparable
        ∧ (q.apply call).1 = q := by
  intro q call
  have h : (q.apply call).2 = some (.parameter (.probeOrder (.int 9) (.int 5))) := by rfl
  have hcall : call.Comparable := .inr ⟨.int 9, rfl, rfl⟩
  have hconfig : q.config.Comparable := by
    refine ⟨⟨nofun, ?_, .inl rfl⟩, .inl rfl, .inl rfl, .inl rfl⟩
    simp only [VectorTuning.counts, List.forall_mem_cons]
    exact ⟨.inl rfl, .inl rfl, .inl rfl, .inl rfl, .inr ⟨.int 5, rfl, rfl⟩, by simp⟩
  exact ⟨h, hconfig, hcall, (state_of_failed h).2 hconfig hcall⟩

/-- A text that is set as the limit has no order to numbers, and is not taken back. -/
theorem limit_kept_of_failed
    : ∃ (q : HybridQuery) (f : Failure),
        create (.text "q") (.list [.real .one]) (.strategy .default) {} (.bool true) .null .null
            = .ok q
          ∧ let former := (q.apply (.limit (.int 1))).1
            former.config.limit = .int 1
              ∧ (former.apply (.limit (.text "ten"))).2 = some f
              ∧ (former.apply (.limit (.text "ten"))).1.config.limit = .text "ten" :=
  ⟨_, .operand (.unordered "<" "str" "int"), rfl, rfl, rfl, rfl⟩

end HybridQuery

end RankFusion
