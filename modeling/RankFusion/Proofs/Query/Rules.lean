import RankFusion.Proofs.Except
import RankFusion.Proofs.Number.Scalar
import RankFusion.Query.Config

/-!
This module contains what the rules of a configuration admit. Counts are absent or numbers of the
right sign, and the two bounds of a pair are in order unless one of them is absent. A rule compares
numbers of any kind, and NaN breaks none.
-/

namespace RankFusion

namespace Value

/--
Whether a datum is absent or a number that is zero or greater, if it is no NaN.
-/
def IsNonNegative (v : Value) : Prop :=
  v = .null
    ∨ ∃ s : Scalar, v = s.toValue ∧ (s.exact.isNaN = false → Binary.zero.le s.exact = true)

def IsPositive (v : Value) : Prop :=
  v = .null
    ∨ ∃ s : Scalar, v = s.toValue ∧ (s.exact.isNaN = false → Binary.zero.lt s.exact = true)

/--
Whether two data can be compared and a relation does not hold between them, unless one is absent.
-/
def Excludes (c : Comparison) (v w : Value) : Prop :=
  v = .null ∨ w = .null ∨ v.compare c w = .ok false

theorem compare_int_eq_ok_iff {c : Comparison} {v : Value} {n : Int} {b : Bool}
    : v.compare c (.int n) = .ok b
        ↔ ∃ s : Scalar, v = s.toValue ∧ c.onReal s.exact (Scalar.int n).exact = b := by
  constructor
  . intro h
    obtain ⟨s, rfl⟩ : ∃ s : Scalar, v = s.toValue := by
      cases v with
      | bool b => exact ⟨.bool b, rfl⟩
      | int m => exact ⟨.int m, rfl⟩
      | real x => exact ⟨.real x, rfl⟩
      | _ => simp [compare, number?] at h
    refine ⟨s, rfl, ?_⟩
    have hcompare := Scalar.compare_toValue c s (.int n)
    exact Except.ok.inj (hcompare.symm.trans h)
  . rintro ⟨s, rfl, rfl⟩
    exact Scalar.compare_toValue c s (.int n)

theorem isNull_eq_true_iff {v : Value} : v.isNull = true ↔ v = .null := by
  cases v <;> simp [isNull]

section OfNullOr

variable {v w : Value}

theorem IsPositive.of_null_or (h : v = .null ∨ v = w) (hw : w.IsPositive) : v.IsPositive := by
  obtain rfl | rfl := h
  . exact .inl rfl
  . exact hw

theorem IsNonNegative.of_null_or (h : v = .null ∨ v = w) (hw : w.IsNonNegative)
    : v.IsNonNegative := by
  obtain rfl | rfl := h
  . exact .inl rfl
  . exact hw

theorem Excludes.of_null_or {c : Comparison} {v' w' : Value} (h : v = .null ∨ v = v')
    (h' : w = .null ∨ w = w') (hexcludes : Excludes c v' w')
    : Excludes c v w := by
  obtain rfl | rfl := h
  . exact .inl rfl
  . obtain rfl | rfl := h'
    . exact .inr (.inl rfl)
    . exact hexcludes

end OfNullOr

end Value

section Checks

variable {v w : Value} (name : String)

theorem throw_of_compare_eq_ok_iff {c : Comparison} {f : Failure}
    : (do if ← v.compare c w then throw f : Except Failure Unit) = .ok ()
        ↔ v.compare c w = .ok false := by
  cases v.compare c w with
  | error f => simp [bind, Except.bind]
  | ok broken =>
    cases broken with
    | true => exact iff_of_false Except.throw_ne_ok nofun
    | false => exact iff_of_true rfl rfl

theorem requirePositive_eq_ok_iff : requirePositive name v = .ok () ↔ v.IsPositive := by
  unfold requirePositive Value.IsPositive
  cases hnull : v.isNull with
  | true => exact iff_of_true rfl (.inl (Value.isNull_eq_true_iff.1 hnull))
  | false =>
    have hpresent : v ≠ .null := by
      rintro rfl
      cases hnull
    simp only [Bool.not_false, if_true, throw_of_compare_eq_ok_iff, hpresent, false_or,
      Value.compare_int_eq_ok_iff, Comparison.onReal, Binary.le_eq_false_iff,
      Scalar.isNaN_exact_int, forall_const]
    rfl

theorem requireNonNegative_eq_ok_iff : requireNonNegative name v = .ok () ↔ v.IsNonNegative := by
  unfold requireNonNegative Value.IsNonNegative
  cases hnull : v.isNull with
  | true => exact iff_of_true rfl (.inl (Value.isNull_eq_true_iff.1 hnull))
  | false =>
    have hpresent : v ≠ .null := by
      rintro rfl
      cases hnull
    simp only [Bool.not_false, if_true, throw_of_compare_eq_ok_iff, hpresent, false_or,
      Value.compare_int_eq_ok_iff, Comparison.onReal, Binary.lt_eq_false_iff,
      Scalar.isNaN_exact_int, forall_const]
    rfl

theorem excludes_eq_ok_iff {c : Comparison} {f : Failure}
    : (do
        if !v.isNull && !w.isNull then
          if ← v.compare c w then throw f : Except Failure Unit) = .ok ()
        ↔ Value.Excludes c v w := by
  unfold Value.Excludes
  rw [← Value.isNull_eq_true_iff, ← Value.isNull_eq_true_iff]
  cases v.isNull with
  | true => exact iff_of_true rfl (.inl rfl)
  | false =>
    cases w.isNull with
    | true => exact iff_of_true rfl (.inr (.inl rfl))
    | false =>
      simp only [Bool.not_false, Bool.and_self, if_true, throw_of_compare_eq_ok_iff,
        Bool.false_eq_true, false_or]

end Checks

namespace VectorTuning

structure Valid (t : VectorTuning) : Prop where
  metric : ∀ v, t.distanceMetric ≠ .stray v
  counts : ∀ c ∈ t.counts, c.2.IsPositive
  probes : Value.Excludes .gt t.minimumNprobes t.maximumNprobes
  range : t.distanceRange = .null
    ∨ ∃ lower upper, t.distanceRange.pair = .ok (lower, upper) ∧ Value.Excludes .ge lower upper

variable {t : VectorTuning}

theorem checkMetric_eq_ok_iff : t.checkMetric = .ok () ↔ ∀ v, t.distanceMetric ≠ .stray v := by
  unfold checkMetric
  cases t.distanceMetric with
  | stray v => exact iff_of_false Except.throw_ne_ok fun h => h v rfl
  | _ => exact iff_of_true rfl nofun

theorem checkProbes_eq_ok_iff
    : t.checkProbes = .ok () ↔ Value.Excludes .gt t.minimumNprobes t.maximumNprobes := by
  unfold checkProbes
  exact excludes_eq_ok_iff

theorem checkRange_eq_ok_iff
    : t.checkRange = .ok ()
        ↔ t.distanceRange = .null
          ∨ ∃ lower upper, t.distanceRange.pair = .ok (lower, upper)
            ∧ Value.Excludes .ge lower upper := by
  unfold checkRange
  rw [← Value.isNull_eq_true_iff]
  cases t.distanceRange.isNull with
  | true => exact iff_of_true rfl (.inl rfl)
  | false =>
    simp only [Bool.not_false, if_true, Bool.false_eq_true, false_or, Except.bind_eq_ok_iff,
      Prod.exists]
    simp only [excludes_eq_ok_iff]

theorem validate_eq_ok_iff : t.validate = .ok () ↔ t.Valid := by
  unfold validate
  rw [Except.bind_unit_eq_ok_iff, Except.bind_unit_eq_ok_iff, Except.bind_unit_eq_ok_iff,
    List.forM_eq_ok_iff, checkMetric_eq_ok_iff, checkProbes_eq_ok_iff, checkRange_eq_ok_iff]
  simp only [requirePositive_eq_ok_iff]
  exact ⟨fun ⟨hmetric, hcounts, hprobes, hrange⟩ => ⟨hmetric, hcounts, hprobes, hrange⟩,
    fun h => ⟨h.metric, h.counts, h.probes, h.range⟩⟩

end VectorTuning

namespace QueryConfig

structure Valid (c : QueryConfig) : Prop where
  vector : c.vector.Valid
  limit : c.limit.IsNonNegative
  offset : c.offset.IsNonNegative
  subSearchLimit : c.subSearchLimit.IsPositive

variable {c : QueryConfig}

theorem validate_eq_ok_iff : c.validate = .ok () ↔ c.Valid := by
  unfold validate
  rw [Except.bind_unit_eq_ok_iff, Except.bind_unit_eq_ok_iff, Except.bind_unit_eq_ok_iff,
    VectorTuning.validate_eq_ok_iff, requireNonNegative_eq_ok_iff, requireNonNegative_eq_ok_iff,
    requirePositive_eq_ok_iff]
  exact ⟨fun ⟨hvector, hlimit, hoffset, hsub⟩ => ⟨hvector, hlimit, hoffset, hsub⟩,
    fun h => ⟨h.vector, h.limit, h.offset, h.subSearchLimit⟩⟩

end QueryConfig

end RankFusion
