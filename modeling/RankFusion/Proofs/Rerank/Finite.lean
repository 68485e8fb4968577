import RankFusion.Proofs.Number.Interval
import RankFusion.Proofs.Rerank.Parameter
import RankFusion.Proofs.Rerank.Relevance

/-!
This module contains bounds on the relevance of a row. It is a number if the constant of the fusion
is not too small, and if what is measured of a row and the value for what is not are numbers.
-/

namespace RankFusion

def greatest : Int := (2 ^ 24 - 1) * 2 ^ 104

def measureBound : Int := 2 ^ 64

theorem Binary.within_greatest {x : Binary} (h : Format.single.convert x = x)
    (hfinite : x.isFinite = true)
    : x.Within (-greatest) greatest := by
  cases x with
  | nan => cases hfinite
  | infinity s => cases hfinite
  | negZero => exact ⟨0, rfl, by simp [greatest], by simp [greatest]⟩
  | finite v =>
    obtain ⟨hrep, hlimit⟩ := Format.represents_of_round_eq h
    have hle : |v.toRat| ≤ greatest := by
      apply (hrep.abs_le hlimit).trans
      unfold greatest Format.single
      norm_num
    obtain ⟨hlo, hhi⟩ := abs_le.1 hle
    refine ⟨v, rfl, ?_, hhi⟩
    rw [Int.cast_neg]
    exact hlo

namespace Scalar

variable {s : Scalar} {x : Binary}

theorem exists_toSingle_of_inUnit (h : s.exact.InUnit) : ∃ x, s.toSingle = .ok x := by
  cases s with
  | bool b => exact ⟨_, rfl⟩
  | real y => exact ⟨_, rfl⟩
  | int n =>
    have hzero : decide (0 ≤ n) = true := (le_exact_int 0 n).symm.trans h.1
    have hone : decide (n ≤ 1) = true := (le_exact_int n 1).symm.trans h.2
    rw [decide_eq_true_eq] at hzero hone
    obtain rfl | rfl : n = 0 ∨ n = 1 := by omega
    . exact ⟨_, rfl⟩
    . exact ⟨_, rfl⟩

theorem within_of_toSingle (hnonneg : Binary.zero.le s.exact = true) (h : s.toSingle = .ok x)
    (hfinite : x.isFinite = true)
    : x.Within 0 greatest := by
  obtain ⟨y, hy, rfl⟩ := toSingle_eq_ok h
  have hreal : Binary.zero.extended ≤ y.extended := by
    have hexact := (Binary.le_iff.1 hnonneg).2.2
    obtain rfl | rfl := toReal_eq_ok hy
    . exact hexact
    . exact Format.zero_le_extended_convert hexact
  have hsingle := Format.zero_le_extended_convert (f := .single) hreal
  obtain ⟨v, hv, _, hle⟩ := Binary.within_greatest Format.convert_convert hfinite
  rw [Binary.extended_of_dyadic? hv, Binary.extended_zero, coe_coe_le_iff] at hsingle
  exact ⟨v, hv, by simpa using hsingle, hle⟩

end Scalar

namespace Ranking

variable {ids : Ranking} {id : Int}

theorem pairwise_positions (ids : Ranking) (id : Int) : (ids.positions id).Pairwise (· < ·) := by
  have hnumbered : ids.zipIdx.Pairwise fun a b => a.2 < b.2 := by
    rw [← List.pairwise_map (f := Prod.snd), List.zipIdx_map_snd]
    exact List.pairwise_lt_range'
  apply hnumbered.filterMap
  rintro ⟨x, i⟩ ⟨y, j⟩ hij p hp q hq
  dsimp only at hp hq
  split at hp
  . split at hq
    . cases hp
      cases hq
      exact hij
    . cases hq
  . cases hp

theorem positions_cases (ids : Ranking) (id : Int)
    : (∀ p ∈ ids.positions id, 1 ≤ p)
        ∨ ∃ rest, ids.positions id = 0 :: rest ∧ ∀ p ∈ rest, 1 ≤ p := by
  have hsorted := pairwise_positions ids id
  cases hpositions : ids.positions id with
  | nil => exact .inl nofun
  | cons p rest =>
    rw [hpositions, List.pairwise_cons] at hsorted
    have hrest : ∀ q ∈ rest, 1 ≤ q := by
      intro q hq
      have := hsorted.1 q hq
      omega
    cases p with
    | zero => exact .inr ⟨rest, rfl, hrest⟩
    | succ p =>
      left
      rw [List.forall_mem_cons]
      exact ⟨by omega, hrest⟩

end Ranking

namespace Relevance

variable {k weight distance score sum : Binary} {ids vector fts : Ranking} {id : Int}
  {shares : List Binary} {a b : Int}

def leastConstant : Binary := .finite (.ofIntWithPrec 1 127)

def shareBound : Int := (2 ^ 24 - 1) * 2 ^ 103

theorem within_of_unsigned {x : Binary} (hx : x.Unsigned)
    (h : x.le (.finite (.ofInt b)) = true)
    : x.Within 0 b := by
  have hb : (Dyadic.ofInt b).toRat = b := Dyadic.toRat_intCast b
  have hle := (Binary.le_iff.1 h).2.2
  rw [Binary.extended_finite, hb] at hle
  exact Binary.within_of_extended hx.zero_le hle

theorem fusionShare_anti {k' : Binary} {m n : Nat} (hk : k.Unsigned) (hk' : k'.Unsigned)
    (hle : k.le k' = true) (hmn : m ≤ n)
    : (fusionShare k' n).le (fusionShare k m) = true := by
  refine Binary.le_iff.2 ⟨(unsigned_fusionShare hk' n).1, (unsigned_fusionShare hk m).1, ?_⟩
  apply Format.extended_div_one_anti
  . exact Format.unsigned_add (unsigned_ofRank m) hk
  . exact Format.unsigned_add (unsigned_ofRank n) hk'
  . exact Format.extended_add_mono (bot_lt_of_unsigned (unsigned_ofRank m))
      (bot_lt_of_unsigned hk) (extended_ofRank_mono hmn) (Binary.le_iff.1 hle).2.2

theorem within_fusionShare_of_pos (hk : k.Unsigned) {n : Nat} (hn : 1 ≤ n)
    : (fusionShare k n).Within 0 1 := by
  have hzero : Binary.zero.le k = true := Binary.le_iff.2 ⟨rfl, hk.1, hk.zero_le⟩
  have hone : (fusionShare .zero 1).le (.finite (.ofInt 1)) = true := by decide +kernel
  exact within_of_unsigned (unsigned_fusionShare hk n)
    (Binary.le_trans (fusionShare_anti Binary.unsigned_zero hk hzero hn) hone)

def nextConstant : Binary := .finite (.ofIntWithPrec (2 ^ 22 + 1) 149)

theorem nextConstant_le (hrounded : Format.single.convert k = k) (h : leastConstant.lt k = true)
    : nextConstant.le k = true := by
  unfold Binary.lt at h
  rw [Bool.and_eq_true, Bool.not_eq_true'] at h
  obtain ⟨hle, hnot⟩ := h
  cases k with
  | nan => cases hle
  | infinity s =>
    cases s with
    | true => cases hle
    | false => rfl
  | negZero => exact absurd hle (by decide)
  | finite v =>
    have hlt : (2 : ℚ) ^ (-127 : ℤ) < v.toRat := by
      rw [← not_le]
      intro hge
      refine absurd (Binary.le_iff.2 ⟨rfl, rfl, ?_⟩) (ne_true_of_eq_false hnot)
      unfold leastConstant
      rw [Binary.extended_finite, Binary.extended_finite, coe_coe_le_iff,
        Dyadic.toRat_ofIntWithPrec_eq_mul_two_pow, Int.cast_one, one_mul]
      exact hge
    -- Both numbers are counted in units of the least spacing.
    have hunit : Format.single.minExponent - (Format.single.precision - 1 : ℕ) = -149 := rfl
    have hsplit : ((2 ^ 22 : ℤ) : ℚ) * 2 ^ (-149 : ℤ) = 2 ^ (-127 : ℤ) := by norm_num
    rw [← hsplit, ← hunit] at hlt
    refine Binary.le_iff.2 ⟨rfl, rfl, ?_⟩
    unfold nextConstant
    rw [Binary.extended_finite, Binary.extended_finite, coe_coe_le_iff,
      Dyadic.toRat_ofIntWithPrec_eq_mul_two_pow]
    exact (Format.represents_of_round_eq hrounded).1.add_one_le hlt

theorem within_fusionShare_zero (hk : k.Unsigned) (hrounded : Format.single.convert k = k)
    (h : leastConstant.lt k = true)
    : (fusionShare k 0).Within 0 shareBound := by
  have hnext : nextConstant.Unsigned := ⟨rfl, by decide⟩
  have hshare : (fusionShare nextConstant 0).le (.finite (.ofInt shareBound)) = true := by
    decide +kernel
  exact within_of_unsigned (unsigned_fusionShare hk 0)
    (Binary.le_trans (fusionShare_anti hnext hk (nextConstant_le hrounded h) le_rfl) hshare)

theorem within_foldl_add (hb : Format.single.RoundsTo (b + 1) b)
    (hshares : ∀ share ∈ shares, share.Within 0 1) (hsum : sum.Within 0 b)
    : (shares.foldl Format.single.add sum).Within 0 b := by
  induction shares generalizing sum with
  | nil => exact hsum
  | cons share shares ih =>
    rw [List.forall_mem_cons] at hshares
    rw [List.foldl_cons]
    apply ih hshares.2
    exact Format.within_add hsum hshares.1 rfl hb

theorem within_foldl_positions (hk : k.Unsigned) (hbest : (fusionShare k 0).Within 0 shareBound)
    (hsum : sum.Within 0 a) (hab : a ≤ b) (hadd : Format.single.RoundsTo (a + shareBound) b)
    (hb : Format.single.RoundsTo (b + 1) b)
    : (((ids.positions id).map (fusionShare k)).foldl Format.single.add sum).Within 0 b := by
  have hshares : ∀ ps : List Nat, (∀ p ∈ ps, 1 ≤ p) →
      ∀ share ∈ ps.map (fusionShare k), share.Within 0 1 := by
    intro ps hps
    rw [List.forall_mem_map]
    exact fun p hp => within_fusionShare_of_pos hk (hps p hp)
  obtain hlater | ⟨rest, hpositions, hrest⟩ := Ranking.positions_cases ids id
  . exact within_foldl_add hb (hshares _ hlater) (hsum.mono le_rfl hab)
  . rw [hpositions, List.map_cons, List.foldl_cons]
    apply within_foldl_add hb (hshares _ hrest)
    exact Format.within_add hsum hbest rfl hadd

set_option maxRecDepth 2000 in
theorem isFinite_reciprocalRankFusion (hk : k.Unsigned) (hrounded : Format.single.convert k = k)
    (h : leastConstant.lt k = true)
    : (reciprocalRankFusion k vector fts id).isFinite = true := by
  have hbest := within_fusionShare_zero hk hrounded h
  have hvector : (((vector.positions id).map (fusionShare k)).foldl Format.single.add
      .zero).Within 0 shareBound :=
    within_foldl_positions hk hbest Binary.within_zero (by decide) (by decide)
      (by decide)
  have hfts : (((fts.positions id).map (fusionShare k)).foldl Format.single.add
      (((vector.positions id).map (fusionShare k)).foldl Format.single.add .zero)).Within
        0 greatest :=
    within_foldl_positions hk hbest hvector (by decide) (by decide) (by decide)
  unfold reciprocalRankFusion
  rw [List.map_append, List.foldl_append]
  exact hfts.isFinite

theorem lt_of_isFinite_twice (hk : k.Unsigned)
    (h : (Format.single.add (Format.single.add .zero (fusionShare k 0))
      (fusionShare k 0)).isFinite = true)
    : leastConstant.lt k = true := by
  rw [← Bool.not_eq_false]
  intro hnot
  have hleast : leastConstant.Unsigned := ⟨rfl, by decide⟩
  have hle : k.le leastConstant = true := by
    obtain hge | hle := Binary.le_total hleast.1 hk.1
    . unfold Binary.lt at hnot
      rw [hge, Bool.true_and, Bool.not_eq_false'] at hnot
      exact hnot
    . exact hle
  have hshare := (Binary.le_iff.1 (fusionShare_anti hk hleast hle (le_refl 0))).2.2
  have hbot : ⊥ < (fusionShare leastConstant 0).extended :=
    bot_lt_of_unsigned (unsigned_fusionShare hleast 0)
  have hsum : ⊥ < (Format.single.add .zero (fusionShare leastConstant 0)).extended :=
    bot_lt_of_unsigned (Format.unsigned_add Binary.unsigned_zero (unsigned_fusionShare hleast 0))
  have hfirst := Format.extended_add_mono (f := .single) (bot_lt_of_unsigned Binary.unsigned_zero)
    hbot le_rfl hshare
  have htwice := Format.extended_add_mono (f := .single) hsum hbot hfirst hshare
  have htop : Format.single.add (Format.single.add .zero (fusionShare leastConstant 0))
      (fusionShare leastConstant 0) = .infinity false := by decide +kernel
  rw [htop] at htwice
  generalize Format.single.add (Format.single.add .zero (fusionShare k 0)) (fusionShare k 0) = sum
    at h htwice
  cases sum with
  | nan => cases h
  | infinity s => cases h
  | negZero => exact absurd htwice (not_top_le_coe_coe 0)
  | finite v => exact absurd htwice (not_top_le_coe_coe v.toRat)

theorem isFinite_meanReciprocalRank {weightVector weightFts : Binary} (hv : weightVector.InUnit)
    (hf : weightFts.InUnit)
    : (meanReciprocalRank weightVector weightFts vector fts id).isFinite = true := by
  have hshare : ∀ {weight : Binary} {ids : Ranking}, weight.InUnit →
      (Format.single.mul weight (reciprocalRank ids id)).Within 0 1 :=
    fun hweight => Format.within_mul hweight.within inUnit_reciprocalRank.within le_rfl
      (by decide) rfl (by decide)
  have hsum : Format.single.RoundsTo (1 + 1) 2 := by decide
  exact (Format.within_add (hshare hv) (hshare hf) rfl hsum).isFinite

set_option maxRecDepth 2000 in
theorem isFinite_combine (hweight : weight.InUnit)
    (hdistance : distance.Within (-measureBound) greatest)
    (hscore : score.Within (-measureBound) greatest)
    : (combine weight distance score).isFinite = true := by
  have hsimilarity : (Format.single.sub .one distance).Within (-greatest) measureBound :=
    Format.within_sub Binary.within_one hdistance (by decide) (by decide)
  have hcomplement : (Format.single.sub .one weight).Within 0 1 :=
    Format.within_sub Binary.within_one hweight.within (by decide) (by decide)
  have hvector : (Format.single.mul weight (Format.single.sub .one distance)).Within
      (-greatest) measureBound :=
    Format.within_mul hweight.within hsimilarity (by decide) (by decide) (by decide)
      (by decide)
  have hfts : (Format.single.mul (Format.single.sub .one weight) score).Within
      (-measureBound) greatest :=
    Format.within_mul hcomplement hscore (by decide) (by decide) (by decide)
      (by decide)
  have hblend : (Format.single.add (Format.single.mul weight (Format.single.sub .one distance))
      (Format.single.mul (Format.single.sub .one weight) score)).Within (-greatest) greatest :=
    Format.within_add hvector hfts (by decide) (by decide)
  have hresult : (combine weight distance score).Within (-greatest) greatest :=
    Format.within_sub Binary.within_one hblend (by decide) (by decide)
  exact hresult.isFinite

end Relevance

def Value.Moderate : Value → Prop
  | .int n => |n| < measureBound
  | .real x => ∃ v, x.dyadic? = some v ∧ |v.toRat| < measureBound
  | _ => True

namespace Relevance

variable {ids : Ranking} {cells : List Value} {id : Int} {v : Value} {x : Binary}

theorem within_of_ofCell? (hv : v.Moderate) (h : ofCell? v = some x)
    : x.Within (-measureBound) measureBound := by
  have hlo : Format.single.RoundsTo (-measureBound) (-measureBound) := by decide
  have hhi : Format.single.RoundsTo measureBound measureBound := by decide
  cases v with
  | int n =>
    cases h
    obtain ⟨hle, hge⟩ := abs_lt.1 hv
    have hlo' : Format.double.RoundsTo (-measureBound) (-measureBound) := by decide
    have hhi' : Format.double.RoundsTo measureBound measureBound := by decide
    have hreal : (Format.double.ofInt n).Within (-measureBound) measureBound :=
      Format.within_round hlo' hhi' (by exact_mod_cast hle.le) (by exact_mod_cast hge.le)
    exact Format.within_convert hreal hlo hhi
  | real y =>
    cases h
    obtain ⟨u, hu, habs⟩ := hv
    obtain ⟨hle, hge⟩ := abs_lt.1 habs
    have hreal : y.Within (-measureBound) measureBound := by
      refine ⟨u, hu, ?_, hge.le⟩
      rw [Int.cast_neg]
      exact hle.le
    exact Format.within_convert hreal hlo hhi
  | _ => cases h

theorem within_of_lastValue? (hcells : ∀ v ∈ cells, v.Moderate)
    (h : lastValue? ids cells id = some x)
    : x.Within (-measureBound) measureBound := by
  obtain ⟨⟨y, v⟩, hmem, hv⟩ := List.mem_filterMap.1 (List.mem_of_getLast? h)
  dsimp only at hv
  split at hv
  . exact within_of_ofCell? (hcells v (List.of_mem_zip hmem).2) hv
  . cases hv

end Relevance

end RankFusion
