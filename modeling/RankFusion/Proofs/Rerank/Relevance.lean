import Mathlib.Data.ENat.Basic
import RankFusion.Proofs.Number.Arithmetic
import RankFusion.Proofs.Rerank.Formula

/-!
This module contains the relevance as a function of two ranks. Every step from a rank to a relevance
is a rounding of a monotone operation, so an identifier that is ranked no worse on both sides is no
less relevant.
-/

namespace RankFusion

namespace Ranking

variable {ids : Ranking} {id : Int}

/--
The position of an identifier in a ranking, infinity if the ranking is without it.
-/
def rank (ids : Ranking) (id : Int) : ℕ∞ :=
  if some id ∈ ids then (ids.idxOf (some id) : ℕ) else ⊤

theorem rank_of_mem (h : some id ∈ ids) : ids.rank id = (ids.idxOf (some id) : ℕ) := if_pos h

theorem rank_of_not_mem (h : some id ∉ ids) : ids.rank id = ⊤ := if_neg h

theorem positions_zipIdx_of_not_mem {start : Nat} (h : some id ∉ ids)
    : (ids.zipIdx start).filterMap (fun (x, i) => if x = some id then some i else none) = [] := by
  induction ids generalizing start with
  | nil => rfl
  | cons x ids ih =>
    rw [List.mem_cons, not_or] at h
    simp only [List.zipIdx_cons, List.filterMap_cons, if_neg (Ne.symm h.1)]
    exact ih h.2

theorem positions_zipIdx_of_mem {start : Nat} (hnodup : ids.Nodup) (h : some id ∈ ids)
    : (ids.zipIdx start).filterMap (fun (x, i) => if x = some id then some i else none) =
        [start + ids.idxOf (some id)] := by
  induction ids generalizing start with
  | nil => cases h
  | cons x ids ih =>
    rw [List.nodup_cons] at hnodup
    by_cases hx : x = some id
    . subst hx
      simp only [List.zipIdx_cons, List.filterMap_cons, if_true,
        positions_zipIdx_of_not_mem hnodup.1]
      rw [List.idxOf_cons_self, Nat.add_zero]
    . simp only [List.zipIdx_cons, List.filterMap_cons, if_neg hx]
      rw [ih hnodup.2 (List.mem_of_ne_of_mem (Ne.symm hx) h), List.idxOf_cons_ne _ hx,
        Nat.succ_eq_add_one, Nat.add_assoc, Nat.add_comm 1]

theorem positions_of_not_mem (h : some id ∉ ids) : ids.positions id = [] :=
  positions_zipIdx_of_not_mem h

theorem positions_of_mem (hnodup : ids.Nodup) (h : some id ∈ ids)
    : ids.positions id = [ids.idxOf (some id)] := by
  unfold positions
  rw [positions_zipIdx_of_mem hnodup h, Nat.zero_add]

end Ranking

namespace Relevance

variable {k : Binary} {vector fts ids : Ranking} {id x y : Int} {m n : Nat}

theorem unsigned_ofRank (n : Nat) : (ofRank n).Unsigned :=
  Format.unsigned_convert (Format.unsigned_round (by positivity))

theorem extended_ofRank_mono (h : m ≤ n) : (ofRank m).extended ≤ (ofRank n).extended := by
  unfold ofRank
  rw [Format.extended_convert, Format.extended_convert]
  apply Format.roundExtended_mono
  apply Format.extended_round_mono
  exact_mod_cast h

theorem unsigned_fusionShare (hk : k.Unsigned) (n : Nat) : (fusionShare k n).Unsigned :=
  Format.unsigned_div_one (Format.unsigned_add (unsigned_ofRank n) hk)

theorem bot_lt_of_unsigned {z : Binary} (h : z.Unsigned) : ⊥ < z.extended :=
  lt_of_lt_of_le (WithBot.bot_lt_coe _) h.zero_le

theorem extended_fusionShare_anti (hk : k.Unsigned) (h : m ≤ n)
    : (fusionShare k n).extended ≤ (fusionShare k m).extended := by
  apply Format.extended_div_one_anti
  . exact Format.unsigned_add (unsigned_ofRank m) hk
  . exact Format.unsigned_add (unsigned_ofRank n) hk
  . exact Format.extended_add_mono (bot_lt_of_unsigned (unsigned_ofRank m))
      (bot_lt_of_unsigned hk) (extended_ofRank_mono h) le_rfl

theorem unsigned_rankShare (n : Nat) : (rankShare n).Unsigned :=
  Format.unsigned_div_one (unsigned_ofRank (n + 1))

theorem extended_rankShare_anti (h : m ≤ n)
    : (rankShare n).extended ≤ (rankShare m).extended :=
  Format.extended_div_one_anti (unsigned_ofRank (m + 1)) (unsigned_ofRank (n + 1))
    (extended_ofRank_mono (by omega))

theorem inUnit_rankShare (n : Nat) : (rankShare n).InUnit := by
  have hunsigned := unsigned_rankShare n
  -- The first rank earns one, and no rank after it earns more.
  have hone : rankShare 0 = .one := by decide +kernel
  unfold Binary.InUnit
  rw [← hone]
  refine ⟨Binary.le_iff.2 ⟨rfl, hunsigned.1, hunsigned.zero_le⟩, ?_⟩
  exact Binary.le_iff.2 ⟨hunsigned.1, (unsigned_rankShare 0).1,
    extended_rankShare_anti (Nat.zero_le n)⟩

/--
The share of a rank that may be infinite. An identifier without a rank earns nothing.
-/
def shareAt (share : Nat → Binary) : ℕ∞ → Binary
  | ⊤ => .zero
  | (n : ℕ) => share n

section ShareAt

variable {share : Nat → Binary} {a b : ℕ∞}

theorem unsigned_shareAt (h : ∀ n, (share n).Unsigned) : (shareAt share a).Unsigned := by
  cases a with
  | top => exact Binary.unsigned_zero
  | coe n => exact h n

theorem extended_shareAt_anti (hunsigned : ∀ n, (share n).Unsigned)
    (hanti : ∀ m n, m ≤ n → (share n).extended ≤ (share m).extended) (h : a ≤ b)
    : (shareAt share b).extended ≤ (shareAt share a).extended := by
  cases b with
  | top => exact (unsigned_shareAt hunsigned).zero_le
  | coe n =>
    cases a with
    | top => simp at h
    | coe m => exact hanti m n (by exact_mod_cast h)

end ShareAt

theorem foldl_add_positions {sum : Binary} (share : Nat → Binary) (hnodup : ids.Nodup)
    (hsum : sum.Unsigned) (hrounded : Format.single.convert sum = sum)
    : ((ids.positions id).map share).foldl Format.single.add sum =
        Format.single.add sum (shareAt share (ids.rank id)) := by
  by_cases h : some id ∈ ids
  . rw [Ranking.positions_of_mem hnodup h, Ranking.rank_of_mem h]
    rfl
  . rw [Ranking.positions_of_not_mem h, Ranking.rank_of_not_mem h]
    exact (Format.add_zero_eq_self hsum hrounded).symm

theorem reciprocalRankFusion_eq (hk : k.Unsigned) (hvector : vector.Nodup) (hfts : fts.Nodup)
    : reciprocalRankFusion k vector fts id =
        Format.single.add
          (Format.single.add .zero (shareAt (fusionShare k) (vector.rank id)))
          (shareAt (fusionShare k) (fts.rank id)) := by
  unfold reciprocalRankFusion
  rw [List.map_append, List.foldl_append,
    foldl_add_positions _ hvector Binary.unsigned_zero Format.convert_zero,
    foldl_add_positions _ hfts _ Format.convert_add]
  exact Format.unsigned_add Binary.unsigned_zero (unsigned_shareAt (unsigned_fusionShare hk))

theorem reciprocalRank_eq (hnodup : ids.Nodup)
    : reciprocalRank ids id = shareAt rankShare (ids.rank id) := by
  unfold reciprocalRank
  by_cases h : some id ∈ ids
  . rw [Ranking.positions_of_mem hnodup h, Ranking.rank_of_mem h]
    rfl
  . rw [Ranking.positions_of_not_mem h, Ranking.rank_of_not_mem h]
    rfl

theorem inUnit_reciprocalRank : (reciprocalRank ids id).InUnit := by
  unfold reciprocalRank
  split
  . next rank _ => exact inUnit_rankShare rank
  . exact ⟨rfl, rfl⟩

theorem extended_reciprocalRank_anti (hnodup : ids.Nodup) (h : ids.rank x ≤ ids.rank y)
    : (reciprocalRank ids y).extended ≤ (reciprocalRank ids x).extended := by
  rw [reciprocalRank_eq hnodup, reciprocalRank_eq hnodup]
  exact extended_shareAt_anti unsigned_rankShare (fun _ _ => extended_rankShare_anti) h

theorem reciprocalRankFusion_le (hk : k.Unsigned) (hvector : vector.Nodup) (hfts : fts.Nodup)
    (hvectorRank : vector.rank x ≤ vector.rank y) (hftsRank : fts.rank x ≤ fts.rank y)
    : (reciprocalRankFusion k vector fts y).le (reciprocalRankFusion k vector fts x) = true := by
  have hshare : ∀ a, (shareAt (fusionShare k) a).Unsigned :=
    fun _ => unsigned_shareAt (unsigned_fusionShare hk)
  have hanti : ∀ a b, a ≤ b →
      (shareAt (fusionShare k) b).extended ≤ (shareAt (fusionShare k) a).extended :=
    fun _ _ => extended_shareAt_anti (unsigned_fusionShare hk)
      fun _ _ => extended_fusionShare_anti hk
  have hfirst : ∀ a,
      (Format.single.add .zero (shareAt (fusionShare k) a)).Unsigned :=
    fun a => Format.unsigned_add Binary.unsigned_zero (hshare a)
  rw [reciprocalRankFusion_eq hk hvector hfts, reciprocalRankFusion_eq hk hvector hfts]
  refine Binary.le_iff.2 ⟨(Format.unsigned_add (hfirst _) (hshare _)).1,
    (Format.unsigned_add (hfirst _) (hshare _)).1, ?_⟩
  apply Format.extended_add_mono
  . exact bot_lt_of_unsigned (hfirst _)
  . exact bot_lt_of_unsigned (hshare _)
  . exact Format.extended_add_mono (bot_lt_of_unsigned Binary.unsigned_zero)
      (bot_lt_of_unsigned (hshare _)) le_rfl (hanti _ _ hvectorRank)
  . exact hanti _ _ hftsRank

theorem meanReciprocalRank_le {weightVector weightFts : Binary} (hv : weightVector.InUnit)
    (hf : weightFts.InUnit) (hvector : vector.Nodup) (hfts : fts.Nodup)
    (hvectorRank : vector.rank x ≤ vector.rank y) (hftsRank : fts.rank x ≤ fts.rank y)
    : (meanReciprocalRank weightVector weightFts vector fts y).le
        (meanReciprocalRank weightVector weightFts vector fts x) = true := by
  have hbotVector : ∀ id,
      ⊥ < (Format.single.mul weightVector (reciprocalRank vector id)).extended :=
    fun _ => Format.bot_lt_extended_mul hv inUnit_reciprocalRank
  have hbotFts : ∀ id, ⊥ < (Format.single.mul weightFts (reciprocalRank fts id)).extended :=
    fun _ => Format.bot_lt_extended_mul hf inUnit_reciprocalRank
  unfold meanReciprocalRank
  refine Binary.le_iff.2 ⟨Format.isNaN_add (hbotVector y) (hbotFts y),
    Format.isNaN_add (hbotVector x) (hbotFts x), ?_⟩
  apply Format.extended_add_mono (hbotVector y) (hbotFts y)
  . exact Format.extended_mul_mono hv inUnit_reciprocalRank inUnit_reciprocalRank
      (extended_reciprocalRank_anti hvector hvectorRank)
  . exact Format.extended_mul_mono hf inUnit_reciprocalRank inUnit_reciprocalRank
      (extended_reciprocalRank_anti hfts hftsRank)

end Relevance

end RankFusion
