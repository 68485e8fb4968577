import Mathlib.Data.List.Nodup
import RankFusion.Proofs.Batch.Acceptance

/-!
This module contains the merges of two batches in either order. One returns exactly if the other
does; both have the same column names, and the same identifiers if no side repeats one.
-/

namespace RankFusion

namespace Batch

def Distinguished (b : Batch) : Prop := ∀ ids, b.rowIds = .ok ids → none ∉ ids ∧ ids.Nodup

/--
Whether two batches have the same column names, and the same identifiers, each of them in one row.
-/
structure Alike (b c : Batch) : Prop where
  names : ∀ name, name ∈ b.schema.names ↔ name ∈ c.schema.names
  ids : ∃ ids ids', b.rowIds = .ok ids ∧ c.rowIds = .ok ids' ∧ ids.Nodup ∧ ids.Perm ids'

variable {b vector fts merged merged' : Batch}

theorem Distinguished.exists_ids {ids : List (Option Int)} (hb : b.Distinguished)
    (h : b.rowIds = .ok ids)
    : ∃ xs : List Int, ids = xs.map some ∧ xs.Nodup := by
  obtain ⟨hnone, hnodup⟩ := hb ids h
  have hids : ids = (ids.filterMap id).map some := by
    rw [List.map_filterMap_some_eq_filter_map_isSome, List.map_id, eq_comm, List.filter_eq_self]
    intro x hx
    cases x with
    | none => exact absurd hx hnone
    | some x => rfl
  rw [hids] at hnodup
  exact ⟨_, hids, List.Nodup.of_map some hnodup⟩

theorem Compatible.symm (h : vector.Compatible fts) : fts.Compatible vector := by
  refine ⟨h.ftsKeyed, h.vectorKeyed, ?_⟩
  intro g hg f hf hname
  obtain ⟨hvector, hfts, hjoins⟩ := h.joins f hf g hg hname.symm
  rw [hname] at hvector hfts
  refine ⟨hfts, hvector, ?_⟩
  obtain ⟨heq, hsupported⟩ | hnull | hnull := hjoins
  . exact .inl ⟨heq.symm, heq ▸ hsupported⟩
  . exact .inr (.inr hnull)
  . exact .inr (.inl hnull)

theorem compatible_comm : vector.Compatible fts ↔ fts.Compatible vector :=
  ⟨Compatible.symm, Compatible.symm⟩

theorem nodup_append_filter {xs ys : List Int} (hxs : xs.Nodup) (hys : ys.Nodup)
    : (xs ++ ys.filter (· ∉ xs)).Nodup := by
  refine List.nodup_append.2 ⟨hxs, hys.filter _, ?_⟩
  rintro x hx y hy rfl
  have hnew := (List.mem_filter.1 hy).2
  exact of_decide_eq_true hnew hx

theorem perm_append_filter {xs ys : List Int} (hxs : xs.Nodup) (hys : ys.Nodup)
    : (xs ++ ys.filter (· ∉ xs)).Perm (ys ++ xs.filter (· ∉ ys)) := by
  rw [List.perm_ext_iff_of_nodup (nodup_append_filter hxs hys) (nodup_append_filter hys hxs)]
  intro x
  simp only [List.mem_append, List.mem_filter, decide_eq_true_eq]
  by_cases hx : x ∈ xs
  . by_cases hy : x ∈ ys
    . simp [hx, hy]
    . simp [hx, hy]
  . by_cases hy : x ∈ ys
    . simp [hx, hy]
    . simp [hx, hy]

theorem rowIds_of_mergeRows {xs ys : List Int} (h : mergeRows vector fts = .ok merged)
    (hvector : vector.rowIds = .ok (xs.map some)) (hfts : fts.rowIds = .ok (ys.map some))
    (hnodup : ys.Nodup)
    : merged.rowIds = .ok ((xs ++ ys.filter (· ∉ xs)).map some) := by
  obtain ⟨vectorIds, ftsIds, hvector', hfts', hmerge⟩ := mergeOf_of_mergeRows h
  cases hvector.symm.trans hvector'
  cases hfts.symm.trans hfts'
  have hkept := @map_unseenPositions Int (Option Int) id xs ys (by rwa [List.map_id]) some none
  rw [List.map_id] at hkept
  rw [hmerge.rowIds_eq hvector hfts, List.map_append]
  exact congrArg (fun kept => Except.ok (xs.map some ++ kept)) hkept

theorem alike_of_mergeRows (hvector : vector.Distinguished) (hfts : fts.Distinguished)
    (h : mergeRows vector fts = .ok merged) (h' : mergeRows fts vector = .ok merged')
    : merged.Alike merged' := by
  refine ⟨?_, ?_⟩
  . intro name
    rw [names_of_mergeRows h, names_of_mergeRows h', List.mem_filter, List.mem_filter,
      decide_eq_true_eq, decide_eq_true_eq, and_comm]
  . obtain ⟨_, _, hvectorIds, hftsIds, _⟩ := mergeOf_of_mergeRows h
    obtain ⟨xs, rfl, hxs⟩ := hvector.exists_ids hvectorIds
    obtain ⟨ys, rfl, hys⟩ := hfts.exists_ids hftsIds
    refine ⟨_, _, rowIds_of_mergeRows h hvectorIds hftsIds hys,
      rowIds_of_mergeRows h' hftsIds hvectorIds hxs, ?_, (perm_append_filter hxs hys).map some⟩
    exact (nodup_append_filter hxs hys).map fun _ _ => Option.some.inj

theorem exists_merge_comm
    : (∃ merged, vector.merge fts = .ok merged) ↔ ∃ merged, fts.merge vector = .ok merged := by
  rw [exists_merge_iff, exists_merge_iff, compatible_comm]
  exact or_left_comm

end Batch

end RankFusion
