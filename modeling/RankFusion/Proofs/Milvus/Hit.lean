import Mathlib.Data.List.Induction
import Mathlib.Data.List.Nodup
import Mathlib.Data.List.Perm.Basic
import RankFusion.Milvus.Result
import RankFusion.Proofs.Except
import RankFusion.Proofs.Number.Scalar
import RankFusion.Proofs.Order.Sort

/-!
This module contains the ranking of hits with integer keys. Over all query vectors every row is kept
once, with a hit that no other hit of the row is closer than.
-/

namespace RankFusion.Milvus

section Lists

variable {m : DistanceMetric}

theorem items_list (vs : List Value) : (Value.list vs).items = .ok vs := rfl

theorem foldlM_items (ls : List (List Value)) (bs : List BestHit)
    : (ls.map Value.list).foldlM (fun best list => do (← list.items).foldlM (addHit m) best) bs =
        ls.flatten.foldlM (addHit m) bs := by
  induction ls generalizing bs with
  | nil => rfl
  | cons hits ls ih =>
    rw [List.map_cons, List.foldlM_cons, List.flatten_cons, List.foldlM_append]
    exact congrArg _ (funext ih)

theorem bestHits_lists (ls : List (List Value))
    : bestHits m (.list (ls.map .list)) = do
        let best ← ls.flatten.foldlM (addHit m) []
        let ranked := best.map (·.ranked)
        return if ls.length = 1 then ranked
          else Order.sort (fun a b => a.value.lt b.value) ranked := by
  unfold bestHits
  rw [items_list]
  change (((ls.map Value.list).foldlM _ [] : Except Failure (List BestHit)) >>= _) = _
  rw [foldlM_items]
  congr 1
  funext best
  dsimp only
  rw [List.length_map]
  split
  . rfl
  . rfl

theorem scoredHits_lists (ls : List (List Value))
    : scoredHits (.list (ls.map .list)) =
        ls.flatten.mapM fun hit => do return ⟨hit, ← reported hit⟩ := by
  unfold scoredHits
  change (((ls.map Value.list).mapM _ : Except Failure (List (List RankedHit))) >>= _) = _
  induction ls with
  | nil => rfl
  | cons hits ls ih =>
    rw [List.flatten_cons, List.mapM_append, ← ih, List.map_cons, List.mapM_cons]
    simp only [bind_assoc, pure_bind, List.flatten_cons]
    rfl

end Lists

structure Hit where
  value : Value
  id : Int
  distance : Binary
  entity : List (String × Value)
  id_eq : value.part "id" = .ok (.int id)
  distance_eq : value.part "distance" = .ok (.real distance)
  entity_eq : entityOf value = .dict entity
  isWord : Value.isWord id = true

namespace Hit

variable (m : DistanceMetric)

def away (h : Hit) : Binary := toDistance m h.distance

def measured (h : Hit) : RankedHit := ⟨h.value, h.away m⟩

def scored (h : Hit) : RankedHit := ⟨h.value, h.distance⟩

/--
The kept hits with another hit. It takes the place of the hit of the same row if it is closer.
-/
def keep (h : Hit) : List Hit → List Hit
  | [] => [h]
  | k :: ks =>
    if k.id = h.id then (if (h.away m).lt (k.away m) then h else k) :: ks else k :: h.keep ks

def kept (hits : List Hit) : List Hit := hits.foldl (fun ks h => h.keep m ks) []

/--
Whether a hit is the one that counts for its row: no hit of the row is closer, and none before it is
at the same distance.
-/
def IsBest (hits : List Hit) (h : Hit) : Prop :=
  ∃ before after, hits = before ++ h :: after
    ∧ (∀ g ∈ before, g.id = h.id → ¬ (g.away m).le (h.away m))
    ∧ (∀ g ∈ after, g.id = h.id → ¬ (g.away m).lt (h.away m))

theorem reported_value (h : Hit) : reported h.value = .ok h.distance := by
  unfold reported
  rw [h.distance_eq]
  rfl

section Kept

variable {h k : Hit} {ks hits : List Hit}

theorem map_id_keep
    : (h.keep m ks).map (·.id) =
        if h.id ∈ ks.map (·.id) then ks.map (·.id) else ks.map (·.id) ++ [h.id] := by
  induction ks with
  | nil => rfl
  | cons k ks ih =>
    unfold keep
    by_cases hid : k.id = h.id
    . have hhead : (if (h.away m).lt (k.away m) then h else k).id = h.id := by
        split
        . rfl
        . exact hid
      simp [hid, hhead]
    . simp only [hid, if_false, List.map_cons, ih, List.mem_cons, Ne.symm hid, false_or]
      split
      . rfl
      . rfl

theorem nodup_map_id_keep (hks : (ks.map (·.id)).Nodup) : ((h.keep m ks).map (·.id)).Nodup := by
  rw [map_id_keep]
  split
  . exact hks
  . next hin =>
    rw [← List.concat_eq_append]
    exact List.Nodup.concat hin hks

theorem mem_map_id_keep {n : Int}
    : n ∈ (h.keep m ks).map (·.id) ↔ n ∈ ks.map (·.id) ∨ n = h.id := by
  rw [map_id_keep]
  split
  . next hin =>
    constructor
    . exact .inl
    . rintro (hn | rfl)
      . exact hn
      . exact hin
  . rw [List.mem_append, List.mem_singleton]

theorem mem_keep (hks : (ks.map (·.id)).Nodup) (hk : k ∈ h.keep m ks)
    : (k ∈ ks ∧ (k.id = h.id → ¬ (h.away m).lt (k.away m)))
        ∨ (k = h ∧ ∀ g ∈ ks, g.id = h.id → (h.away m).lt (g.away m)) := by
  induction ks with
  | nil => exact .inr ⟨List.mem_singleton.1 hk, fun _ hg => absurd hg List.not_mem_nil⟩
  | cons g ks ih =>
    rw [List.map_cons, List.nodup_cons] at hks
    have hothers : g.id = h.id → ∀ x ∈ ks, x.id ≠ h.id := by
      intro hid x hx hxid
      exact hks.1 (List.mem_map.2 ⟨x, hx, hxid.trans hid.symm⟩)
    unfold keep at hk
    by_cases hid : g.id = h.id
    . rw [if_pos hid, List.mem_cons] at hk
      by_cases hlt : (h.away m).lt (g.away m)
      . rw [if_pos hlt] at hk
        obtain rfl | hk := hk
        . refine .inr ⟨rfl, ?_⟩
          intro x hx hxid
          cases hx with
          | head => exact hlt
          | tail _ hx => exact absurd hxid (hothers hid x hx)
        . exact .inl ⟨List.mem_cons_of_mem g hk, fun hkid => absurd hkid (hothers hid k hk)⟩
      . rw [if_neg hlt] at hk
        obtain rfl | hk := hk
        . exact .inl ⟨List.mem_cons_self, fun _ => hlt⟩
        . exact .inl ⟨List.mem_cons_of_mem g hk, fun hkid => absurd hkid (hothers hid k hk)⟩
    . rw [if_neg hid, List.mem_cons] at hk
      obtain rfl | hk := hk
      . exact .inl ⟨List.mem_cons_self, fun hkid => absurd hkid hid⟩
      . obtain ⟨hin, hstays⟩ | ⟨rfl, hcloser⟩ := ih hks.2 hk
        . exact .inl ⟨List.mem_cons_of_mem g hin, hstays⟩
        . refine .inr ⟨rfl, ?_⟩
          intro x hx hxid
          cases hx with
          | head => exact absurd hxid hid
          | tail _ hx => exact hcloser x hx hxid

theorem IsBest.mem (hk : k.IsBest m hits) : k ∈ hits := by
  obtain ⟨before, after, rfl, _⟩ := hk
  exact List.mem_append_right _ List.mem_cons_self

theorem IsBest.concat (hk : k.IsBest m hits)
    (hstays : k.id = h.id → ¬ (h.away m).lt (k.away m))
    : k.IsBest m (hits ++ [h]) := by
  obtain ⟨before, after, rfl, hbefore, hafter⟩ := hk
  refine ⟨before, after ++ [h], ?_, hbefore, ?_⟩
  . rw [List.append_assoc, List.cons_append]
  . intro g hg hid
    cases List.mem_append.1 hg with
    | inl hg => exact hafter g hg hid
    | inr hg =>
      obtain rfl := List.mem_singleton.1 hg
      exact hstays hid.symm

theorem IsBest.not_le_of_lt (hk : k.IsBest m hits) (hid : k.id = h.id)
    (hlt : (h.away m).lt (k.away m))
    : ∀ g ∈ hits, g.id = h.id → ¬ (g.away m).le (h.away m) := by
  rw [Binary.lt, Bool.and_eq_true, Bool.not_eq_true'] at hlt
  obtain ⟨before, after, rfl, hbefore, hafter⟩ := hk
  intro g hg hgid hle
  have hgk : (g.away m).le (k.away m) := Binary.le_trans hle hlt.1
  cases List.mem_append.1 hg with
  | inl hg => exact hbefore g hg (hgid.trans hid.symm) hgk
  | inr hg =>
    cases hg with
    | head =>
      rw [hle] at hlt
      cases hlt.2
    | tail _ hg =>
      apply hafter g hg (hgid.trans hid.symm)
      rw [Binary.lt, hgk, Bool.true_and, Bool.not_eq_true']
      cases hge : (k.away m).le (g.away m) with
      | false => rfl
      | true =>
        rw [Binary.le_trans hge hle] at hlt
        cases hlt.2

structure Keeps (hits ks : List Hit) : Prop where
  nodup : (ks.map (·.id)).Nodup
  mem_iff : ∀ n, n ∈ ks.map (·.id) ↔ n ∈ hits.map (·.id)
  isBest : ∀ k ∈ ks, k.IsBest m hits

theorem Keeps.perm {ks' : List Hit} (hperm : ks'.Perm ks) (hks : Keeps m hits ks)
    : Keeps m hits ks' := by
  have hids := hperm.map (·.id)
  refine ⟨hids.nodup_iff.2 hks.nodup, ?_, ?_⟩
  . intro n
    rw [hids.mem_iff, hks.mem_iff]
  . intro k hk
    exact hks.isBest k (hperm.mem_iff.1 hk)

theorem keeps_keep (h : Hit) (hks : Keeps m hits ks) : Keeps m (hits ++ [h]) (h.keep m ks) := by
  refine ⟨nodup_map_id_keep m hks.nodup, ?_, ?_⟩
  . intro n
    rw [mem_map_id_keep, hks.mem_iff, List.map_append, List.mem_append, List.map_singleton,
      List.mem_singleton]
  . intro k hk
    obtain ⟨hin, hstays⟩ | ⟨rfl, hcloser⟩ := mem_keep m hks.nodup hk
    . exact (hks.isBest k hin).concat m hstays
    . refine ⟨hits, [], rfl, ?_, fun _ hg => absurd hg List.not_mem_nil⟩
      intro g hg hid
      -- The row has a best hit so far, and the new one is closer.
      have hkeptId : k.id ∈ ks.map (·.id) :=
        (hks.mem_iff k.id).2 (List.mem_map.2 ⟨g, hg, hid⟩)
      obtain ⟨x, hx, hxid⟩ := List.mem_map.1 hkeptId
      exact (hks.isBest x hx).not_le_of_lt m hxid (hcloser x hx hxid) g hg hid

theorem keeps_kept (hits : List Hit) : Keeps m hits (kept m hits) := by
  induction hits using List.reverseRecOn with
  | nil => exact ⟨List.nodup_nil, fun _ => Iff.rfl, fun _ hk => absurd hk List.not_mem_nil⟩
  | append_singleton hits h ih =>
    unfold kept
    rw [List.foldl_append]
    exact keeps_keep m h ih

def best (h : Hit) : BestHit := ⟨.int h.id, h.measured m⟩

theorem improve_best (h : Hit) (ks : List Hit)
    : improve (.int h.id) (h.measured m) (ks.map (best m)) = (h.keep m ks).map (best m) := by
  induction ks with
  | nil => rfl
  | cons k ks ih =>
    unfold keep improve
    simp only [List.map_cons, best, Value.sameKey_int, decide_eq_true_eq]
    split
    . next hid =>
      by_cases hlt : (h.away m).lt (k.away m)
      . simp [measured, best, hlt, hid]
      . simp [measured, best, hlt]
    . exact congrArg (k.best m :: ·) ih

theorem addHit_best (h : Hit) (ks : List Hit)
    : addHit m (ks.map (best m)) h.value = .ok ((h.keep m ks).map (best m)) := by
  unfold addHit
  rw [reported_value, h.id_eq, ← improve_best]
  rfl

theorem foldlM_addHit (hits ks : List Hit)
    : (hits.map (·.value)).foldlM (addHit m) (ks.map (best m)) =
        .ok ((hits.foldl (fun ks h => h.keep m ks) ks).map (best m)) := by
  induction hits generalizing ks with
  | nil => rfl
  | cons h hits ih =>
    rw [List.map_cons, List.foldlM_cons, addHit_best, List.foldl_cons]
    exact ih _

def answer (lists : List (List Hit)) : Value :=
  .list (lists.map fun hits => .list (hits.map (·.value)))

theorem answer_eq (lists : List (List Hit))
    : answer lists = .list ((lists.map fun hits => hits.map (·.value)).map .list) := by
  unfold answer
  rw [List.map_map]
  rfl

theorem flatten_values (lists : List (List Hit))
    : (lists.map fun hits => hits.map (·.value)).flatten = lists.flatten.map (·.value) :=
  List.map_flatten.symm

theorem bestHits_answer (lists : List (List Hit))
    : ∃ found : List Hit, Keeps m lists.flatten found
        ∧ bestHits m (answer lists) = .ok (found.map (measured m)) := by
  have hranked : ((kept m lists.flatten).map (best m)).map (·.ranked) =
      (kept m lists.flatten).map (measured m) := by
    rw [List.map_map]
    rfl
  have hbest : bestHits m (answer lists) =
      .ok (if lists.length = 1 then (kept m lists.flatten).map (measured m)
        else Order.sort (fun a b => a.value.lt b.value)
          ((kept m lists.flatten).map (measured m))) := by
    rw [answer_eq, bestHits_lists, flatten_values, ← hranked]
    refine Except.bind_eq_ok_iff.2 ⟨_, foldlM_addHit m lists.flatten [], ?_⟩
    rw [List.length_map]
    rfl
  rw [hbest]
  split
  . exact ⟨_, keeps_kept m lists.flatten, rfl⟩
  . -- A rearrangement of what belongs to the hits belongs to a rearrangement of the hits.
    have hperm := Order.sort_perm (fun a b : RankedHit => a.value.lt b.value)
      ((kept m lists.flatten).map (measured m))
    obtain ⟨found, hsorted, hfound⟩ :=
      (congrFun₂ (List.eq_map_comp_perm (measured m)) _ _).mpr hperm
    exact ⟨found, (keeps_kept m lists.flatten).perm m hfound, congrArg Except.ok hsorted⟩

theorem scoredHits_answer (lists : List (List Hit))
    : scoredHits (answer lists) = .ok (lists.flatten.map scored) := by
  rw [answer_eq, scoredHits_lists, flatten_values]
  apply List.mapM_map_eq_ok
  intro h _
  rw [reported_value]
  rfl

end Kept

end Hit

end RankFusion.Milvus
