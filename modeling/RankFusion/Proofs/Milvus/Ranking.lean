import Mathlib.Data.Prod.Lex
import RankFusion.Proofs.Milvus.Result
import RankFusion.Proofs.Number.Rounding
import RankFusion.Proofs.Order.Stable
import RankFusion.Proofs.Value.Key

/-!
This module contains the ranking of the hits of all query vectors, whatever their keys. Every row is
ranked once, by the first of its closest hits, and rows at equal distance stand in the order in
which they were first returned.
-/

namespace RankFusion.Milvus

variable {m : DistanceMetric} {hits hits' : List Value} {hit g k id : Value}

/--
Whether a hit can be ranked: it has a key, and its distance is a number.
-/
structure Rankable (hit : Value) : Prop where
  id : ∃ id, hit.part "id" = .ok id ∧ id.IsKey
  distance : ∃ x, reported hit = .ok x ∧ x.isNaN = false

def idOf (hit : Value) : Value :=
  match hit.part "id" with
  | .ok id => id
  | .error _ => .null

def away (m : DistanceMetric) (hit : Value) : Binary :=
  match reported hit with
  | .ok x => toDistance m x
  | .error _ => .nan

def measured (m : DistanceMetric) (hit : Value) : RankedHit := ⟨hit, away m hit⟩

def firstOf (hits : List Value) (id : Value) : Nat := hits.findIdx fun g => (idOf g).sameKey id

/--
Whether a hit is the one that a row is ranked by: no hit of the row is closer, and all of those
before it are farther.
-/
def Leads (m : DistanceMetric) (hits : List Value) (k : Value) : Prop :=
  ∃ before after, hits = before ++ k :: after
    ∧ (∀ g ∈ before, (idOf g).sameKey (idOf k) = true → (away m k).lt (away m g) = true)
    ∧ ∀ g ∈ after, (idOf g).sameKey (idOf k) = true → (away m k).le (away m g) = true

theorem Rankable.isKey (h : Rankable hit) : (idOf hit).IsKey := by
  obtain ⟨id, hid, hkey⟩ := h.id
  unfold idOf
  rw [hid]
  exact hkey

theorem isNaN_complement {x : Binary} (h : x.isNaN = false) : (complement x).isNaN = false := by
  unfold complement Format.sub
  cases x with
  | nan => cases h
  | infinity s => rfl
  | negZero => exact Format.isNaN_round
  | finite v =>
    unfold Binary.neg
    dsimp only
    split
    . exact Format.isNaN_round
    . exact Format.isNaN_round

theorem Rankable.isNaN_away (h : Rankable hit) : (away m hit).isNaN = false := by
  obtain ⟨x, hx, hnumber⟩ := h.distance
  unfold away toDistance
  rw [hx]
  dsimp only
  split
  . exact isNaN_complement hnumber
  . exact hnumber

theorem Rankable.addHit (h : Rankable hit) (bs : List BestHit)
    : addHit m bs hit = .ok (improve (idOf hit) (measured m hit) bs) := by
  obtain ⟨id, hid, hkey⟩ := h.id
  obtain ⟨x, hx, _⟩ := h.distance
  unfold Milvus.addHit measured away idOf
  rw [hid, hx]
  refine Except.bind_eq_ok_iff.2 ⟨x, rfl, Except.bind_eq_ok_iff.2 ⟨id, rfl, ?_⟩⟩
  exact Except.bind_unit_eq_ok_iff.2 ⟨Value.requireKey_eq_ok_iff.2 hkey.possible, rfl⟩

theorem foldlM_addHit (h : ∀ hit ∈ hits, Rankable hit) (bs : List BestHit)
    : hits.foldlM (addHit m) bs =
        .ok (hits.foldl (fun bs hit => improve (idOf hit) (measured m hit) bs) bs) := by
  induction hits generalizing bs with
  | nil => rfl
  | cons hit hits ih =>
    rw [List.forall_mem_cons] at h
    rw [List.foldlM_cons, h.1.addHit, List.foldl_cons]
    exact ih h.2 _

section First

theorem firstOf_lt_of_mem (hg : g ∈ hits) (h : (idOf g).sameKey id = true)
    : firstOf hits id < hits.length :=
  List.findIdx_lt_length_of_exists ⟨g, hg, h⟩

theorem firstOf_eq_length (h : ∀ g ∈ hits, (idOf g).sameKey id = false)
    : firstOf hits id = hits.length :=
  List.findIdx_eq_length.2 h

theorem firstOf_append_of_mem (hg : g ∈ hits) (h : (idOf g).sameKey id = true)
    : firstOf (hits ++ hits') id = firstOf hits id := by
  unfold firstOf
  rw [List.findIdx_append, if_pos]
  exact firstOf_lt_of_mem hg h

theorem firstOf_congr (hhits : ∀ hit ∈ hits, Rankable hit) {v w : Value} (hv : v.IsKey)
    (hw : w.IsKey) (h : v.sameKey w = true)
    : firstOf hits v = firstOf hits w := by
  unfold firstOf
  induction hits with
  | nil => rfl
  | cons g hits ih =>
    rw [List.forall_mem_cons] at hhits
    have hkey := hhits.1.isKey
    have hsame : (idOf g).sameKey v = (idOf g).sameKey w := by
      rw [hkey.comm hv, hkey.comm hw, hv.congr hw hkey h]
    rw [List.findIdx_cons, List.findIdx_cons, hsame, ih hhits.2]

end First

theorem improve_cases (id : Value) (r : RankedHit) (bs : List BestHit)
    : ((∀ b ∈ bs, b.id.sameKey id = false) ∧ improve id r bs = bs ++ [⟨id, r⟩])
        ∨ ∃ front b back, bs = front ++ b :: back
            ∧ b.id.sameKey id = true
            ∧ improve id r bs =
                front ++ (if r.value.lt b.ranked.value then ⟨b.id, r⟩ else b) :: back := by
  induction bs with
  | nil => exact .inl ⟨nofun, rfl⟩
  | cons a bs ih =>
    unfold improve
    by_cases ha : a.id.sameKey id = true
    . rw [if_pos ha]
      exact .inr ⟨[], a, bs, rfl, ha, rfl⟩
    . rw [if_neg ha]
      obtain ⟨hnew, heq⟩ | ⟨front, b, back, rfl, hb, heq⟩ := ih
      . left
        rw [heq, List.forall_mem_cons]
        exact ⟨⟨by simpa using ha, hnew⟩, rfl⟩
      . right
        rw [heq]
        exact ⟨a :: front, b, back, rfl, hb, rfl⟩

section Leads

theorem Leads.mem (h : Leads m hits k) : k ∈ hits := by
  obtain ⟨before, after, rfl, _⟩ := h
  exact List.mem_append_right _ List.mem_cons_self

theorem Leads.concat (h : Leads m hits k)
    (hstays : (idOf hit).sameKey (idOf k) = true → (away m k).le (away m hit) = true)
    : Leads m (hits ++ [hit]) k := by
  obtain ⟨before, after, rfl, hbefore, hafter⟩ := h
  refine ⟨before, after ++ [hit], by simp, hbefore, ?_⟩
  intro g hg hid
  cases List.mem_append.1 hg with
  | inl hg => exact hafter g hg hid
  | inr hg =>
    rw [List.mem_singleton.1 hg] at hid ⊢
    exact hstays hid

theorem Leads.le (hhits : ∀ hit ∈ hits, Rankable hit) (h : Leads m hits k) (hg : g ∈ hits)
    (hid : (idOf g).sameKey (idOf k) = true)
    : (away m k).le (away m g) = true := by
  have hk := (hhits k h.mem).isNaN_away (m := m)
  obtain ⟨before, after, rfl, hbefore, hafter⟩ := h
  cases List.mem_append.1 hg with
  | inl hg =>
    have hlt := hbefore g hg hid
    rw [Binary.lt, Bool.and_eq_true] at hlt
    exact hlt.1
  | inr hg =>
    cases List.mem_cons.1 hg with
    | inl heq =>
      rw [heq]
      exact Binary.le_iff.2 ⟨hk, hk, le_rfl⟩
    | inr hg => exact hafter g hg hid

theorem Leads.concat_of_other (h : Leads m hits k)
    (hother : (idOf hit).sameKey (idOf k) = false)
    : Leads m (hits ++ [hit]) k := by
  apply h.concat
  intro hsame
  rw [hother] at hsame
  cases hsame

theorem Leads.replace (hhits : ∀ g ∈ hits, Rankable g) (hhit : Rankable hit) (h : Leads m hits k)
    (hid : (idOf k).sameKey (idOf hit) = true) (hcloser : (away m hit).lt (away m k) = true)
    : Leads m (hits ++ [hit]) hit := by
  refine ⟨hits, [], rfl, ?_, nofun⟩
  intro g hg hsame
  have hkkey := (hhits k h.mem).isKey
  have hgk : (idOf g).sameKey (idOf k) = true :=
    (hhits g hg).isKey.trans hhit.isKey hkkey hsame (hkkey.symm hhit.isKey hid)
  have hle := h.le hhits hg hgk
  rw [Binary.lt_iff hhit.isNaN_away (hhits k h.mem).isNaN_away] at hcloser
  rw [Binary.lt_iff hhit.isNaN_away (hhits g hg).isNaN_away]
  exact hcloser.trans_le (Binary.le_iff.1 hle).2.2

end Leads

/--
What the best hits are: one for each row, in the order in which the rows were first returned, each
with the hit that its row is ranked by.
-/
structure Collects (m : DistanceMetric) (hits : List Value) (bs : List BestHit) : Prop where
  keys : ∀ b ∈ bs, b.id.IsKey
  inOrder : bs.Pairwise fun a b => firstOf hits a.id < firstOf hits b.id
  complete : ∀ hit ∈ hits, ∃ b ∈ bs, b.id.sameKey (idOf hit) = true
  leads : ∀ b ∈ bs, ∃ k, b.ranked = measured m k ∧ (idOf k).sameKey b.id = true ∧ Leads m hits k

section Collects

variable {bs : List BestHit} {b : BestHit}

theorem Collects.not_sameKey (h : Collects m hits bs) (hhits : ∀ hit ∈ hits, Rankable hit)
    : bs.Pairwise fun a b => a.id.sameKey b.id = false := by
  apply h.inOrder.imp_of_mem
  intro a b ha hb hlt
  rw [← Bool.not_eq_true]
  intro hsame
  rw [firstOf_congr hhits (h.keys a ha) (h.keys b hb) hsame] at hlt
  exact Nat.lt_irrefl _ hlt

theorem Collects.firstOf_append (h : Collects m hits bs) (hb : b ∈ bs)
    : firstOf (hits ++ hits') b.id = firstOf hits b.id := by
  obtain ⟨k, _, hid, hleads⟩ := h.leads b hb
  exact firstOf_append_of_mem hleads.mem hid

theorem Collects.inOrder_append (h : Collects m hits bs) (hits' : List Value)
    : bs.Pairwise fun a b => firstOf (hits ++ hits') a.id < firstOf (hits ++ hits') b.id := by
  apply h.inOrder.imp_of_mem
  intro a b ha hb hlt
  rwa [h.firstOf_append ha, h.firstOf_append hb]

theorem Collects.append_new (h : Collects m hits bs) (hhits : ∀ hit ∈ hits, Rankable hit)
    (hhit : Rankable hit) (hnew : ∀ b ∈ bs, b.id.sameKey (idOf hit) = false)
    : Collects m (hits ++ [hit]) (bs ++ [⟨idOf hit, measured m hit⟩]) := by
  have hkey := hhit.isKey
  have hfirst : ∀ g ∈ hits, (idOf g).sameKey (idOf hit) = false := by
    intro g hg
    obtain ⟨b, hb, hbg⟩ := h.complete g hg
    rw [← (h.keys b hb).congr (hhits g hg).isKey hkey hbg]
    exact hnew b hb
  constructor
  . intro b hb
    cases List.mem_append.1 hb with
    | inl hb => exact h.keys b hb
    | inr hb =>
      rw [List.mem_singleton.1 hb]
      exact hkey
  . rw [List.pairwise_append]
    refine ⟨h.inOrder_append [hit], List.pairwise_singleton _ _, ?_⟩
    intro a ha b hb
    rw [List.mem_singleton.1 hb, h.firstOf_append ha]
    obtain ⟨k, _, hid, hleads⟩ := h.leads a ha
    have hlast : firstOf (hits ++ [hit]) (idOf hit) = hits.length := by
      unfold firstOf
      rw [List.findIdx_append, ← firstOf, firstOf_eq_length hfirst, if_neg (Nat.lt_irrefl _)]
      simp [List.findIdx_cons, hkey.same]
    rw [hlast]
    exact firstOf_lt_of_mem hleads.mem hid
  . intro g hg
    cases List.mem_append.1 hg with
    | inl hg =>
      obtain ⟨b, hb, hbg⟩ := h.complete g hg
      exact ⟨b, List.mem_append_left _ hb, hbg⟩
    | inr hg =>
      rw [List.mem_singleton.1 hg]
      exact ⟨_, List.mem_append_right _ List.mem_cons_self, hkey.same⟩
  . intro b hb
    cases List.mem_append.1 hb with
    | inl hb =>
      obtain ⟨k, hk, hid, hleads⟩ := h.leads b hb
      refine ⟨k, hk, hid, hleads.concat_of_other ?_⟩
      rw [hkey.comm (hhits k hleads.mem).isKey]
      exact hfirst k hleads.mem
    | inr hb =>
      rw [List.mem_singleton.1 hb]
      refine ⟨hit, rfl, hkey.same, hits, [], rfl, ?_, nofun⟩
      intro g hg hsame
      rw [hfirst g hg] at hsame
      cases hsame

theorem Collects.not_sameKey_others {front back : List BestHit} {a : BestHit} {v : Value}
    (h : Collects m hits (front ++ b :: back)) (hhits : ∀ hit ∈ hits, Rankable hit) (hv : v.IsKey)
    (hb : b.id.sameKey v = true) (ha : a ∈ front ++ back)
    : a.id.sameKey v = false := by
  have hbkey : b.id.IsKey := h.keys b (List.mem_append_right _ List.mem_cons_self)
  have hakey : a.id.IsKey :=
    h.keys a (((List.sublist_cons_self b back).append_left front).subset ha)
  have hdistinct := h.not_sameKey hhits
  rw [List.pairwise_append, List.pairwise_cons] at hdistinct
  rw [hakey.comm hv, ← hbkey.congr hv hakey hb]
  cases List.mem_append.1 ha with
  | inl ha =>
    rw [hbkey.comm hakey]
    exact hdistinct.2.2 a ha b List.mem_cons_self
  | inr ha => exact hdistinct.2.1.1 a ha

theorem exists_closer (hhits : ∀ hit ∈ hits, Rankable hit) (hhit : Rankable hit)
    (hbkey : b.id.IsKey) (hb : b.id.sameKey (idOf hit) = true) (hk : b.ranked = measured m k)
    (hid : (idOf k).sameKey b.id = true) (hleads : Leads m hits k)
    : ∃ g, (if (away m hit).lt b.ranked.value then ⟨b.id, measured m hit⟩ else b)
          = (⟨b.id, measured m g⟩ : BestHit)
        ∧ (idOf g).sameKey b.id = true
        ∧ Leads m (hits ++ [hit]) g := by
  have hkkey := (hhits k hleads.mem).isKey
  have hvalue : b.ranked.value = away m k := congrArg RankedHit.value hk
  rw [hvalue]
  split
  . next hlt =>
    exact ⟨hit, rfl, hbkey.symm hhit.isKey hb,
      hleads.replace hhits hhit (hkkey.trans hbkey hhit.isKey hid hb) hlt⟩
  . next hge =>
    refine ⟨k, by rw [← hk], hid, hleads.concat ?_⟩
    intro _
    exact Binary.lt_eq_false_iff.1 (by simpa using hge) hhit.isNaN_away
      (hhits k hleads.mem).isNaN_away

theorem Collects.append_old {front back : List BestHit} (h : Collects m hits (front ++ b :: back))
    (hhits : ∀ hit ∈ hits, Rankable hit) (hhit : Rankable hit)
    (hb : b.id.sameKey (idOf hit) = true)
    : Collects m (hits ++ [hit])
        (front ++ (if (away m hit).lt b.ranked.value then ⟨b.id, measured m hit⟩ else b)
          :: back) := by
  have hmem : b ∈ front ++ b :: back := List.mem_append_right _ List.mem_cons_self
  have hbkey := h.keys b hmem
  obtain ⟨k, hk, hid, hleads⟩ := h.leads b hmem
  obtain ⟨g, hg, hgid, hgleads⟩ := exists_closer hhits hhit hbkey hb hk hid hleads
  rw [hg]
  -- The identifiers are those of before, so all that is told by them still holds.
  have hmap : (front ++ ⟨b.id, measured m g⟩ :: back).map (·.id) =
      (front ++ b :: back).map (·.id) := by
    simp only [List.map_append, List.map_cons]
  constructor
  . rw [← List.forall_mem_map (f := BestHit.id) (P := fun v => v.IsKey), hmap,
      List.forall_mem_map]
    exact h.keys
  . have horder := h.inOrder_append [hit]
    rw [← List.pairwise_map (f := BestHit.id)
      (R := fun v w => firstOf (hits ++ [hit]) v < firstOf (hits ++ [hit]) w)] at horder ⊢
    rwa [hmap]
  . intro c hc
    have hcovered : ∃ v ∈ (front ++ b :: back).map (·.id), v.sameKey (idOf c) = true := by
      cases List.mem_append.1 hc with
      | inl hc =>
        obtain ⟨a, ha, hac⟩ := h.complete c hc
        exact ⟨a.id, List.mem_map_of_mem ha, hac⟩
      | inr hc =>
        rw [List.mem_singleton.1 hc]
        exact ⟨b.id, List.mem_map_of_mem hmem, hb⟩
    rw [← hmap] at hcovered
    obtain ⟨v, hv, hvc⟩ := hcovered
    obtain ⟨a, ha, rfl⟩ := List.mem_map.1 hv
    exact ⟨a, ha, hvc⟩
  . intro a ha
    rw [List.mem_append, List.mem_cons, or_left_comm, ← List.mem_append] at ha
    obtain rfl | ha := ha
    . exact ⟨g, rfl, hgid, hgleads⟩
    . have hold := ((List.sublist_cons_self b back).append_left front).subset ha
      obtain ⟨c, hc, hca, hcleads⟩ := h.leads a hold
      have hckey := (hhits c hcleads.mem).isKey
      refine ⟨c, hc, hca, hcleads.concat_of_other ?_⟩
      rw [hhit.isKey.comm hckey, hckey.congr (h.keys a hold) hhit.isKey hca]
      exact h.not_sameKey_others hhits hhit.isKey hb ha

theorem collects_improve (h : Collects m hits bs) (hhits : ∀ hit ∈ hits, Rankable hit)
    (hhit : Rankable hit)
    : Collects m (hits ++ [hit]) (improve (idOf hit) (measured m hit) bs) := by
  obtain ⟨hnew, heq⟩ | ⟨front, b, back, rfl, hb, heq⟩ :=
    improve_cases (idOf hit) (measured m hit) bs
  . rw [heq]
    exact h.append_new hhits hhit hnew
  . rw [heq]
    exact h.append_old hhits hhit hb

theorem collects_foldl (hhits : ∀ hit ∈ hits, Rankable hit)
    : Collects m hits
        (hits.foldl (fun bs hit => improve (idOf hit) (measured m hit) bs) []) := by
  induction hits using List.reverseRecOn with
  | nil => exact ⟨nofun, .nil, nofun, nofun⟩
  | append_singleton hits hit ih =>
    rw [List.forall_mem_append, List.forall_mem_singleton] at hhits
    rw [List.foldl_append]
    exact collects_improve (ih hhits.1) hhits.1 hhits.2

end Collects

structure Chosen (m : DistanceMetric) (hits found : List Value) : Prop where
  distinct : found.Pairwise fun g k => (idOf g).sameKey (idOf k) = false
  complete : ∀ hit ∈ hits, ∃ k ∈ found, (idOf k).sameKey (idOf hit) = true
  leads : ∀ k ∈ found, Leads m hits k

/--
Whether a hit is ranked before another one: it is closer, or at the same distance of a row that was
returned first.
-/
def Before (m : DistanceMetric) (hits : List Value) (g k : Value) : Prop :=
  (away m g).lt (away m k) = true
    ∨ (away m g).eq (away m k) = true ∧ firstOf hits (idOf g) < firstOf hits (idOf k)

def placeIn (m : DistanceMetric) (hits : List Value) (k : Value) : WithBot (WithTop ℚ) ×ₗ Nat :=
  toLex ((away m k).extended, firstOf hits (idOf k))

section Sorted

variable {found : List Value}

theorem before_iff (hg : Rankable g) (hk : Rankable k)
    : Before m hits g k ↔ placeIn m hits g < placeIn m hits k := by
  have hgn := hg.isNaN_away (m := m)
  have hkn := hk.isNaN_away (m := m)
  unfold Before placeIn
  rw [Prod.Lex.toLex_lt_toLex, Binary.lt_iff hgn hkn, Binary.eq_iff]
  tauto

theorem pairwise_not_sameKey (hhits : ∀ hit ∈ hits, Rankable hit) (hfound : ∀ k ∈ found, k ∈ hits)
    (h : found.Pairwise fun g k => firstOf hits (idOf g) ≠ firstOf hits (idOf k))
    : found.Pairwise fun g k => (idOf g).sameKey (idOf k) = false := by
  apply h.imp_of_mem
  intro g k hg hk hne
  rw [← Bool.not_eq_true]
  intro hsame
  exact hne
    (firstOf_congr hhits (hhits g (hfound g hg)).isKey (hhits k (hfound k hk)).isKey hsame)

/-- The hits that the rows are ranked by, in the order in which the rows were first returned. In any
other order they are still one for each row. -/
theorem exists_chosen (hhits : ∀ hit ∈ hits, Rankable hit)
    : ∃ found, (hits.foldl (fun bs hit => improve (idOf hit) (measured m hit) bs) []).map (·.ranked)
          = found.map (measured m)
        ∧ (found.Pairwise fun g k => firstOf hits (idOf g) < firstOf hits (idOf k))
        ∧ ∀ found' : List Value, found'.Perm found → Chosen m hits found' := by
  have h := collects_foldl (m := m) hhits
  generalize hits.foldl (fun bs hit => improve (idOf hit) (measured m hit) bs) [] = bs at h
  have hhit : ∀ b ∈ bs, b.ranked = measured m b.ranked.hit
      ∧ (idOf b.ranked.hit).sameKey b.id = true ∧ Leads m hits b.ranked.hit := by
    intro b hb
    obtain ⟨k, hk, hid, hleads⟩ := h.leads b hb
    rw [hk]
    exact ⟨rfl, hid, hleads⟩
  have hkey : ∀ b ∈ bs, (idOf b.ranked.hit).IsKey :=
    fun b hb => (hhits _ (hhit b hb).2.2.mem).isKey
  have hleads : ∀ k ∈ bs.map (·.ranked.hit), Leads m hits k := by
    rw [List.forall_mem_map]
    exact fun b hb => (hhit b hb).2.2
  have hinOrder : (bs.map (·.ranked.hit)).Pairwise
      fun g k => firstOf hits (idOf g) < firstOf hits (idOf k) := by
    rw [List.pairwise_map]
    apply h.inOrder.imp_of_mem
    intro a b ha hb hlt
    rwa [firstOf_congr hhits (hkey a ha) (h.keys a ha) (hhit a ha).2.1,
      firstOf_congr hhits (hkey b hb) (h.keys b hb) (hhit b hb).2.1]
  refine ⟨bs.map (·.ranked.hit), ?_, hinOrder, fun found' hperm => ⟨?_, ?_, ?_⟩⟩
  . rw [List.map_map]
    exact List.map_congr_left fun b hb => (hhit b hb).1
  . apply pairwise_not_sameKey hhits fun k hk => (hleads k (hperm.mem_iff.1 hk)).mem
    exact (hinOrder.imp Nat.ne_of_lt).perm hperm.symm Ne.symm
  . intro hit hin
    obtain ⟨b, hb, hid⟩ := h.complete hit hin
    have hbhit := (hkey b hb).trans (h.keys b hb) (hhits hit hin).isKey (hhit b hb).2.1 hid
    exact ⟨b.ranked.hit, hperm.mem_iff.2 (List.mem_map_of_mem hb), hbhit⟩
  . exact fun k hk => hleads k (hperm.mem_iff.1 hk)

theorem told_measured (hfound : ∀ k ∈ found, Rankable k)
    (h : found.Pairwise fun g k => firstOf hits (idOf g) < firstOf hits (idOf k))
    : Order.Told (fun a b => a.value.lt b.value)
        (fun a b => placeIn m hits a.hit < placeIn m hits b.hit) (found.map (measured m)) := by
  unfold Order.Told
  rw [List.pairwise_map]
  apply h.imp_of_mem
  intro g k hg hk hfirst
  have hgn := (hfound g hg).isNaN_away (m := m)
  have hkn := (hfound k hk).isNaN_away (m := m)
  dsimp only [measured, placeIn, Order.Tells]
  simp only [Prod.Lex.toLex_lt_toLex]
  split
  . next hlt => exact .inl ((Binary.lt_iff hkn hgn).1 hlt)
  . next hge =>
    rw [Binary.lt_iff hkn hgn, not_lt] at hge
    cases hge.lt_or_eq with
    | inl hlt => exact .inl hlt
    | inr heq => exact .inr ⟨heq, hfirst⟩

theorem exists_sort_measured (hfound : ∀ k ∈ found, Rankable k)
    (h : found.Pairwise fun g k => firstOf hits (idOf g) < firstOf hits (idOf k))
    : ∃ found' : List Value, found'.Perm found
        ∧ Order.sort (fun a b => a.value.lt b.value) (found.map (measured m)) =
            found'.map (measured m)
        ∧ found'.Pairwise fun g k => placeIn m hits g < placeIn m hits k := by
  have hperm := Order.sort_perm (fun a b : RankedHit => a.value.lt b.value) (found.map (measured m))
  have hsorted := Order.pairwise_sort (told_measured (m := m) hfound h)
  -- A rearrangement of what belongs to the hits belongs to a rearrangement of the hits.
  obtain ⟨found', hmap, hfound'⟩ :=
    (congrFun₂ (List.eq_map_comp_perm (measured m)) _ _).mpr hperm
  rw [hmap, List.pairwise_map] at hsorted
  exact ⟨found', hfound', hmap, hsorted⟩

theorem Leads.le_of_firstOf_lt (hhits : ∀ hit ∈ hits, Rankable hit) (hg : Leads m hits g)
    (hk : k ∈ hits) (hsorted : hits.Pairwise fun g k => (away m g).le (away m k) = true)
    (h : firstOf hits (idOf g) < firstOf hits (idOf k))
    : (away m g).le (away m k) = true := by
  obtain ⟨i, hi, rfl⟩ := List.mem_iff_getElem.1 hk
  have hfirst := firstOf_lt_of_mem hg.mem (hhits g hg.mem).isKey.same
  have hsame : (idOf hits[firstOf hits (idOf g)]).sameKey (idOf g) = true :=
    List.findIdx_getElem (p := fun k => (idOf k).sameKey (idOf g))
  have hle := hg.le hhits (List.getElem_mem hfirst) hsame
  have hlate : firstOf hits (idOf hits[i]) ≤ i := by
    rw [← Nat.not_lt]
    intro hlt
    have hne := List.not_of_lt_findIdx hlt
    rw [(hhits _ (List.getElem_mem hi)).isKey.same] at hne
    cases hne
  exact Binary.le_trans hle
    (List.pairwise_iff_getElem.1 hsorted _ i hfirst hi (Nat.lt_of_lt_of_le h hlate))

theorem sort_measured_eq_self (hhits : ∀ hit ∈ hits, Rankable hit) (hfound : Chosen m hits found)
    (h : found.Pairwise fun g k => firstOf hits (idOf g) < firstOf hits (idOf k))
    (hsorted : hits.Pairwise fun g k => (away m g).le (away m k) = true)
    : Order.sort (fun a b => a.value.lt b.value) (found.map (measured m)) =
        found.map (measured m) := by
  have hin : ∀ k ∈ found, k ∈ hits := fun k hk => (hfound.leads k hk).mem
  obtain ⟨found', hperm, hmap, hplaces'⟩ :=
    exists_sort_measured (m := m) (fun k hk => hhits k (hin k hk)) h
  have hplaces : found.Pairwise fun g k => placeIn m hits g < placeIn m hits k := by
    apply h.imp_of_mem
    intro g k hg hk hfirst
    have hle := (hfound.leads g hg).le_of_firstOf_lt hhits (hin k hk) hsorted hfirst
    exact Prod.Lex.toLex_lt_toLex.2
      ((Binary.le_iff.1 hle).2.2.lt_or_eq.imp_right fun heq => ⟨heq, hfirst⟩)
  have heq : found' = found := by
    apply List.Perm.eq_of_pairwise _ hplaces' hplaces hperm
    intro g k _ _ hgk hkg
    exact absurd hgk hkg.asymm
  rw [hmap, heq]

end Sorted

/-- The ranking of the hits of all query vectors has the hit that each row is ranked by. Those of
one query vector stand in the order in which their rows were first returned, and all others come
closest first. -/
theorem bestHits_ranked {lists : List (List Value)} (h : ∀ hit ∈ lists.flatten, Rankable hit)
    : ∃ found, bestHits m (.list (lists.map .list)) = .ok (found.map (measured m))
        ∧ Chosen m lists.flatten found
        ∧ (lists.length ≠ 1 → found.Pairwise (Before m lists.flatten))
        ∧ (lists.length = 1 →
            (found.Pairwise fun g k =>
              firstOf lists.flatten (idOf g) < firstOf lists.flatten (idOf k))
            ∧ ((lists.flatten.Pairwise fun g k => (away m g).le (away m k) = true) →
                Order.sort (fun a b => a.value.lt b.value) (found.map (measured m)) =
                  found.map (measured m))) := by
  obtain ⟨found, hmap, hinOrder, hchosen⟩ := exists_chosen (m := m) h
  have hrankable : ∀ k ∈ found, Rankable k :=
    fun k hk => h k ((hchosen found (.refl found)).leads k hk).mem
  have hbest : bestHits m (.list (lists.map .list)) =
      .ok (if lists.length = 1 then found.map (measured m)
        else Order.sort (fun a b => a.value.lt b.value) (found.map (measured m))) := by
    rw [bestHits_lists, foldlM_addHit h, ← hmap]
    rfl
  rw [hbest]
  by_cases hone : lists.length = 1
  . have hfound := hchosen found (.refl found)
    rw [if_pos hone]
    refine ⟨found, rfl, hfound, fun hne => absurd hone hne, fun _ => ⟨hinOrder, ?_⟩⟩
    exact sort_measured_eq_self h hfound hinOrder
  . obtain ⟨found', hperm, hsorted, hplaces⟩ := exists_sort_measured (m := m) hrankable hinOrder
    rw [if_neg hone, hsorted]
    refine ⟨found', rfl, hchosen found' hperm, fun _ => ?_, fun heq => absurd heq hone⟩
    apply hplaces.imp_of_mem
    intro g k hg hk hlt
    exact (before_iff (hrankable g (hperm.mem_iff.1 hg)) (hrankable k (hperm.mem_iff.1 hk))).2 hlt

def rankedHit (id distance : Int) : Value :=
  .dict [("id", .int id), ("distance", .int distance)]

/-- The second query vector is closer to the first row, which two others are as close as. -/
theorem bestHits_ranked_sample
    : let lists := [[rankedHit 1 2, rankedHit 2 1], [rankedHit 1 1, rankedHit 3 1]]
      (∀ hit ∈ lists.flatten, Rankable hit)
        ∧ ∃ found, bestHits .l2 (.list (lists.map .list)) = .ok (found.map (measured .l2))
            ∧ Chosen .l2 lists.flatten found
            ∧ found.Pairwise (Before .l2 lists.flatten) := by
  intro lists
  have hrankable : ∀ hit ∈ lists.flatten, Rankable hit := by
    intro hit hin
    simp only [lists, List.flatten_cons, List.flatten_nil, List.append_nil, List.cons_append,
      List.nil_append, List.mem_cons, List.not_mem_nil, or_false] at hin
    obtain rfl | rfl | rfl | rfl := hin
    . exact ⟨⟨_, rfl, rfl, rfl⟩, _, rfl, rfl⟩
    . exact ⟨⟨_, rfl, rfl, rfl⟩, _, rfl, rfl⟩
    . exact ⟨⟨_, rfl, rfl, rfl⟩, _, rfl, rfl⟩
    . exact ⟨⟨_, rfl, rfl, rfl⟩, _, rfl, rfl⟩
  obtain ⟨found, hbest, hchosen, hbefore, _⟩ := bestHits_ranked (m := .l2) hrankable
  exact ⟨hrankable, found, hbest, hchosen, hbefore (by decide)⟩

end RankFusion.Milvus
