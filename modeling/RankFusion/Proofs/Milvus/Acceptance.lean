import RankFusion.Proofs.Milvus.Conversion
import RankFusion.Proofs.Milvus.Inference

/-!
This module contains the hits that a batch can be made of. All that can be wrong with them is that
their keys are no integers.
-/

namespace RankFusion.Milvus

/--
Whether a hit can be a row: its distance is a number, its identifier is a possible key and no number
out of the range of row identifiers, and its entity is a mapping.
-/
structure Readable (hit : Value) : Prop where
  distance : ∃ x, reported hit = .ok x
  id : ∃ id, hit.part "id" = .ok id ∧ id.notKey? = none
    ∧ ∀ f, id.toWord = .error f → f.kind ≠ .overflow
  entity : ∃ es, entityOf hit = .dict es

/--
The datum of a field in a hit. A field that the hit comes without is absent.
-/
def datum (name : String) (hit : Value) : Value :=
  match entityOf hit with
  | .dict es => Value.lookup name es
  | _ => .null

/--
Whether a batch can be made of hits: each can be a row, the data of a field fit its type if the
collection declares one, and are of one scalar type if it does not.
-/
structure InOrder (types : FieldTypes) (hits : List Value) : Prop where
  readable : ∀ hit ∈ hits, Readable hit
  declared : ∀ name type, types.lookup? name = some type →
    ∀ hit ∈ hits, ∃ cell, type.convert (datum name hit) = .ok cell
  undeclared : ∀ name, types.lookup? name = none →
    ∃ type ∈ ColumnType.shownTypes, ∀ hit ∈ hits, type.Admits (datum name hit)

section Ranking

variable {m : DistanceMetric} {hits : List Value}

theorem hit_of_mem_improve {id : Value} {r : RankedHit} {bs : List BestHit} {b : BestHit}
    (h : b ∈ improve id r bs)
    : b.ranked = r ∨ b ∈ bs := by
  induction bs with
  | nil =>
    rw [improve, List.mem_singleton] at h
    rw [h]
    exact .inl rfl
  | cons a bs ih =>
    unfold improve at h
    split at h
    . rw [List.mem_cons] at h
      obtain rfl | h := h
      . split
        . exact .inl rfl
        . exact .inr List.mem_cons_self
      . exact .inr (List.mem_cons_of_mem a h)
    . rw [List.mem_cons] at h
      obtain rfl | h := h
      . exact .inr List.mem_cons_self
      . exact (ih h).imp_right (List.mem_cons_of_mem a)

end Ranking

section Assembly

variable {types : FieldTypes} {p : Projection} {hits : List Value} {collection : String}

theorem InOrder.mono {all : List Value} (h : InOrder types all) (hhits : ∀ hit ∈ hits, hit ∈ all)
    : InOrder types hits where
  readable hit hhit := h.readable hit (hhits hit hhit)
  declared name type htype hit hhit := h.declared name type htype hit (hhits hit hhit)
  undeclared name hnone := by
    obtain ⟨type, htype, hadmits⟩ := h.undeclared name hnone
    exact ⟨type, htype, fun hit hhit => hadmits hit (hhits hit hhit)⟩

theorem fieldValue_eq_datum {hit : Value} (h : ∃ es, entityOf hit = .dict es) (name : String)
    : fieldValue (.text name) (entityOf hit) = .ok (datum name hit) := by
  obtain ⟨es, hes⟩ := h
  unfold datum
  rw [hes]
  rfl

theorem fieldColumn_of_ofValues (h : ∀ hit ∈ hits, ∃ es, entityOf hit = .dict es) {name : String}
    {cells : Cells}
    (hcells : Cells.ofValues (types.lookup? name) (hits.map (datum name)) = .ok cells)
    : fieldColumn types p hits (.text name) =
        .ok ⟨⟨p.outputName name, cells.type, true⟩, cells.values⟩ := by
  have hfound : hits.mapM (fun hit => fieldValue (.text name) (entityOf hit)) =
      .ok (hits.map (datum name)) := by
    rw [List.mapM_eq_ok_iff, List.forall₂_map_right_iff, List.forall₂_same]
    intro hit hhit
    exact fieldValue_eq_datum (h hit hhit) name
  unfold fieldColumn
  refine Except.bind_eq_ok_iff.2 ⟨_, hfound, Except.bind_unit_eq_ok_iff.2 ⟨rfl, ?_⟩⟩
  exact Except.bind_eq_ok_iff.2 ⟨cells, hcells, rfl⟩

theorem exists_ids (h : ∀ hit ∈ hits, Readable hit)
    : ∃ ids, hits.mapM (·.part "id") = .ok ids ∧ ids.length = hits.length
        ∧ ∀ id ∈ ids, id.notKey? = none ∧ ∀ f, id.toWord = .error f → f.kind ≠ .overflow := by
  have hpart : ∀ hit ∈ hits, ∃ id, hit.part "id" = .ok id := by
    intro hit hhit
    obtain ⟨id, hid, _⟩ := (h hit hhit).id
    exact ⟨id, hid⟩
  obtain ⟨ids, hids⟩ := List.exists_mapM_iff.2 hpart
  have hids' := List.mapM_eq_ok_iff.1 hids
  refine ⟨ids, hids, hids'.length_eq.symm, ?_⟩
  intro id hid
  obtain ⟨hit, hhit, hpart⟩ := List.exists_left_of_forall₂ hids' hid
  obtain ⟨id', hid', hkey⟩ := (h hit hhit).id
  rw [hpart] at hid'
  cases hid'
  exact hkey

end Assembly

end RankFusion.Milvus
