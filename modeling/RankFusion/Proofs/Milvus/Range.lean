import Mathlib.Algebra.Order.Ring.Rat
import RankFusion.Proofs.Milvus.Contract
import RankFusion.Proofs.Query.Rules

/-!
This module contains the ranges of distances that Milvus is asked for. A hit is in the range of a
search if and only if the distance that the hit is shown with lies between the bounds, and the
metric that a search is made by is the one that its hits are shown by.
-/

namespace RankFusion

def Value.given? (v : Value) : Option Value := if v.isNull then none else some v

namespace Milvus

section Arithmetic

variable {M : Type → Type} [Monad M] {α : Type} (complement : α → M α) (m : DistanceMetric)

def distanceIn (x : α) : M α := if m.isSimilarity then complement x else pure x

def boundIn (name : String) : Option α → M (List (String × α))
  | none => pure []
  | some x => do return [(name, ← distanceIn complement m x)]

def rangeIn (lower upper : Option α) : M (List (String × α)) := do
  return (← boundIn complement m "radius" upper) ++ (← boundIn complement m "range_filter" lower)

end Arithmetic

section Program

theorem toDistance_eq (m : DistanceMetric) (x : Binary)
    : toDistance m x = distanceIn (M := Id) complement m x := rfl

theorem distanceOf_eq (m : DistanceMetric) (v : Value)
    : distanceOf m v = distanceIn complementValue m v := rfl

theorem boundEntry_eq (m : DistanceMetric) (name : String) (bound : Value)
    : boundEntry m name bound = boundIn complementValue m name bound.given? := by
  unfold boundEntry Value.given?
  split
  . rfl
  . rw [boundIn, ← distanceOf_eq]
    cases distanceOf m bound <;> rfl

theorem rangeEntries_eq (m : DistanceMetric) (lower upper : Value)
    : rangeEntries m lower upper = rangeIn complementValue m lower.given? upper.given? := by
  unfold rangeEntries rangeIn
  rw [boundEntry_eq, boundEntry_eq]

theorem complement_eq_round {x : Binary} {v : Dyadic} (h : x.dyadic? = some v)
    : complement x = Format.double.round (1 - v.toRat) := by
  have hone : (1 : Dyadic).toRat = 1 := rfl
  have hzero : (0 : Dyadic).toRat = 0 := rfl
  unfold complement Format.sub Binary.one
  cases x with
  | nan => cases h
  | infinity s => cases h
  | negZero =>
    cases h
    rw [hzero, sub_zero]
    rfl
  | finite w =>
    cases h
    unfold Binary.neg
    dsimp only
    split
    next h0 =>
      rw [h0, hzero, sub_zero]
      rfl
    next =>
      change Format.double.round (1 + -v).toRat = _
      rw [Dyadic.toRat_add, Dyadic.toRat_neg, hone, sub_eq_add_neg]

end Program

def similarityNames : List String := ["COSINE", "IP"]

/--
Whether Milvus keeps a hit with a reported number under the parameters of a search by a metric. The
radius is the outer bound and left out of the range, the range filter the inner one and part of it.
-/
def Passes (metric : String) (params : List (String × ℚ)) (v : ℚ) : Prop :=
  if metric ∈ similarityNames then
    (∀ radius, params.lookup "radius" = some radius → radius < v)
      ∧ ∀ inner, params.lookup "range_filter" = some inner → v ≤ inner
  else
    (∀ inner, params.lookup "range_filter" = some inner → inner ≤ v)
      ∧ ∀ radius, params.lookup "radius" = some radius → v < radius

def InRange (lower upper : Option ℚ) (distance : ℚ) : Prop :=
  (∀ bound, lower = some bound → bound ≤ distance)
    ∧ ∀ bound, upper = some bound → distance < bound

def exactComplement (x : ℚ) : Id ℚ := 1 - x

theorem metricName_mem_similarityNames (m : DistanceMetric)
    : metricName m ∈ similarityNames ↔ m.isSimilarity = true := by
  cases m <;> decide

section Exact

variable (m : DistanceMetric) (lower upper : Option ℚ)

theorem lookup_radius
    : List.lookup "radius" (rangeIn (M := Id) exactComplement m lower upper) =
        upper.map (distanceIn (M := Id) exactComplement m) := by
  cases upper with
  | none => cases lower <;> rfl
  | some x => rfl

theorem lookup_rangeFilter
    : List.lookup "range_filter" (rangeIn (M := Id) exactComplement m lower upper) =
        lower.map (distanceIn (M := Id) exactComplement m) := by
  cases upper with
  | none => cases lower <;> rfl
  | some x => cases lower <;> rfl

theorem distanceIn_of_similarity {m : DistanceMetric} (h : m.isSimilarity = true) (x : ℚ)
    : distanceIn (M := Id) exactComplement m x = (1 - x : ℚ) := by
  rw [distanceIn, if_pos h]
  rfl

theorem distanceIn_of_distance {m : DistanceMetric} (h : m.isSimilarity = false) (x : ℚ)
    : distanceIn (M := Id) exactComplement m x = x := by
  rw [distanceIn, h]
  rfl

theorem passes_iff (v : ℚ)
    : Passes (metricName m) (rangeIn (M := Id) exactComplement m lower upper) v
        ↔ InRange lower upper (distanceIn (M := Id) exactComplement m v) := by
  unfold Passes InRange
  rw [lookup_radius, lookup_rangeFilter]
  simp only [Option.map_eq_some_iff, forall_exists_index, and_imp, forall_apply_eq_imp_iff₂]
  cases hm : m.isSimilarity with
  | false =>
    rw [if_neg (by rw [metricName_mem_similarityNames, hm]; exact Bool.false_ne_true)]
    simp only [distanceIn_of_distance hm]
  | true =>
    -- the complement turns the order around, so the open end of the range stays the outer one
    have hopen : ∀ x : ℚ, 1 - x < v ↔ 1 - v < x := fun x => sub_lt_comm
    have hclosed : ∀ x : ℚ, v ≤ 1 - x ↔ x ≤ 1 - v := fun x => le_sub_comm
    rw [if_pos ((metricName_mem_similarityNames m).2 hm), and_comm]
    simp only [distanceIn_of_similarity hm, hopen, hclosed]

end Exact

section Call

variable {m : DistanceMetric} {c : CollectionConfig} {s : SubSearch}

/--
Whether search parameters ask for a range of distances by a metric. All others are counts.
-/
def AsksFor (m : DistanceMetric) (range : Value) (params : List (String × Value)) : Prop :=
  ∃ counts entries, params = counts ++ entries
    ∧ (∀ p ∈ counts, p.1 ∈ ["nprobe", "ef", "refine_k"])
    ∧ ((range = .null ∧ entries = [])
      ∨ ∃ lower upper, range.pair = .ok (lower, upper) ∧ rangeEntries m lower upper = .ok entries)

def count (name : String) (v : Value) : List (String × Value) :=
  if v.isNull then [] else [(name, v)]

theorem name_of_mem_count {name : String} {v : Value} {p : String × Value} (h : p ∈ count name v)
    : p.1 = name := by
  unfold count at h
  split at h
  . cases h
  . rw [List.mem_singleton.1 h]

theorem asksFor_of_tuningParams {t : VectorTuning} {params : List (String × Value)}
    (h : tuningParams m t = .ok params)
    : AsksFor m t.distanceRange params := by
  have hcounts : ∀ p ∈ count "nprobe" t.nprobes ++ count "ef" t.ef
      ++ count "refine_k" t.refineFactor, p.1 ∈ ["nprobe", "ef", "refine_k"] := by
    intro p hp
    rw [List.mem_append, List.mem_append] at hp
    obtain (hp | hp) | hp := hp
    all_goals
      rw [name_of_mem_count hp]
      decide
  unfold tuningParams at h
  dsimp only at h
  split at h
  next hnull =>
    cases h
    exact ⟨_, [], rfl, hcounts, .inl ⟨Value.isNull_eq_true_iff.1 hnull, rfl⟩⟩
  next =>
    obtain ⟨⟨lower, upper⟩, hpair, h⟩ := Except.bind_eq_ok_iff.1 h
    obtain ⟨entries, hentries, h⟩ := Except.bind_eq_ok_iff.1 h
    cases h
    exact ⟨_, entries, rfl, hcounts, .inr ⟨lower, upper, hpair, hentries⟩⟩

theorem asksFor_of_searchCall (hside : s.side = .vector) {call : SearchCall} {p : Projection}
    (h : searchCall c s = .ok (call, p))
    : call.metric = metricName (metricOf c s)
        ∧ AsksFor (metricOf c s) s.tuning.distanceRange call.params := by
  unfold searchCall sideCall at h
  rw [hside] at h
  obtain ⟨part, hpart, h⟩ := Except.bind_eq_ok_iff.1 h
  obtain ⟨_, _, h⟩ := Except.bind_eq_ok_iff.1 h
  cases h
  obtain ⟨params, hparams, hpart⟩ := Except.bind_eq_ok_iff.1 hpart
  obtain ⟨_, _, hpart⟩ := Except.bind_eq_ok_iff.1 hpart
  cases hpart
  unfold vectorParams at hparams
  split at hparams
  . cases hparams
  . exact ⟨rfl, asksFor_of_tuningParams hparams⟩

end Call

section Reply

variable {m : DistanceMetric} {lists : Value} {ranked : List RankedHit}

/--
Whether a hit is one of the hits of an answer, and reports a number.
-/
structure Reports (lists hit : Value) (x : Binary) : Prop where
  mem : ∃ ls, lists.items = .ok ls ∧ ∃ list ∈ ls, ∃ hits, list.items = .ok hits ∧ hit ∈ hits
  reported : reported hit = .ok x

def Shown (m : DistanceMetric) (lists : Value) (r : RankedHit) : Prop :=
  ∃ x, Reports lists r.hit x ∧ r.value = toDistance m x

theorem shown_addHit {bs bs' : List BestHit} {hit : Value} (hbs : ∀ b ∈ bs, Shown m lists b.ranked)
    (hmem : ∃ ls, lists.items = .ok ls ∧ ∃ list ∈ ls, ∃ hits, list.items = .ok hits ∧ hit ∈ hits)
    (h : addHit m bs hit = .ok bs')
    : ∀ b ∈ bs', Shown m lists b.ranked := by
  unfold addHit at h
  obtain ⟨x, hx, h⟩ := Except.bind_eq_ok_iff.1 h
  obtain ⟨id, _, h⟩ := Except.bind_eq_ok_iff.1 h
  obtain ⟨_, h⟩ := Except.bind_unit_eq_ok_iff.1 h
  cases h
  intro b hb
  obtain hranked | hb := hit_of_mem_improve hb
  . rw [hranked]
    exact ⟨x, ⟨hmem, hx⟩, rfl⟩
  . exact hbs b hb

theorem shown_of_bestHits (h : bestHits m lists = .ok ranked)
    : ∀ r ∈ ranked, Shown m lists r := by
  unfold bestHits at h
  obtain ⟨ls, hls, h⟩ := Except.bind_eq_ok_iff.1 h
  obtain ⟨best, hbest, h⟩ := Except.bind_eq_ok_iff.1 h
  have hshown : ∀ b ∈ best, Shown m lists b.ranked := by
    refine List.foldlM_keeps (P := fun bs => ∀ b ∈ bs, Shown m lists b.ranked) ?_ nofun hbest
    intro list hlist bs bs' hbs hbs'
    obtain ⟨hits, hhits, hbs'⟩ := Except.bind_eq_ok_iff.1 hbs'
    refine List.foldlM_keeps (P := fun bs => ∀ b ∈ bs, Shown m lists b.ranked) ?_ hbs hbs'
    intro hit hhit _ _ hbs hbs'
    exact shown_addHit hbs ⟨ls, hls, list, hlist, hits, hhits, hhit⟩ hbs'
  have hranked : ∀ r ∈ best.map (·.ranked), Shown m lists r := by
    rw [List.forall_mem_map]
    exact hshown
  split at h
  . cases h
    exact hranked
  . cases h
    intro r hr
    exact hranked r ((Order.sort_perm _ _).mem_iff.1 hr)

theorem exists_reports (h : ∀ r ∈ ranked, Shown m lists r)
    : ∃ shown : List (Value × Binary), (∀ g ∈ shown, Reports lists g.1 g.2)
        ∧ ranked = shown.map fun g => ⟨g.1, toDistance m g.2⟩ := by
  induction ranked with
  | nil => exact ⟨[], nofun, rfl⟩
  | cons r ranked ih =>
    rw [List.forall_mem_cons] at h
    obtain ⟨x, hx, hvalue⟩ := h.1
    obtain ⟨shown, hshown, rfl⟩ := ih h.2
    refine ⟨(r.hit, x) :: shown, List.forall_mem_cons.2 ⟨hx, hshown⟩, ?_⟩
    rw [List.map_cons, ← hvalue]

theorem shown_of_toBatch {c : CollectionConfig} {types : FieldTypes} {s : SubSearch}
    {p : Projection} {b : Batch} (hside : s.side = .vector)
    (h : toBatch c types s p lists = .ok b)
    : ∃ shown : List (Value × Binary), (∀ g ∈ shown, Reports lists g.1 g.2)
        ∧ bestHits (metricOf c s) lists =
            .ok (shown.map fun g => ⟨g.1, toDistance (metricOf c s) g.2⟩)
        ∧ b.columns.getLast? = some ⟨⟨distanceColumn, .float32, true⟩,
            shown.map fun g => .real (Format.single.convert (toDistance (metricOf c s) g.2))⟩ := by
  unfold toBatch at h
  obtain ⟨ranked, hranked, h⟩ := Except.bind_eq_ok_iff.1 h
  obtain ⟨_, _, h⟩ := Except.bind_eq_ok_iff.1 h
  obtain ⟨columns, _, h⟩ := Except.bind_eq_ok_iff.1 h
  unfold rank at hranked
  rw [hside] at hranked
  obtain ⟨shown, hshown, rfl⟩ := exists_reports (shown_of_bestHits hranked)
  refine ⟨shown, hshown, hranked, ?_⟩
  obtain ⟨ids, hcolumns⟩ : ∃ ids,
      Batch.ofColumns? (columns ++ ids ++ [rankColumn s.side (shown.map _)]) none = some b := by
    dsimp only at h
    split at h
    . obtain ⟨column, _, h⟩ := Except.bind_eq_ok_iff.1 h
      rw [pure_bind] at h
      split at h
      next hcolumns =>
        cases h
        exact ⟨[column], hcolumns⟩
      next => cases h
    . rw [pure_bind] at h
      split at h
      next hcolumns =>
        cases h
        exact ⟨[], hcolumns⟩
      next => cases h
  rw [(Batch.ofColumns?_eq_some_iff.1 hcolumns).2.1, List.getLast?_concat, hside]
  unfold rankColumn
  rw [List.map_map]
  rfl

end Reply

namespace MilvusExecutor

variable {e : MilvusExecutor} {client : Client} {s : SubSearch}

theorem calls_of_answered {types : FieldTypes} {p : Projection} {log : List LogEntry} {n : Nat}
    {call : SearchCall} {answer : SearchAnswer} {found : Searched}
    (h : answered e s types p log ⟨n, [call]⟩ answer = found)
    : (∀ asked ∈ found.traffic.calls, asked = call)
        ∧ ∀ b, found.reply.outcome = .ok b → ∃ lists, answer.inTime? s = some (.hits lists)
            ∧ found.traffic.calls = [call] ∧ toBatch e.config types s p lists = .ok b := by
  obtain ⟨_, _, heq⟩ | ⟨f, _, heq⟩ | ⟨lists, hanswer, heq⟩ := answered_cases answer
  . rw [← h, heq]
    refine ⟨fun _ hasked => absurd hasked List.not_mem_nil, ?_⟩
    rintro b ⟨⟩
  . rw [← h, heq]
    refine ⟨fun _ => List.mem_singleton.1, ?_⟩
    rintro b ⟨⟩
  . rw [← h, heq]
    exact ⟨fun _ => List.mem_singleton.1, fun b hb => ⟨lists, hanswer, rfl, hb⟩⟩

theorem execute_cases {found : Searched} (h : e.execute client s = found)
    : (∀ call ∈ found.traffic.calls, ∃ p, searchCall e.config s = .ok (call, p))
        ∧ ∀ b, found.reply.outcome = .ok b →
            ∃ call p types lists, searchCall e.config s = .ok (call, p)
              ∧ found.traffic.calls = [call]
              ∧ (client.search call).inTime? s = some (.hits lists)
              ∧ toBatch e.config types s p lists = .ok b := by
  unfold MilvusExecutor.execute at h
  split at h
  next =>
    rw [← h]
    exact ⟨nofun, nofun⟩
  next call p hcall =>
    unfold MilvusExecutor.search at h
    split at h
    . rw [← h]
      exact ⟨nofun, nofun⟩
    . dsimp only at h
      split at h
      . rw [← h]
        exact ⟨nofun, nofun⟩
      . rw [← h]
        exact ⟨nofun, nofun⟩
      . rw [← h]
        refine ⟨fun asked hasked => ⟨p, ?_⟩, nofun⟩
        obtain rfl := List.mem_singleton.1 hasked
        exact hcall
      next types _ _ =>
        obtain ⟨hcalls, hbatch⟩ := calls_of_answered h
        refine ⟨fun asked hasked => ⟨p, hcalls asked hasked ▸ hcall⟩, ?_⟩
        intro b hb
        obtain ⟨lists, hanswer, hasked, hbatch⟩ := hbatch b hb
        exact ⟨call, p, types, lists, hcall, hasked, hanswer, hbatch⟩

end MilvusExecutor

/--
A hit passes the range of a search if and only if its distance is in the range, and a search is
made, bounded and shown by one metric.
-/
theorem range_agrees
    -- on exact numbers
    : (∀ (m : DistanceMetric) (lower upper : Option ℚ) (v : ℚ),
        Passes (metricName m) (rangeIn (M := Id) exactComplement m lower upper) v
          ↔ InRange lower upper (distanceIn (M := Id) exactComplement m v))
      -- the same on the numbers of the program, whose complement is the exact one, rounded
      ∧ (∀ m x, toDistance m x = distanceIn (M := Id) complement m x)
      ∧ (∀ m lower upper,
          rangeEntries m lower upper = rangeIn complementValue m lower.given? upper.given?)
      ∧ (∀ (n : Scalar) (x : Binary), n.toReal = .ok x →
          complementValue n.toValue = .ok (.real (complement x)))
      ∧ (∀ (x : Binary) (v : Dyadic), x.dyadic? = some v →
          complement x = Format.double.round (1 - v.toRat))
      -- one metric for the range, the call and the distances of a search
      ∧ ∀ (e : MilvusExecutor) (client : Client) (s : SubSearch), s.side = .vector →
          let found := e.execute client s
          let m := metricOf e.config s
          (∀ call p, searchCall e.config s = .ok (call, p) →
              call.metric = metricName m ∧ AsksFor m s.tuning.distanceRange call.params)
            ∧ (∀ call ∈ found.traffic.calls, ∃ p, searchCall e.config s = .ok (call, p))
            ∧ ∀ b, found.reply.outcome = .ok b →
                ∃ (call : SearchCall) (lists : Value) (shown : List (Value × Binary)),
                  found.traffic.calls = [call]
                    ∧ (client.search call).inTime? s = some (.hits lists)
                    -- the hits of the rows in order, each with the number that it reports
                    ∧ (∀ g ∈ shown, Reports lists g.1 g.2)
                    ∧ bestHits m lists = .ok (shown.map fun g => ⟨g.1, toDistance m g.2⟩)
                    ∧ b.columns.getLast? = some ⟨⟨"_distance", .float32, true⟩,
                        shown.map fun g =>
                          .real (Format.single.convert (toDistance m g.2))⟩ := by
  refine ⟨passes_iff, toDistance_eq, rangeEntries_eq, ?scalar, fun _ _ => complement_eq_round,
    ?execute⟩
  case scalar =>
    intro n x hx
    rw [complementValue_toValue, hx]
    rfl
  case execute =>
    intro e client s hside
    obtain ⟨hcalls, hbatch⟩ := MilvusExecutor.execute_cases (Eq.refl (e.execute client s))
    refine ⟨fun call p => asksFor_of_searchCall hside, hcalls, ?_⟩
    intro b hb
    obtain ⟨call, p, types, lists, hcall, hasked, hanswer, hb⟩ := hbatch b hb
    obtain ⟨shown, hshown, hbest, hlast⟩ := shown_of_toBatch hside hb
    exact ⟨call, lists, shown, hasked, hanswer, hshown, hbest, hlast⟩

def boundedSearch : SubSearch where
  side := .vector
  vector := .list [.real .one]
  tuning := { distanceRange := .list [.null, .int 1] }

/-- A similarity of one is in the range, and none at all is not. -/
theorem range_agrees_bounded
    : let e : MilvusExecutor := { config := { collection := "titles" } }
      let hit : Value := .dict [("id", .int 1), ("distance", .real .one)]
      let lists : Value := .list [.list [hit]]
      let found := e.execute (MilvusExecutor.titles (.hits lists)) boundedSearch
      boundedSearch.side = .vector
        ∧ Passes "COSINE" (rangeIn (M := Id) exactComplement .cosine none (some 1)) 1
        ∧ ¬ Passes "COSINE" (rangeIn (M := Id) exactComplement .cosine none (some 1)) 0
        ∧ ∃ call p b, searchCall e.config boundedSearch = .ok (call, p)
            ∧ call.metric = "COSINE"
            ∧ AsksFor .cosine (.list [.null, .int 1]) call.params
            ∧ found.traffic.calls = [call]
            ∧ found.reply.outcome = .ok b
            ∧ Reports lists hit .one
            -- nothing is left of the similarity to one
            ∧ b.columns.getLast? = some ⟨⟨"_distance", .float32, true⟩, [.real .zero]⟩ := by
  intro e hit lists found
  obtain ⟨hexact, _, _, _, _, hexecute⟩ := range_agrees
  obtain ⟨hcall, hcalls, hbatch⟩ :=
    hexecute e (MilvusExecutor.titles (.hits lists)) boundedSearch rfl
  have houtcome : ∃ b, found.reply.outcome = .ok b := ⟨_, rfl⟩
  obtain ⟨b, hb⟩ := houtcome
  obtain ⟨call, _, _, hasked, _⟩ := hbatch b hb
  obtain ⟨p, hp⟩ := hcalls call (hasked ▸ List.mem_cons_self)
  obtain ⟨hmetric, hasks⟩ := hcall call p hp
  refine ⟨rfl, (hexact .cosine none (some 1) _).2 ⟨nofun, ?one⟩,
    fun hzero => ?zero, call, p, b, hp, hmetric, hasks, hasked, hb, ?reports, ?cells⟩
  case one =>
    rintro _ ⟨⟩
    rw [distanceIn_of_similarity rfl, sub_self]
    exact zero_lt_one
  case zero =>
    have hlt := ((hexact .cosine none (some 1) 0).1 hzero).2 1 rfl
    rw [distanceIn_of_similarity rfl, sub_zero] at hlt
    exact lt_irrefl 1 hlt
  case reports =>
    exact ⟨⟨_, rfl, _, List.mem_cons_self, _, rfl, List.mem_cons_self⟩, rfl⟩
  case cells =>
    cases hb
    rfl

end Milvus

end RankFusion
