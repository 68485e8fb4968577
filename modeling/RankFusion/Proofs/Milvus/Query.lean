import RankFusion.Proofs.Milvus.Call
import RankFusion.Proofs.Milvus.Fusion
import RankFusion.Proofs.Query.Window

/-!
This module contains the queries on a collection. Whatever hits both searches return, a query
returns every row once, and shows it as its best hit does. A query with a bound on distances that
cannot be computed with never gets to a search.
-/

namespace RankFusion

namespace Milvus

open Hit (answer projection)

variable {q : HybridQuery} {c : CollectionConfig} {client : Client} {types : FieldTypes}
  {fields : List Projected} {timeout : Value} {lists : Side → List (List Hit)}

/--
What a collection answers to the search calls of a query: hits with data of the types of the fields.
The text side returns no row twice.
-/
structure Answers (client : Client) (c : CollectionConfig) (q : HybridQuery) (timeout : Value)
    (fields : List Projected) (lists : Side → List (List Hit)) : Prop where
  hits : ∀ side call p, searchCall c (q.request side timeout) = .ok (call, p) →
    client.search call = .hits (answer (lists side))
  typed : ∀ side, Hit.Typed fields (lists side).flatten
  distinct : ((lists .fts).flatten.map (·.id)).Nodup

namespace MilvusExecutor

theorem asExecutor_returned (h : Hit.Projectable fields) (hsearches : Searches c q timeout fields)
    (htypes : ∀ f ∈ fields, types.lookup? f.1 = some f.2)
    (hanswers : Answers client c q timeout fields lists) (side : Side) {hits : List Hit}
    {value : Hit → Binary} (htyped : Hit.Typed fields hits)
    (hrank : rank c (q.request side timeout) (answer (lists side)) =
      .ok (hits.map fun h => ⟨h.value, value h⟩))
    (state : MilvusExecutor × List SearchCall) (hready : state.1.Ready client c types)
    : (asExecutor client (q.request side timeout) state).1.outcome =
          .ok (Hit.batch fields side value hits)
        ∧ (asExecutor client (q.request side timeout) state).2.1.Ready client c types := by
  obtain ⟨call, hcall⟩ := exists_searchCall hsearches side
  obtain ⟨houtcome, hafter⟩ := hready.execute hcall (hsearches.deadline side)
    (hanswers.hits side call _ hcall)
  have hside : (q.request side timeout).side = side := by
    cases side with
    | vector => rfl
    | fts => rfl
  have hrowId : (q.request side timeout).withRowId.isTruthy = true := by
    cases side with
    | vector => rfl
    | fts => rfl
  refine ⟨?_, hafter⟩
  have hbatch := Hit.toBatch_eq h.ne_nil htyped htypes hrowId hrank
  rw [hside] at hbatch
  exact houtcome.trans hbatch

theorem exists_joint {e : MilvusExecutor} (calls : List SearchCall) (concurrent : Bool)
    (h : Hit.Projectable fields) (hsearches : Searches c q timeout fields)
    (hready : e.Ready client c types) (htypes : ∀ f ∈ fields, types.lookup? f.1 = some f.2)
    (hanswers : Answers client c q timeout fields lists)
    : let m := metricOf c (q.request .vector timeout)
      ∃ found : List Hit, Hit.Keeps m (lists .vector).flatten found
        ∧ (SubSearches.run concurrent (asExecutor client) none (q.request .vector timeout)
              (q.request .fts timeout) (e, calls)).joint.outcome =
            .ok (Hit.batch fields .vector (Hit.away m) found,
              Hit.batch fields .fts Hit.distance (lists .fts).flatten) := by
  intro m
  obtain ⟨found, hfound, hbest⟩ := Hit.bestHits_answer m (lists .vector)
  have htyped : Hit.Typed fields found :=
    fun g hg => hanswers.typed .vector g (hfound.isBest g hg).mem
  refine ⟨found, hfound, SubSearches.run_returned (fun state => state.1.Ready client c types)
    concurrent ?_ ?_ hready⟩
  . exact asExecutor_returned h hsearches htypes hanswers .vector htyped hbest
  . exact asExecutor_returned h hsearches htypes hanswers .fts (hanswers.typed .fts)
      (Hit.scoredHits_answer (lists .fts))

/-- A query always returns, and its rows are those of hits that stand for all. -/
theorem execute_represents {r : Reranker} {e : MilvusExecutor} {τ : Type} (observer : Observer τ)
    (timeout : Value) (calls : List SearchCall) (t : τ)
    (hvalid : q.config.validate = .ok ()) (hlimit : q.config.limit = .null)
    (hoffset : q.config.offset = .null) (hstrategy : q.reranker = .strategy r)
    (hr : r.Convertible) (h : Hit.Projectable fields)
    (hsearches : Searches c q (q.effectiveTimeout timeout) fields)
    (hready : e.Ready client c types) (htypes : ∀ f ∈ fields, types.lookup? f.1 = some f.2)
    (hanswers : Answers client c q (q.effectiveTimeout timeout) fields lists)
    : ∃ (b : Batch) (shown : List Hit),
        (q.execute (asExecutor client) observer timeout none (e, calls) t).1.outcome = .ok b
          ∧ Hit.Represents (metricOf c (q.request .vector (q.effectiveTimeout timeout)))
              (lists .vector).flatten (lists .fts).flatten shown
          ∧ (q.withRowId.isTruthy = true → b.rowIds = .ok (shown.map fun h => some h.rowId))
          ∧ ∀ f ∈ fields, b.cells f.1 = .ok ⟨f.2, shown.map (Hit.cell f)⟩ := by
  obtain ⟨found, hfound, hjoint⟩ :=
    exists_joint calls q.concurrent.isTruthy h hsearches hready htypes hanswers
  obtain ⟨fused, shown, hfused, hperm, hshows⟩ :=
    Hit.exists_rerank_shows hr h found (Hit.away _) Hit.distance hanswers.distinct
  have hrefusal : q.refusal? = none := by
    unfold HybridQuery.refusal?
    rw [hstrategy, hvalid]
    rfl
  have houtcome := HybridQuery.outcome_of_fused (asExecutor client) observer timeout none hrefusal
    hstrategy hjoint hfused t
  rw [HybridQuery.present_of_null hlimit hoffset] at houtcome
  refine ⟨_, shown, houtcome, Hit.represents_of_perm hfound hanswers.distinct hperm, ?_, ?_⟩
  . intro hkept
    rw [if_pos hkept]
    exact hshows.rowIds
  . intro f hf
    split
    . exact hshows.cells f hf
    . exact Batch.cells_dropColumn_of_ne (h.ne_reserved hf).1 (hshows.cells f hf)

theorem outcome_of_overflows {e : MilvusExecutor} {τ : Type} (observer : Observer τ)
    (timeout : Value) (calls : List SearchCall) (t : τ) (hrefusal : q.refusal? = none)
    (hmode : q.concurrent.isTruthy = true)
    (h : q.config.vector.Overflows
      (metricOf e.config (q.request .vector (q.effectiveTimeout timeout))))
    (hupper : ∀ lower upper : Value, q.config.vector.distanceRange = .list [lower, upper] →
      upper.IsBound)
    : (q.execute (asExecutor client) observer timeout none (e, calls) t).1.outcome =
        .error (.failed (.operand .tooLargeForReal)) := by
  have hcall := searchCall_of_overflows (s := q.request .vector (q.effectiveTimeout timeout))
    rfl rfl h hupper
  obtain ⟨⟨m, houtcome⟩, _⟩ :=
    HybridQuery.execute_of_not_refusal (asExecutor client) observer timeout none hrefusal
      (e, calls) t
  have hreply : (e.execute client (q.request .vector (q.effectiveTimeout timeout))).reply.outcome =
        .error (.operand .tooLargeForReal)
      ∧ (e.execute client (q.request .vector (q.effectiveTimeout timeout))).reply.delay = 0 := by
    unfold MilvusExecutor.execute
    rw [hcall]
    exact ⟨rfl, rfl⟩
  have hjoint : (SubSearches.run q.concurrent.isTruthy (asExecutor client) none
      (q.request .vector (q.effectiveTimeout timeout))
      (q.request .fts (q.effectiveTimeout timeout)) (e, calls)).joint.outcome =
        .error (.failed (.operand .tooLargeForReal)) := by
    rw [hmode]
    change (Joint.together none
      (e.execute client (q.request .vector (q.effectiveTimeout timeout))).reply _).outcome = _
    rw [Joint.outcome_together]
    unfold Joint.inOrder
    rw [if_neg (by omega), Joint.firstFailure?_pair, hreply.1]
  rw [houtcome, HybridQuery.outcome_afterSubSearches_eq, hjoint]

def titledHit (id : Int) (h : Value.isWord id = true) (distance : Binary) (title : String) :
    Hit where
  value := .dict [("id", .int id), ("distance", .real distance),
    ("entity", .dict [("title", .text title)])]
  id := id
  distance := distance
  entity := [("title", .text title)]
  id_eq := rfl
  distance_eq := rfl
  entity_eq := rfl
  isWord := h

theorem typed_titledHit {id : Int} {h : Value.isWord id = true} {distance : Binary}
    {title : String} {hits : List Hit} (hhits : Hit.Typed [("title", .string)] hits)
    : Hit.Typed [("title", .string)] (titledHit id h distance title :: hits) := by
  intro g hg f hf
  cases hg with
  | head =>
    obtain rfl := List.mem_singleton.1 hf
    exact .text title
  | tail _ hg => exact hhits g hg f hf

def titledLists : Side → List (List Hit)
  | .vector => [[titledHit (-1) rfl .zero "far"], [titledHit (-1) rfl .one "near"]]
  | .fts => [[titledHit 2 rfl .one "text"]]

def titledClient : Client where
  describe := .ok (.dict [("fields",
    .list [.dict [("name", .text "title"), ("type", .text "VARCHAR")]])])
  search call := .hits (answer (titledLists (if call.metric = "BM25" then .fts else .vector)))

def titledQuery (range : Value) : HybridQuery where
  query := "q"
  vector := [.one]
  reranker := .strategy (.rrf (.int 60))
  config := {
    select := .list [.text "title"]
    vector := { distanceRange := range, additionalVectors := .list [.list [.real .zero]] } }

theorem execute_represents_titled
    : let q := titledQuery .null
      let e : MilvusExecutor := { config := { collection := "titles" } }
      ∃ (b : Batch) (shown : List Hit),
        (q.execute (asExecutor titledClient) (Observer.silent : Observer Unit) .null none (e, [])
            ()).1.outcome = .ok b
          ∧ (shown.map (·.rowId)).Perm [0xffffffffffffffff, 2]
          ∧ b.rowIds = .ok (shown.map fun h => some h.rowId)
          ∧ b.cells "title" = .ok ⟨.string, shown.map (Hit.cell ("title", .string))⟩
          -- the row of both vector searches is shown by the greater similarity
          ∧ ∀ h ∈ shown, h.rowId = 0xffffffffffffffff →
              Hit.cell ("title", .string) h = .text "near" := by
  intro q e
  have hprojectable : Hit.Projectable [("title", .string)] :=
    ⟨List.cons_ne_nil _ _, by decide, by decide, by decide⟩
  have hsearches : Searches e.config q .null [("title", .string)] :=
    ⟨by decide, rfl, .inl rfl, .inl rfl, nofun, ⟨[[.real .zero]], rfl⟩,
      fun side => by cases side <;> rfl⟩
  have hready : e.Ready titledClient e.config [("title", .string)] := ⟨rfl, rfl, .inr ⟨rfl, rfl⟩⟩
  have hempty : Hit.Typed [("title", .string)] [] := fun _ hg => absurd hg List.not_mem_nil
  have hanswers : Answers titledClient e.config q .null [("title", .string)] titledLists := by
    refine ⟨?_, ?_, by decide⟩
    . intro side call p hcall
      cases side with
      | vector =>
        cases hcall
        rfl
      | fts =>
        cases hcall
        rfl
    . intro side
      cases side with
      | vector => exact typed_titledHit (typed_titledHit hempty)
      | fts => exact typed_titledHit hempty
  have hr : (Reranker.rrf (.int 60)).Convertible := by
    intro p hp
    obtain rfl := List.mem_singleton.1 hp
    exact ⟨_, rfl⟩
  obtain ⟨b, shown, houtcome, hrepresents, hrowIds, hcells⟩ :=
    execute_represents (Observer.silent : Observer Unit) .null [] () (q := q) (by rfl) rfl rfl rfl
      hr hprojectable hsearches hready (by decide) hanswers
  refine ⟨b, shown, houtcome, ?_, hrowIds rfl, hcells _ List.mem_cons_self, ?_⟩
  . rw [List.perm_ext_iff_of_nodup hrepresents.nodup (by decide)]
    intro n
    rw [hrepresents.mem_iff]
    simp [titledLists, titledHit, unsignedWord, eq_comm]
  . intro h hh hrow
    obtain ⟨before, after, heq, hbefore, hafter⟩ | ⟨htext, _⟩ := hrepresents.counts h hh
    . have hlists : (titledLists .vector).flatten =
          [titledHit (-1) rfl .zero "far", titledHit (-1) rfl .one "near"] := rfl
      rw [hlists] at heq
      cases before with
      | nil =>
        cases heq
        -- The hit that comes first is farther than the other one.
        cases hafter _ List.mem_cons_self rfl
      | cons g before =>
        cases before with
        | nil =>
          cases heq
          rfl
        | cons g' before => simp at heq
    . obtain rfl := List.mem_singleton.1 htext
      cases hrow

def wideInteger : Int := (10 ^ 100) ^ 4

/--
A query fails if it asks for distances below a bound beyond double precision, and so does one whose
deadline is over before it begins, whatever the searches return.
-/
theorem not_returned_titled
    : let bounded := titledQuery (.list [.null, .int wideInteger])
      let unbounded := titledQuery .null
      let e : MilvusExecutor := { config := { collection := "titles" } }
      let outcome (q : HybridQuery) (timeout : Value) :=
        (q.execute (asExecutor titledClient) (Observer.silent : Observer Unit) timeout none (e, [])
          ()).1.outcome
      bounded.config.validate = .ok ()
        ∧ outcome bounded .null = .error (.failed (.operand .tooLargeForReal))
        ∧ unbounded.config.validate = .ok ()
        ∧ outcome unbounded (.int (-1)) = .error (.failed (.timedOut "vector" (.int (-1)))) := by
  have hwide : Format.double.ofInt wideInteger = .infinity false := by decide +kernel
  generalize wideInteger = n at hwide
  intro bounded unbounded e outcome
  have hupper : ∀ lower upper : Value, bounded.config.vector.distanceRange = .list [lower, upper] →
      upper.IsBound := by
    rintro lower upper ⟨⟩
    exact .inr ⟨.int n, rfl⟩
  have hoverflows : bounded.config.vector.Overflows (metricOf e.config
      (bounded.request .vector (bounded.effectiveTimeout .null))) :=
    ⟨rfl, .null, .int n, rfl, .inr ⟨n, false, rfl, hwide⟩⟩
  exact ⟨rfl, outcome_of_overflows Observer.silent .null [] () rfl rfl hoverflows hupper, rfl, rfl⟩

end MilvusExecutor

end Milvus

end RankFusion
