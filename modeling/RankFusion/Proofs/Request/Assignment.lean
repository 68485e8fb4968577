import RankFusion.Proofs.Request.Entries

/-!
This module contains what assignments keep of a request that was accepted. The rules for single
fields always hold. The rule for the vectors holds as long as the vector keeps its dimension, and
the rule for the weights as long as no failed assignment leaves its value behind.
-/

namespace RankFusion.QueryRequest

def weightFailure (r : QueryRequest) : Failure :=
  .invalid [⟨[], .rule (.weightSum (Format.double.add r.mrrWeightVector r.mrrWeightFts))⟩]

def assignAll (r : QueryRequest) (steps : List (String × Value)) : QueryRequest :=
  steps.foldl (fun r step => (r.assign step.1 step.2).1) r

def FailsSafely (r : QueryRequest) (name : String) (v : Value) : Prop :=
  ∀ f, (r.assign name v).2 = some f → (r.assign name v).1 = r

variable {r : QueryRequest} {name : String} {v : Value}

theorem failureOf_checkWeights
    : r.WeightsAgree ∧ failureOf (checkWeights r).issues = none
        ∨ ¬ r.WeightsAgree ∧ failureOf (checkWeights r).issues = some r.weightFailure := by
  by_cases hweights : r.WeightsAgree
  . left
    rw [checkWeights_eq_valid_iff.2 ⟨hweights, rfl⟩]
    exact ⟨hweights, rfl⟩
  . right
    refine ⟨hweights, ?_⟩
    unfold WeightsAgree at hweights
    rw [Classical.not_imp, Bool.not_eq_true] at hweights
    unfold checkWeights
    dsimp only
    rw [if_pos hweights]
    rfl

theorem assign_cases (r : QueryRequest) (name : String) (v : Value)
    : (r.assign name v).1 = r
        ∨ ∃ f y, f ∈ fields ∧ f.name = name ∧ f.fill r v = .valid y
          ∧ r.assign name v = (y, failureOf (checkWeights y).issues) := by
  unfold assign
  split
  . exact .inl rfl
  . exact .inl rfl
  . split
    . exact .inl rfl
    . next y hassign =>
      right
      obtain ⟨f, hfind, hfill⟩ := Form.assign_eq_valid_iff.1 hassign
      have hname : f.name = name := by simpa using List.find?_some hfind
      exact ⟨f, y, List.mem_of_find?_eq_some hfind, hname, hfill, rfl⟩

theorem inBounds_assign (h : r.InBounds) (name : String) (v : Value)
    : (r.assign name v).1.InBounds := by
  obtain hsame | ⟨f, y, hf, _, hfill, hassign⟩ := assign_cases r name v
  . rwa [hsame]
  . rw [hassign]
    exact keeps_inBounds f hf r v y h hfill

theorem dimensions_assign {n : Nat} (hn : n ≠ 0)
    (hvector : ∀ vs, name = "vector" → v = .list vs → vs.length = n)
    (h : r.vector.length = n ∧ r.DimensionsAgree)
    : (r.assign name v).1.vector.length = n ∧ (r.assign name v).1.DimensionsAgree := by
  obtain hsame | ⟨f, y, hf, hname, hfill, hassign⟩ := assign_cases r name v
  . rwa [hsame]
  . rw [hassign]
    exact dimensions_of_fill hn f hf r v y (fun hf vs => hvector vs (hname ▸ hf)) h hfill

theorem weightsAgree_assign (h : r.WeightsAgree) (hsafe : r.FailsSafely name v)
    : (r.assign name v).1.WeightsAgree := by
  obtain hsame | ⟨f, y, _, _, _, hassign⟩ := assign_cases r name v
  . rwa [hsame]
  . obtain ⟨hweights, _⟩ | ⟨_, hfailure⟩ := @failureOf_checkWeights y
    . rwa [hassign]
    . rw [hfailure] at hassign
      rw [hsafe _ (congrArg Prod.snd hassign)]
      exact h

theorem failed_assign {f : Failure} (h : (r.assign name v).2 = some f)
    : (r.assign name v).1 = r
        ∨ f = (r.assign name v).1.weightFailure ∧ ¬ (r.assign name v).1.WeightsAgree := by
  obtain hsame | ⟨_, y, _, _, _, hassign⟩ := assign_cases r name v
  . exact .inl hsame
  . right
    rw [hassign] at h ⊢
    dsimp only at h ⊢
    obtain ⟨_, hfailure⟩ | ⟨hweights, hfailure⟩ := @failureOf_checkWeights y
    . rw [hfailure] at h
      cases h
    . rw [hfailure, Option.some.injEq] at h
      exact ⟨h.symm, hweights⟩

theorem inBounds_assignAll (h : r.InBounds) (steps : List (String × Value))
    : (r.assignAll steps).InBounds := by
  induction steps generalizing r with
  | nil => exact h
  | cons step steps ih => exact ih (inBounds_assign h step.1 step.2)

theorem dimensions_assignAll {n : Nat} (hn : n ≠ 0) {steps : List (String × Value)}
    (hvectors : ∀ vs, ("vector", .list vs) ∈ steps → vs.length = n)
    (h : r.vector.length = n ∧ r.DimensionsAgree)
    : (r.assignAll steps).vector.length = n ∧ (r.assignAll steps).DimensionsAgree := by
  induction steps generalizing r with
  | nil => exact h
  | cons step steps ih =>
    apply ih
    . intro vs hvs
      exact hvectors vs (List.mem_cons_of_mem _ hvs)
    . apply dimensions_assign hn _ h
      rintro vs hname hvalue
      apply hvectors vs
      rw [← hname, ← hvalue]
      exact List.mem_cons_self

theorem weightsAgree_assignAll {steps : List (String × Value)} (h : r.WeightsAgree)
    (hsafe : ∀ before step after, steps = before ++ step :: after →
      (r.assignAll before).FailsSafely step.1 step.2)
    : (r.assignAll steps).WeightsAgree := by
  induction steps generalizing r with
  | nil => exact h
  | cons step steps ih =>
    apply ih
    . exact weightsAgree_assign h (hsafe [] step steps rfl)
    . rintro before next after rfl
      exact hsafe (step :: before) next after rfl

/--
What holds of a request that was accepted and then assigned to, whether the assignments failed or
not. It is accepted afresh exactly if it obeys the two rules that relate fields, and then as it is.
The first of them holds if the vector was only replaced by ones of its dimension. The second one
holds if every assignment that failed left the request as it was, which is true of all that fail for
another reason than this rule.
-/
theorem accepted_assignAll {es : List (String × Value)} {r₀ : QueryRequest}
    {steps : List (String × Value)} (h : read es = .valid r₀) (hr : r₀.assignAll steps = r)
    : (∀ y, read r.entries = .valid y ↔ r.DimensionsAgree ∧ r.WeightsAgree ∧ y = r)
        ∧ ((∀ vs, ("vector", .list vs) ∈ steps → vs.length = r₀.vector.length) →
          r.DimensionsAgree)
        ∧ ((∀ before step after, steps = before ++ step :: after →
            (r₀.assignAll before).FailsSafely step.1 step.2) →
          r.WeightsAgree)
        ∧ ∀ name v f, (r.assign name v).2 = some f →
          (r.assign name v).1 = r
            ∨ f = (r.assign name v).1.weightFailure ∧ ¬ (r.assign name v).1.WeightsAgree := by
  obtain ⟨hbounds, hdimensions, hweights⟩ := rules_of_read h
  subst hr
  refine ⟨?accepted, ?dimensions, ?weights, ?failed⟩
  case accepted =>
    intro y
    exact read_entries_iff (inBounds_assignAll hbounds steps)
  case dimensions =>
    intro hvectors
    have hn : r₀.vector.length ≠ 0 := by simpa using hbounds.vector
    exact (dimensions_assignAll hn hvectors ⟨rfl, hdimensions⟩).2
  case weights =>
    intro hsafe
    exact weightsAgree_assignAll hweights hsafe
  case failed =>
    intro name v f hfailed
    exact failed_assign hfailed

def pairedSample : QueryRequest where
  query := "q"
  vector := [.one, .one]
  additionalVectors := [[.one, .one]]

theorem read_pairedSample : read pairedSample.entries = .valid pairedSample := by
  have hbounds : InBounds pairedSample := { @inBounds_init "q" [.one, .one] nofun with }
  refine (read_entries_iff hbounds).2 ⟨?_, nofun, rfl⟩
  intro v hv
  rw [List.mem_singleton.1 hv]
  rfl

theorem accepted_assignAll_sample
    : read pairedSample.entries = .valid pairedSample
        ∧ read (pairedSample.assignAll [("vector", .list [.real .zero, .real .zero])]).entries
          = .valid (pairedSample.assignAll [("vector", .list [.real .zero, .real .zero])]) := by
  obtain ⟨haccepted, hdimensions, hweights, _⟩ := accepted_assignAll read_pairedSample
    (@rfl _ (pairedSample.assignAll [("vector", .list [.real .zero, .real .zero])]))
  refine ⟨read_pairedSample, (haccepted _).2 ⟨hdimensions ?_, hweights ?_, rfl⟩⟩
  . intro vs hvs
    rw [List.mem_singleton, Prod.mk.injEq, Value.list.injEq] at hvs
    rw [hvs.2]
    rfl
  . intro before step after hsteps
    obtain ⟨rfl, hstep⟩ | ⟨_, rfl, hnil⟩ := List.cons_eq_append_iff.1 hsteps
    . cases hstep
      nofun
    . exact absurd hnil.symm (List.append_ne_nil_of_right_ne_nil _ (List.cons_ne_nil _ _))

def rankedSample : QueryRequest where
  query := "q"
  vector := [.one]
  rerankMethod := .mrr

theorem read_rankedSample : read rankedSample.entries = .valid rankedSample := by
  have hbounds : InBounds rankedSample := { @inBounds_init "q" [.one] nofun with }
  refine (read_entries_iff hbounds).2 ⟨nofun, ?_, rfl⟩
  intro _
  rfl

/--
An assignment of a shorter vector returns, and one of a larger weight fails but leaves the weight
behind. Neither request is accepted afresh.
-/
theorem not_accepted_of_assign
    : (read pairedSample.entries = .valid pairedSample
          ∧ (pairedSample.assign "vector" (.list [.real .one])).2 = none
          ∧ ∀ y, read (pairedSample.assign "vector" (.list [.real .one])).1.entries ≠ .valid y)
        ∧ read rankedSample.entries = .valid rankedSample
        ∧ (∃ f, (rankedSample.assign "mrr_weight_vector" (.real .one)).2 = some f)
        ∧ (rankedSample.assign "mrr_weight_vector" (.real .one)).1 ≠ rankedSample
        ∧ ∀ y,
          read (rankedSample.assign "mrr_weight_vector" (.real .one)).1.entries ≠ .valid y := by
  refine ⟨⟨read_pairedSample, rfl, ?_⟩, read_rankedSample, ⟨_, rfl⟩, ?_, ?_⟩
  . intro y hread
    have hbounds : InBounds (pairedSample.assign "vector" (.list [.real .one])).1 :=
      { @inBounds_init "q" [.one] nofun with }
    obtain ⟨hdimensions, _, _⟩ := (read_entries_iff hbounds).1 hread
    cases hdimensions [.one, .one] List.mem_cons_self
  . intro hsame
    have hweight : Binary.one = Reranker.defaultRankWeight := congrArg mrrWeightVector hsame
    revert hweight
    decide
  . intro y hread
    have hbounds : InBounds (rankedSample.assign "mrr_weight_vector" (.real .one)).1 :=
      { @inBounds_init "q" [.one] nofun with mrrWeightVector := ⟨rfl, rfl⟩ }
    obtain ⟨_, hweights, _⟩ := (read_entries_iff hbounds).1 hread
    cases hweights rfl

end RankFusion.QueryRequest
