import RankFusion.Log
import RankFusion.Search.Request

/-!
This module contains the replies of an engine to the two sub-searches of a query, and how the
replies meet when the sub-searches run at the same time or one after the other. Time is counted in
ticks.
-/

namespace RankFusion

/--
The reply to a sub-search: what it comes to, and how many ticks that takes.
-/
structure Reply where
  outcome : Except Failure Batch
  delay : Nat
  /-- What the engine logs when it takes up the sub-search. -/
  startLog : List LogEntry := []
  /-- What the engine logs when the sub-search ends by itself. -/
  endLog : List LogEntry := []

abbrev Executor (σ : Type) := SubSearch → σ → Reply × σ

inductive Progress where
  | completed
  | failed
  | cancelled
  deriving DecidableEq, Repr

def Progress.name : Progress → String
  | completed => "completed"
  | failed => "failed"
  | cancelled => "cancelled"

/--
Why a run returns no batch: a part of it failed, or the caller gave up.
-/
inductive Interruption where
  | failed (fault : Failure)
  | cancelled

namespace Reply

def progress (r : Reply) : Progress :=
  match r.outcome with
  | .ok _ => .completed
  | .error _ => .failed

def endsBefore (limit : Option Nat) (start : Nat) (r : Reply) : Bool :=
  match limit with
  | some t => start + r.delay < t
  | none => true

def failure? (r : Reply) : Option Failure :=
  match r.outcome with
  | .ok _ => none
  | .error f => some f

end Reply

structure Joint where
  outcome : Except Interruption (Batch × Batch)
  /-- The ends of the sub-searches in the order of their occurrence. -/
  events : List (Side × Progress)
  log : List LogEntry

namespace Joint

def both (vector fts : Reply) : Except Interruption (Batch × Batch) :=
  match vector.outcome, fts.outcome with
  | .error f, _ => .error (.failed f)
  | .ok _, .error f => .error (.failed f)
  | .ok v, .ok t => .ok (v, t)

/--
Two replies in the order in which they come. The vector side is first if they come together.
-/
def inOrder (vector fts : Reply) : List (Side × Reply) :=
  if fts.delay < vector.delay then [(.fts, fts), (.vector, vector)]
  else [(.vector, vector), (.fts, fts)]

def firstFailure? (replies : List (Side × Reply)) : Option (Nat × Failure) :=
  replies.findSome? fun r => r.2.failure?.map fun f => (r.2.delay, f)

/--
The two sub-searches at the same time. The first failure cancels what has not ended by its tick, and
so does the caller who gives up.
-/
def together (limit : Option Nat) (vector fts : Reply) : Joint :=
  let replies := inOrder vector fts
  let stop := firstFailure? (replies.filter fun r => r.2.endsBefore limit 0)
  let ended (r : Reply) : Bool :=
    match stop with
    | some (t, _) => r.delay ≤ t
    | none => r.endsBefore limit 0
  { outcome :=
      match stop with
      | some (_, f) => .error (.failed f)
      | none => if ended vector && ended fts then both vector fts else .error .cancelled
    events := replies.map fun r => (r.1, if ended r.2 then r.2.progress else .cancelled)
    log := vector.startLog ++ fts.startLog ++
      (replies.filter fun r => ended r.2).flatMap fun r => r.2.endLog }

def alone (limit : Option Nat) (start : Nat) (side : Side) (r : Reply) :
    Except Interruption Batch × List (Side × Progress) × List LogEntry :=
  if r.endsBefore limit start then
    (r.outcome.mapError .failed, [(side, r.progress)], r.startLog ++ r.endLog)
  else (.error .cancelled, [(side, .cancelled)], r.startLog)

end Joint

/--
What the two sub-searches come to, with the requests that were issued and the state of the engine
afterwards.
-/
structure SubSearches (σ : Type) where
  joint : Joint
  requests : List SubSearch
  state : σ

namespace SubSearches

def together {σ : Type} (ex : Executor σ) (limit : Option Nat) (vector fts : SubSearch) (s : σ) :
    SubSearches σ :=
  let (v, s) := ex vector s
  let (f, s) := ex fts s
  ⟨Joint.together limit v f, [vector, fts], s⟩

/--
Runs the text side, and then the vector side. If the text side fails, the vector side is not run.
-/
def inTurn {σ : Type} (ex : Executor σ) (limit : Option Nat) (vector fts : SubSearch) (s : σ) :
    SubSearches σ :=
  let (f, s) := ex fts s
  let (texts, events, log) := Joint.alone limit 0 .fts f
  match texts with
  | .error e => ⟨⟨.error e, events, log⟩, [fts], s⟩
  | .ok t =>
    let (v, s) := ex vector s
    let (vectors, moreEvents, moreLog) := Joint.alone limit f.delay .vector v
    ⟨⟨vectors.map fun b => (b, t), events ++ moreEvents, log ++ moreLog⟩, [fts, vector], s⟩

def run {σ : Type} (concurrent : Bool) (ex : Executor σ) (limit : Option Nat)
    (vector fts : SubSearch) (s : σ) : SubSearches σ :=
  if concurrent then together ex limit vector fts s else inTurn ex limit vector fts s

end SubSearches

end RankFusion
