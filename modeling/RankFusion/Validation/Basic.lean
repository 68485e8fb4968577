import RankFusion.Error.Issue

/-!
This module contains checked values: a value, or all issues that were found with the data for it.
-/

namespace RankFusion

inductive Checked (α : Type) where
  | valid (x : α)
  | invalid (issues : List Issue)

namespace Checked

variable {α β γ : Type}

def issues : Checked α → List Issue
  | valid _ => []
  | invalid is => is

def fail (kind : IssueKind) : Checked α := invalid [⟨[], kind⟩]

def map (f : α → β) : Checked α → Checked β
  | valid x => valid (f x)
  | invalid is => invalid is

/--
Checks the value further. Nothing more is checked if there are issues already.
-/
def bind (x : Checked α) (f : α → Checked β) : Checked β :=
  match x with
  | valid x => f x
  | invalid is => invalid is

def under (part : PathPart) : Checked α → Checked α
  | valid x => valid x
  | invalid is => invalid (is.map (·.under part))

/--
Two values that are checked apart from each other. The issues of both are reported.
-/
def both (f : α → β → γ) : Checked α → Checked β → Checked γ
  | valid x, valid y => valid (f x y)
  | x, y => invalid (x.issues ++ y.issues)

def require (holds : Bool) (kind : IssueKind) (x : α) : Checked α :=
  if holds then valid x else fail kind

def toExcept : Checked α → Except (List Issue) α
  | valid x => .ok x
  | invalid is => .error is

end Checked

end RankFusion
