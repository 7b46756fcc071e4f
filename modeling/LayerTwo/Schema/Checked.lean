import LayerTwo.Schema.Issue

/-! Checks that go on after a fault: two checks side by side report the issues of both, the left
ones first. -/
namespace LayerTwo.Schema

/-- A value, or the issues that prevent it. -/
inductive Checked (α : Type) where
  | ok (value : α)
  | faulty (issues : List Issue)

namespace Checked

variable {α β : Type}

/-- A single fault, at the value itself. -/
def fault (fault : Fault) : Checked α := .faulty [⟨[], fault⟩]

def map (f : α → β) : Checked α → Checked β
  | .ok a => .ok (f a)
  | .faulty issues => .faulty issues

/-- Both checks, whichever of them finds issues. -/
def apply (f : Checked (α → β)) (a : Checked α) : Checked β :=
  match f, a with
  | .ok f, .ok a => .ok (f a)
  | .ok _, .faulty issues => .faulty issues
  | .faulty issues, .ok _ => .faulty issues
  | .faulty first, .faulty second => .faulty (first ++ second)

instance : Applicative Checked where
  pure := .ok
  seq f a := apply f (a ())

/-- A check of what an earlier one let through. -/
def andThen (a : Checked α) (next : α → Checked β) : Checked β :=
  match a with
  | .ok a => next a
  | .faulty issues => .faulty issues

/-- The same check one step deeper. -/
def under (step : Step) : Checked α → Checked α
  | .ok a => .ok a
  | .faulty issues => .faulty (issues.map fun issue => { issue with path := step :: issue.path })

/-- All items, each checked under its index. -/
def items (check : Value → Checked α) (start : Nat) : List Value → Checked (List α)
  | [] => .ok []
  | item :: rest =>
    (List.cons <$> (check item).under (.index start)) <*> items check (start + 1) rest

end Checked

end LayerTwo.Schema
