/-!
# Tether.Store.Budget — overrides of a budget

A budget can be overridden any number of times at once.  The youngest override that was not released is in force,
or the default where there is none.  Overrides may be released in any order; releasing one again has no effect.
-/

namespace Tether

/-- A token for an override. -/
abbrev OverrideToken := Nat

/-- A budget with its overrides. -/
structure BudgetPlan where
  /-- The budget without overrides. -/
  default : Nat
  /-- The last token given out. -/
  lastToken : OverrideToken := 0
  /-- The overrides in force, oldest first. -/
  overrides : List (OverrideToken × Nat) := []

namespace BudgetPlan

/-- The budget in force. -/
def current (p : BudgetPlan) : Nat :=
  (p.overrides.getLast?.map Prod.snd).getD p.default

/-- Overrides the budget. -/
def override (p : BudgetPlan) (bytes : Nat) : OverrideToken × BudgetPlan :=
  (p.lastToken + 1,
    { p with lastToken := p.lastToken + 1, overrides := p.overrides ++ [(p.lastToken + 1, bytes)] })

/-- Whether an override is in force. -/
def isLive (p : BudgetPlan) (token : OverrideToken) : Bool :=
  p.overrides.any fun o => o.1 = token

/-- Releases an override. -/
def release (p : BudgetPlan) (token : OverrideToken) : BudgetPlan :=
  { p with overrides := p.overrides.filter fun o => o.1 ≠ token }

end BudgetPlan

end Tether
