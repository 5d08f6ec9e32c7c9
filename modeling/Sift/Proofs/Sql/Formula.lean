import Mathlib.Data.List.Basic

/-!
# Formulas

Conditions that are put together with `AND` and `OR`. A list of formulas that are joined by one
operator is a chain, taken from the left as SQL reads it; what a formula is mapped to, which atoms
it has and whether it holds is found member by member.

Main statements: `map_chain`, `atoms_chain`, `eval_chain_and` and `eval_chain_or`.
-/

namespace Sift

inductive Formula (α : Type) where
  | atom (a : α)
  | and (f g : Formula α)
  | or (f g : Formula α)
  deriving DecidableEq

namespace Formula

variable {α β : Type}

def map (k : α → β) : Formula α → Formula β
  | .atom a => .atom (k a)
  | .and f g => .and (f.map k) (g.map k)
  | .or f g => .or (f.map k) (g.map k)

def eval (holds : α → Bool) : Formula α → Bool
  | .atom a => holds a
  | .and f g => f.eval holds && g.eval holds
  | .or f g => f.eval holds || g.eval holds

def atoms : Formula α → List α
  | .atom a => [a]
  | .and f g => f.atoms ++ g.atoms
  | .or f g => f.atoms ++ g.atoms

/-- Formulas joined by one operator, from the left. -/
def chain (op : Formula α → Formula α → Formula α) : Formula α → List (Formula α) → Formula α :=
  List.foldl op

def chain? (op : Formula α → Formula α → Formula α) : List (Formula α) → Option (Formula α)
  | [] => none
  | f :: fs => some (chain op f fs)

theorem map_chain {op : Formula α → Formula α → Formula α} {op' : Formula β → Formula β → Formula β}
    {k : α → β} (hop : ∀ f g, (op f g).map k = op' (f.map k) (g.map k)) (f : Formula α)
    (fs : List (Formula α)) : (chain op f fs).map k = chain op' (f.map k) (fs.map (·.map k)) := by
  induction fs generalizing f with
  | nil => rfl
  | cons g fs ih =>
    rw [List.map_cons, chain, chain, List.foldl_cons, List.foldl_cons, ← hop]
    exact ih (op f g)

theorem atoms_chain {op : Formula α → Formula α → Formula α}
    (hop : ∀ f g, (op f g).atoms = f.atoms ++ g.atoms) (f : Formula α) (fs : List (Formula α)) :
    (chain op f fs).atoms = f.atoms ++ fs.flatMap atoms := by
  induction fs generalizing f with
  | nil => simp [chain]
  | cons g fs ih =>
    rw [List.flatMap_cons, ← List.append_assoc, ← hop]
    exact ih (op f g)

/-- A chain of conjunctions holds if all of its parts do. -/
theorem eval_chain_and (holds : α → Bool) (f : Formula α) (fs : List (Formula α)) :
    (chain .and f fs).eval holds = (f.eval holds && fs.all (·.eval holds)) := by
  induction fs generalizing f with
  | nil => simp [chain]
  | cons g fs ih =>
    rw [List.all_cons, ← Bool.and_assoc]
    exact ih (.and f g)

/-- A chain of disjunctions holds if one of its parts does. -/
theorem eval_chain_or (holds : α → Bool) (f : Formula α) (fs : List (Formula α)) :
    (chain .or f fs).eval holds = (f.eval holds || fs.any (·.eval holds)) := by
  induction fs generalizing f with
  | nil => simp [chain]
  | cons g fs ih =>
    rw [List.any_cons, ← Bool.or_assoc]
    exact ih (.or f g)

end Formula

end Sift
