import Mathlib.Data.List.Basic

/-!
# Loops with a bound on their rounds

A round of a loop either fails or leads to another state, and a test decides
whether there is a further round.  The functions here give up after a number of
rounds, so that they are defined for every loop; that a loop terminates is the
statement that some number of rounds is enough.
-/

namespace IISModuleJS

namespace FueledLoop

variable {State Failure : Type*}

/-- `do round while (goesOn)`. -/
def doWhile (round : State → Except Failure State) (goesOn : State → Bool) :
    Nat → State → Option (Except Failure State)
  | 0, _ => none
  | fuel + 1, state =>
      match round state with
      | .error failure => some (.error failure)
      | .ok next =>
          if goesOn next then doWhile round goesOn fuel next
          else some (.ok next)

/-- `while (goesOn) round`. -/
def whileDo (goesOn : State → Bool) (round : State → Except Failure State)
    (fuel : Nat) (state : State) : Option (Except Failure State) :=
  if goesOn state then doWhile round goesOn fuel state
  else some (.ok state)

/-- What a round does in a state of the invariant, as far as the loop is
concerned: it fails, it is the last one, or it leads closer to the end. -/
inductive Round (round : State → Except Failure State) (goesOn : State → Bool)
    (invariant : State → Prop) (measure : State → Nat)
    (result : Except Failure State → Prop) (state : State) : Prop
  | fails (failure : Failure) (failed : round state = .error failure)
      (holds : result (.error failure))
  | leaves (next : State) (done : round state = .ok next)
      (last : goesOn next = false) (holds : result (.ok next))
  | continues (next : State) (done : round state = .ok next)
      (more : goesOn next = true) (kept : invariant next)
      (closer : measure next < measure state)

variable {round : State → Except Failure State} {goesOn : State → Bool}
  {invariant : State → Prop} {measure : State → Nat}
  {result : Except Failure State → Prop}

/-- The rule for total correctness: with an invariant and a measure that every
further round lowers, the loop ends with a result. -/
theorem doWhile_total
    (rounds : ∀ state, invariant state →
      Round round goesOn invariant measure result state)
    {fuel : Nat} {state : State} (starts : invariant state)
    (enough : measure state < fuel) :
    ∃ final, doWhile round goesOn fuel state = some final ∧ result final := by
  induction fuel generalizing state with
  | zero => omega
  | succ fuel ih =>
      rw [doWhile]
      cases rounds state starts with
      | fails failure failed holds =>
          rw [failed]
          exact ⟨_, rfl, holds⟩
      | leaves next done last holds =>
          rw [done]
          simp only [last, Bool.false_eq_true, if_false]
          exact ⟨_, rfl, holds⟩
      | continues next done more kept closer =>
          rw [done]
          simp only [more, if_true]
          exact ih kept (by omega)

/-- More rounds than are needed change nothing. -/
theorem doWhile_mono {fuel more : Nat} {state : State}
    {final : Except Failure State}
    (ends : doWhile round goesOn fuel state = some final)
    (enough : fuel ≤ more) :
    doWhile round goesOn more state = some final := by
  induction fuel generalizing state more with
  | zero => cases ends
  | succ fuel ih =>
      obtain ⟨rest, rfl⟩ := Nat.exists_eq_add_of_le' enough
      rw [← Nat.add_assoc, doWhile]
      rw [doWhile] at ends
      cases done : round state with
      | error failure =>
          rw [done] at ends
          exact ends
      | ok next =>
          rw [done] at ends
          dsimp only at ends ⊢
          split at ends
          next goes =>
            rw [if_pos goes]
            exact ih ends (Nat.le_add_left fuel rest)
          next stops =>
            rw [if_neg stops]
            exact ends

/-- A loop whose rounds all go on does not end. -/
theorem doWhile_eq_none
    (rounds : ∀ state, invariant state →
      ∃ next, round state = .ok next ∧ goesOn next = true ∧ invariant next)
    {state : State} (starts : invariant state) (fuel : Nat) :
    doWhile round goesOn fuel state = none := by
  induction fuel generalizing state with
  | zero => rfl
  | succ fuel ih =>
      obtain ⟨next, done, more, kept⟩ := rounds state starts
      rw [doWhile, done]
      simp only [more, if_true]
      exact ih kept

theorem whileDo_total
    (rounds : ∀ state, invariant state →
      Round round goesOn invariant measure result state)
    {fuel : Nat} {state : State}
    (starts : goesOn state = true → invariant state)
    (skips : goesOn state = false → result (.ok state))
    (enough : measure state < fuel) :
    ∃ final, whileDo goesOn round fuel state = some final ∧ result final := by
  unfold whileDo
  cases more : goesOn state with
  | true =>
      rw [if_pos rfl]
      exact doWhile_total rounds (starts more) enough
  | false =>
      rw [if_neg Bool.false_ne_true]
      exact ⟨_, rfl, skips more⟩

end FueledLoop

end IISModuleJS
