import Contention.Proofs.Signals.Counting
import Mathlib.Algebra.Group.Action.Defs
import Mathlib.Algebra.Order.BigOperators.Group.List
import Mathlib.Algebra.Order.Ring.Nat

namespace Contention.Signals

namespace Call

theorem Stage.isInside_of_returned {stage : Stage} (returned : stage.hasReturned = true) :
    stage.isInside = false := by
  cases stage with
  | returned given => rfl
  | _ => contradiction

def Stage.left : Stage → Nat
  | .lock _ => 7
  | .look _ => 6
  | .write _ => 5
  | .flag _ => 4
  | .wake => 3
  | .unlock _ => 2
  | .count => 2
  | .test => 2
  | .leave _ => 1
  | .returned _ => 0

theorem Stage.left_le (stage : Stage) : stage.left ≤ 7 := by
  cases stage <;> simp only [left] <;> decide

end Call

namespace Traffic

variable {traffic next later : Traffic} {number : Nat} {call : Call}

theorem Steps.left {stage moved : Call.Stage} {signals later : Signals} {holder heir : Option Nat}
    (steps : Steps signals holder number stage moved later heir) : moved.left < stage.left := by
  cases steps <;> simp only [Call.Stage.left] <;> decide

def remaining (traffic : Traffic) : Nat := (traffic.calls.map fun call => call.stage.left).sum

theorem remaining_le (traffic : Traffic) : traffic.remaining ≤ 7 * traffic.calls.length := by
  have most : ∀ steps ∈ traffic.calls.map (·.stage.left), steps ≤ 7 := by
    intro steps member
    obtain ⟨call, _, rfl⟩ := List.mem_map.mp member
    exact call.stage.left_le
  have total := List.sum_le_card_nsmul _ _ most
  rwa [List.length_map, smul_eq_mul, Nat.mul_comm] at total

theorem remaining_step (stepped : traffic.step number = some next) :
    next.remaining < traffic.remaining := by
  obtain ⟨call, stage, found, steps, calls⟩ := step_cases stepped
  have fewer := steps.left
  have sums : next.remaining + call.stage.left = traffic.remaining + stage.left := by
    rw [remaining, remaining, calls, calls_eq_set found]
    exact sum_set_add (·.stage.left) found { call with stage }
  omega

theorem steps_le {numbers : List Nat} (ran : numbers.foldlM step traffic = some later) :
    numbers.length + later.remaining ≤ traffic.remaining := by
  induction numbers generalizing traffic with
  | nil =>
      cases ran
      rw [List.length_nil, Nat.zero_add]
  | cons number rest ih =>
      rw [List.foldlM_cons] at ran
      obtain ⟨next, stepped, onward⟩ := Option.bind_eq_some_iff.mp ran
      have tail := ih onward
      have head := remaining_step stepped
      rw [List.length_cons]
      omega

theorem stuck_cases (found : traffic.calls[number]? = some call)
    (stuck : traffic.step number = none) :
    call.stage.hasReturned = true ∨ call.stage.isInside = false ∧ traffic.holder ≠ none := by
  simp only [step, stage?_eq found] at stuck
  cases stage : call.stage with
  | returned answer => exact .inl rfl
  | lock request =>
      refine .inr ⟨rfl, fun unheld => ?_⟩
      simp only [stage, unheld] at stuck
      contradiction
  | look request =>
      simp only [stage] at stuck
      cases request with
      | none => contradiction
      | some reason =>
          simp only at stuck
          split at stuck <;> contradiction
  | _ =>
      simp only [stage] at stuck
      contradiction

/-- Nobody waits for ever: the call that has the lock can go on. -/
theorem Sound.returned (sound : traffic.Sound) (stuck : ∀ number, traffic.step number = none)
    (found : traffic.calls[number]? = some call) : call.stage.hasReturned = true := by
  rcases stuck_cases found (stuck number) with returned | ⟨_, held⟩
  · exact returned
  · obtain ⟨owner, holder⟩ := Option.ne_none_iff_exists'.mp held
    have known := List.getElem?_eq_getElem (sound.held owner holder)
    have inside := (sound.fits owner _ known).locked.mpr holder
    rcases stuck_cases known (stuck owner) with returned | ⟨outside, _⟩
    · rw [Call.Stage.isInside_of_returned returned] at inside
      contradiction
    · rw [inside] at outside
      contradiction

end Traffic

end Contention.Signals
