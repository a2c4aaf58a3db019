import Contention.Proofs.Runs
import Contention.Worker.Loop

namespace Contention

inductive Move where
  | step (worker : Worker)
  | stop (reason : EndReason)
  | wait (nanos : Nat)

def Move.isStep : Move → Bool
  | .step _ => true
  | _ => false

def Move.isBy (worker : Worker) : Move → Bool
  | .step mover => decide (mover = worker)
  | _ => false

theorem Move.eq_step_of_isBy {worker : Worker} {move : Move} (own : move.isBy worker = true) :
    move = .step worker := by
  cases move with
  | step mover => exact congrArg Move.step (of_decide_eq_true own)
  | stop reason => contradiction
  | wait nanos => contradiction

namespace System

variable {σ α : Type} {regime : Regime σ} {start system middle final : System σ}

def after (regime : Regime σ) (system : System σ) : Move → Option (System σ)
  | .step worker => (system.step regime worker).map (·.system)
  | .stop reason => some (system.halt reason)
  | .wait nanos => some { system with clock := { nanos := system.clock.nanos + nanos } }

theorem step_or_same {move : Move} (moved : system.after regime move = some final) :
    (∃ worker, move = .step worker) ∨
      final.shop = system.shop ∧ final.threads = system.threads := by
  cases move with
  | step worker => exact .inl ⟨worker, rfl⟩
  | stop reason | wait nanos =>
      cases moved
      exact .inr ⟨rfl, rfl⟩

def run (regime : Regime σ) (system : System σ) : List Move → Option (System σ)
  | [] => some system
  | move :: moves => (system.after regime move).bind fun next => next.run regime moves

def history (regime : Regime σ) (worker : Worker) (look : System σ → List α) (system : System σ)
    (moves : List Move) : List α :=
  Contention.history (after regime)
    (fun system move => if move.isBy worker then look system else [])
    system moves

def Reachable (regime : Regime σ) (start system : System σ) : Prop :=
  ∃ moves, start.run regime moves = some system

theorem run_eq_foldlM (regime : Regime σ) (system : System σ) (moves : List Move) :
    system.run regime moves = moves.foldlM (after regime) system := by
  induction moves generalizing system with
  | nil => rfl
  | cons move moves ih =>
      rw [run, List.foldlM_cons]
      exact congrArg _ (funext ih)

theorem run_invariant (Invariant : System σ → Prop)
    (kept : ∀ system move next, Invariant system → system.after regime move = some next →
      Invariant next)
    {moves : List Move} (found : system.run regime moves = some final) (holds : Invariant system) :
    Invariant final :=
  foldlM_invariant Invariant kept ((run_eq_foldlM ..).symm.trans found) holds

/-- As in `run_invariant`, for what a state has to do with the steps of one worker that led
to it. -/
theorem run_recorded {worker : Worker} {look : System σ → List α}
    (Invariant : System σ → List α → Prop)
    (own : ∀ system past next, Invariant system past →
      system.after regime (.step worker) = some next → Invariant next (past ++ look system))
    (others : ∀ system past move next, Invariant system past → move.isBy worker = false →
      system.after regime move = some next → Invariant next past)
    {moves : List Move} {past : List α} (found : system.run regime moves = some final)
    (holds : Invariant system past) :
    Invariant final (past ++ system.history regime worker look moves) := by
  refine foldlM_recorded _ past Invariant ?_ ((run_eq_foldlM ..).symm.trans found) holds
  intro system past move next holds moved
  cases mine : move.isBy worker with
  | true =>
      obtain rfl := Move.eq_step_of_isBy mine
      exact own system past next holds moved
  | false =>
      rw [if_neg Bool.false_ne_true, List.append_nil]
      exact others system past move next holds mine moved

theorem reachable_iff_attains :
    Reachable regime start final ↔ Attains (after regime) start final := by
  simp only [Reachable, Attains, run_eq_foldlM]

theorem Reachable.refl (regime : Regime σ) (system : System σ) : Reachable regime system system :=
  ⟨[], rfl⟩

theorem Reachable.trans (early : Reachable regime start middle)
    (late : Reachable regime middle final) : Reachable regime start final :=
  reachable_iff_attains.mpr
    ((reachable_iff_attains.mp early).trans (reachable_iff_attains.mp late))

theorem Reachable.tail {move : Move} (reached : Reachable regime start middle)
    (moved : middle.after regime move = some final) : Reachable regime start final :=
  reached.trans ⟨[move], by rw [run, moved, Option.bind_some, run]⟩

/-- As in `run_invariant`, for what only the states of a run are known to keep. -/
theorem Reachable.induct (Invariant : System σ → Prop) (reached : Reachable regime start final)
    (kept : ∀ system move next, Reachable regime start system → Invariant system →
      system.after regime move = some next → Invariant next)
    (holds : Invariant start) : Invariant final := by
  obtain ⟨moves, found⟩ := reached
  refine (run_invariant
    (fun system => Reachable regime start system ∧ Invariant system) ?_ found ⟨.refl _ _, holds⟩).2
  rintro system move next ⟨before, holds⟩ moved
  exact ⟨before.tail moved, kept system move next before holds moved⟩

/-- If every move keeps a measure from growing and every worker's step makes it
smaller, it bounds the number of steps of a run. -/
theorem run_bounded (Invariant : System σ → Prop) (measure : System σ → Nat)
    (kept : ∀ system move next, Invariant system → system.after regime move = some next →
      Invariant next ∧ measure next + (if move.isStep then 1 else 0) ≤ measure system)
    {moves : List Move} (found : system.run regime moves = some final) (holds : Invariant system) :
    (moves.filter Move.isStep).length + measure final ≤ measure system := by
  induction moves generalizing system with
  | nil =>
      cases found
      simp
  | cons move moves ih =>
      obtain ⟨next, moved, rest⟩ := Option.bind_eq_some_iff.mp found
      obtain ⟨still, smaller⟩ := kept system move next holds moved
      have bound := ih rest still
      rw [List.filter_cons]
      split
      · rename_i step
        rw [if_pos step] at smaller
        rw [List.length_cons]
        omega
      · omega

end System

end Contention
