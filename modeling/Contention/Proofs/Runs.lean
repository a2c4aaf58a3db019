namespace Contention

variable {α μ ν : Type} {after : α → μ → Option α} {start middle final : α}

/-- What is noted of the moves of a run, each seen from the state before it. -/
def history (after : α → μ → Option α) (look : α → μ → List ν) (state : α) :
    List μ → List ν
  | [] => []
  | move :: moves =>
      look state move ++
        match after state move with
        | none => []
        | some next => history after look next moves

/-- An invariant of a state and of what led to it, for runs of moves of some kind. -/
theorem foldlM_recorded_of (Allowed : μ → Prop) (look : α → μ → List ν) (past : List ν)
    (Invariant : α → List ν → Prop)
    (kept : ∀ state past move next, Allowed move → Invariant state past →
      after state move = some next → Invariant next (past ++ look state move))
    {moves : List μ} (allowed : ∀ move ∈ moves, Allowed move)
    (ran : moves.foldlM after start = some final)
    (holds : Invariant start past) : Invariant final (past ++ history after look start moves) := by
  induction moves generalizing start past with
  | nil =>
      cases ran
      rwa [history, List.append_nil]
  | cons move moves ih =>
      obtain ⟨first, others⟩ := List.forall_mem_cons.mp allowed
      rw [List.foldlM_cons] at ran
      obtain ⟨next, moved, rest⟩ := Option.bind_eq_some_iff.mp ran
      rw [history, moved, ← List.append_assoc]
      exact ih _ others rest (kept start past move next first holds moved)

theorem foldlM_recorded (look : α → μ → List ν) (past : List ν) (Invariant : α → List ν → Prop)
    (kept : ∀ state past move next, Invariant state past → after state move = some next →
      Invariant next (past ++ look state move))
    {moves : List μ} (ran : moves.foldlM after start = some final)
    (holds : Invariant start past) : Invariant final (past ++ history after look start moves) :=
  foldlM_recorded_of (fun _ => True) look past Invariant
    (fun state past move next _ => kept state past move next) (fun _ _ => trivial) ran holds

theorem foldlM_invariant (Invariant : α → Prop)
    (kept : ∀ state move next, Invariant state → after state move = some next → Invariant next)
    {moves : List μ} (ran : moves.foldlM after start = some final) (holds : Invariant start) :
    Invariant final :=
  foldlM_recorded (fun _ _ => ([] : List Unit)) [] (fun state _ => Invariant state)
    (fun state _ move next holds moved => kept state move next holds moved) ran holds

def Attains (after : α → μ → Option α) (start final : α) : Prop :=
  ∃ moves : List μ, moves.foldlM after start = some final

theorem Attains.refl (after : α → μ → Option α) (state : α) : Attains after state state := ⟨[], rfl⟩

theorem Attains.trans (early : Attains after start middle) (late : Attains after middle final) :
    Attains after start final := by
  obtain ⟨moves, ran⟩ := early
  obtain ⟨onward, finished⟩ := late
  refine ⟨moves ++ onward, ?_⟩
  rw [List.foldlM_append, ran]
  exact finished

theorem Attains.invariant (attains : Attains after start final) (Invariant : α → Prop)
    (kept : ∀ state move next, Invariant state → after state move = some next → Invariant next)
    (holds : Invariant start) : Invariant final := by
  obtain ⟨moves, ran⟩ := attains
  exact foldlM_invariant Invariant kept ran holds

end Contention
