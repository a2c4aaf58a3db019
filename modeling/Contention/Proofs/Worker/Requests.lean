import Contention.Proofs.Worker.Steps

namespace Contention

variable {σ : Type} {regime : Regime σ}

/-- The critical sections leave it to the monitor to declare a stall. -/
def Regime.DeclaresNoStall (regime : Regime σ) : Prop :=
  ∀ worker pair, ∀ act ∈ regime.criticalSection.script worker pair, ∀ shared generator,
    (act shared generator).request ≠ some .stalled

namespace System

variable {system : System σ} {worker : Worker} {thread : Thread} {next : Step σ}
  {chosen pair : Resource × Resource} {reason : EndReason}

def asks? (regime : Regime σ) (system : System σ) (worker : Worker) : Option EndReason :=
  match system.thread? worker, route regime.mode regime.pairing system.resources worker with
  | some { stage := .inside done, generator, .. }, .ok pair =>
      if system.shop.isIdle worker then
        (regime.criticalSection.script worker pair)[done]?.bind fun act =>
          (act system.shared generator).request
      else none
  | _, _ => none

theorem asks?_ne_stalled (none : regime.DeclaresNoStall) :
    system.asks? regime worker ≠ some .stalled := by
  unfold asks?
  split
  · split
    · intro asked
      obtain ⟨act, scripted, asked⟩ := Option.bind_eq_some_iff.mp asked
      exact none _ _ act (List.mem_of_getElem? scripted) _ _ asked
    · nofun
  · nofun

theorem asks?_of_outside (found : system.thread? worker = some thread)
    (outside : ∀ done, thread.stage ≠ .inside done) : system.asks? regime worker = none := by
  unfold asks?
  split
  · rename_i known _
    cases found.symm.trans known
    exact absurd rfl (outside _)
  · rfl

theorem asks?_of_busy (busy : system.shop.isIdle worker = false) :
    system.asks? regime worker = none := by
  unfold asks?
  split
  · rw [busy]
    rfl
  · rfl

theorem asks?_of_astray {fault : Fault}
    (astray : regime.pairing.pairFor worker system.resources = .error fault) :
    system.asks? regime worker = none := by
  unfold asks?
  split
  · rename_i routed
    rw [route, astray] at routed
    contradiction
  · rfl

theorem asks?_of_inside {done : Nat} (found : system.thread? worker = some thread)
    (stage : thread.stage = .inside done) (idle : system.shop.isIdle worker = true)
    (paired : regime.pairing.pairFor worker system.resources = .ok chosen) :
    system.asks? regime worker =
      (regime.criticalSection.script worker (regime.mode.arrange worker chosen))[done]?.bind
        fun act => (act system.shared thread.generator).request := by
  obtain ⟨_, generator, completed⟩ := thread
  cases stage
  simp only [asks?, found, route, paired, Except.map, idle, if_true]

@[simp] theorem signals_ofShopStep (system : System σ) (worker : Worker) (thread : Thread)
    (step : Workshop.Step) :
    (system.ofShopStep worker thread step).system.signals = system.signals := by
  unfold ofShopStep
  cases step.fault <;> rfl

@[simp] theorem signals_pauseStep (system : System σ) (worker : Worker) (thread : Thread)
    (range : Delay) (next : Thread → Thread) :
    (system.pauseStep worker thread range next).system.signals = system.signals := by
  unfold pauseStep
  cases range.draw thread.generator <;> rfl

theorem signals_sectionStep (system : System σ) (worker : Worker) (thread : Thread)
    (script : List (Section.Step σ)) (done : Nat) :
    (system.sectionStep worker thread script done).system.signals =
      system.signals.asked (script[done]?.bind fun act =>
        (act system.shared thread.generator).request) := by
  unfold sectionStep
  cases script[done]? with
  | none => rfl
  | some act =>
      simp only [Option.bind_some]
      cases (act system.shared thread.generator).request <;> rfl

def Signalled (regime : Regime σ) (system : System σ) (worker : Worker) (signals : Signals) :
    Prop :=
  signals = system.signals.asked (system.asks? regime worker) ∨
    system.asks? regime worker = none ∧ signals = system.signals.record

theorem signalled_of_silent (silent : system.asks? regime worker = none) :
    system.Signalled regime worker system.signals := by
  rw [Signalled, silent]
  exact .inl rfl

theorem LoopStep.signals (found : system.thread? worker = some thread)
    (idle : system.shop.isIdle worker = true)
    (paired : regime.pairing.pairFor worker system.resources = .ok chosen)
    (looped : LoopStep regime system worker thread chosen (regime.mode.arrange worker chosen)
      (some next)) : system.Signalled regime worker next.system.signals := by
  have silent (outside : ∀ done, thread.stage ≠ .inside done) :
      system.Signalled regime worker system.signals :=
    signalled_of_silent (asks?_of_outside found outside)
  cases looped with
  | inside done stage =>
      rw [Signalled, asks?_of_inside found stage idle paired]
      exact .inl (signals_sectionStep ..)
  | total count stage => exact .inr ⟨asks?_of_outside found (by rw [stage]; nofun), rfl⟩
  | think stage | gap stage | rest _ stage =>
      rw [signals_pauseStep]
      exact silent (by rw [stage]; nofun)
  | take _ stage | give _ _ _ stage =>
      rw [signals_ofShopStep]
      exact silent (by rw [stage]; nofun)
  | start stage | check stage | recheck _ stage | count stage | leave stage | drop _ _ stage
  | fail _ stage => exact silent (by rw [stage]; nofun)

theorem step_signals (stepped : system.step regime worker = some next) :
    system.Signalled regime worker next.system.signals := by
  obtain ⟨thread, found, taken⟩ := stepped_of_step stepped
  cases taken with
  | slot advance busy =>
      rw [signals_ofShopStep]
      exact signalled_of_silent (asks?_of_busy busy)
  | astray fault idle paired => exact signalled_of_silent (asks?_of_astray paired)
  | loop chosen next idle paired looped => exact looped.signals found idle paired

end System

end Contention
