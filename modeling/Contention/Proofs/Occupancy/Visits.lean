import Contention.Proofs.Occupancy
import Contention.Proofs.Runs

namespace Contention

def Occupancy.next? (maxHold : Span) (occupancy : Occupancy) (run : OccupancyRun)
    (generator : Random.Generator) (done : Nat) : Option (Section.Outcome Occupancy) :=
  ((criticalSection maxHold).script run.worker run.pair)[done]?.map fun act =>
    act occupancy generator

structure Visit where
  pair : Resource × Resource
  generator : Random.Generator
  done : Nat := 0

def Visit.claims (visit : Visit) : List Resource := Occupancy.claimed visit.pair visit.done

structure Visitors where
  occupancy : Occupancy
  visit? : Worker → Option Visit

namespace Visitors

inductive Move where
  | enter (worker : Worker) (pair : Resource × Resource) (generator : Random.Generator)
  | step (worker : Worker)

def start (resources : Nat) : Visitors where
  occupancy := .ofSize resources
  visit? _ := none

def setVisit (visitors : Visitors) (worker : Worker) (visit : Option Visit) : Visitors :=
  { visitors with visit? := Function.update visitors.visit? worker visit }

/-- The next step of a worker's run, which is over after the last one or with a fault. -/
def proceed (maxHold : Span) (visitors : Visitors) (worker : Worker) (visit : Visit) : Visitors :=
  let run := { worker, pair := visit.pair }
  match visitors.occupancy.next? maxHold run visit.generator visit.done with
  | none => visitors.setVisit worker none
  | some outcome =>
      let moved := { visitors with occupancy := outcome.shared }
      match outcome.fault with
      | some _ => moved.setVisit worker none
      | none => moved.setVisit worker
          (some { visit with generator := outcome.generator, done := visit.done + 1 })

def after (maxHold : Span) (visitors : Visitors) : Move → Option Visitors
  | .enter worker pair generator =>
      match visitors.visit? worker with
      | some _ => none
      | none => some (visitors.setVisit worker (some { pair, generator }))
  | .step worker => (visitors.visit? worker).map (visitors.proceed maxHold worker)

/-- What a worker has claimed and not vacated. -/
def claims (visitors : Visitors) (worker : Worker) : List Resource :=
  ((visitors.visit? worker).map Visit.claims).getD []

/-- In this move a worker claims a resource that another has claimed and not vacated. -/
def Overlaps (maxHold : Span) (visitors : Visitors) (move : Move) : Prop :=
  ∃ next worker other resource, visitors.after maxHold move = some next ∧ worker ≠ other ∧
    resource ∈ next.claims worker ∧ resource ∉ visitors.claims worker ∧
    resource ∈ visitors.claims other

def moments (maxHold : Span) (start : Visitors) (moves : List Move) : List (Visitors × Move) :=
  history (after maxHold) (fun visitors move => [(visitors, move)]) start moves

end Visitors

/-- A worker of the team that enters with two resources of the pool. -/
structure Entitled (resources workers : Nat) (worker : Worker) (pair : Resource × Resource) :
    Prop where
  member : worker.index < workers
  different : pair.1 ≠ pair.2
  first : pair.1.index < resources
  second : pair.2.index < resources

instance (resources workers : Nat) (worker : Worker) (pair : Resource × Resource) :
    Decidable (Entitled resources workers worker pair) :=
  decidable_of_iff (worker.index < workers ∧ pair.1 ≠ pair.2 ∧ pair.1.index < resources ∧
      pair.2.index < resources)
    ⟨fun ⟨member, different, first, second⟩ => ⟨member, different, first, second⟩,
      fun ⟨member, different, first, second⟩ => ⟨member, different, first, second⟩⟩

def Visitors.Move.IsEntitled (resources workers : Nat) : Visitors.Move → Prop
  | .enter worker pair _ => Entitled resources workers worker pair
  | .step _ => True

instance (resources workers : Nat) : DecidablePred (Visitors.Move.IsEntitled resources workers)
  | .enter worker pair _ => inferInstanceAs (Decidable (Entitled resources workers worker pair))
  | .step _ => inferInstanceAs (Decidable True)

section

variable {occupancy next : Occupancy} {resource : Resource} {worker : Worker}
  {pair : Resource × Resource} {maxHold : Span} {done expected mark : Nat}
  {act : Section.Step Occupancy} {generator : Random.Generator}
  {cells : List Nat} {claims : Worker → List Resource}

theorem Reflects.cell (reflects : Reflects cells claims) (inside : resource.index < cells.length) :
    (∃ worker, resource ∈ claims worker ∧ (∀ other, resource ∈ claims other → other = worker) ∧
      cells[resource.index]? = some (worker.index + 1)) ∨
    (∀ worker, resource ∉ claims worker) ∧ cells[resource.index]? = some 0 := by
  by_cases unclaimed : ∀ worker, resource ∉ claims worker
  · exact .inr ⟨unclaimed, reflects.free_cell inside unclaimed⟩
  · obtain ⟨worker, claimed⟩ := Classical.not_forall_not.mp unclaimed
    have marked := (reflects worker resource).mp claimed
    refine .inl ⟨worker, claimed, fun other again => ?_, marked⟩
    have same := (reflects other resource).mp again
    rw [marked, Option.some_inj] at same
    exact congrArg Worker.mk (Nat.succ.inj same).symm

namespace Occupancy

theorem violations_exchange
    (exchanged : occupancy.exchange resource expected mark = .ok next) :
    occupancy.violations ≤ next.violations := by
  unfold exchange at exchanged
  split at exchanged
  · contradiction
  · split at exchanged <;> cases exchanged
    · exact Nat.le_refl _
    · exact Nat.le_succ _

theorem exchange_taken (found : occupancy.cells[resource.index]? = some mark)
    (taken : mark ≠ expected) (replacement : Nat) :
    occupancy.exchange resource expected replacement =
      .ok { occupancy with violations := occupancy.violations + 1 } := by
  simp only [exchange, found, if_neg taken]

theorem exchange_exists (inside : resource.index < occupancy.cells.length) (expected mark : Nat) :
    ∃ next, occupancy.exchange resource expected mark = .ok next := by
  unfold exchange
  rw [List.getElem?_eq_getElem inside]
  simp only
  split <;> exact ⟨_, rfl⟩

theorem violations_tagged {found replacement : Nat → Nat}
    (acted : (do
      let mark ← tag worker
      occupancy.exchange resource (found mark) (replacement mark)) = .ok next) :
    occupancy.violations ≤ next.violations := by
  cases marked : tag worker with
  | error fault =>
      rw [marked] at acted
      contradiction
  | ok mark =>
      rw [marked] at acted
      exact violations_exchange acted

theorem violations_occupy (occupied : occupancy.occupy resource worker = .ok next) :
    occupancy.violations ≤ next.violations := violations_tagged occupied

theorem violations_free (freed : occupancy.free resource worker = .ok next) :
    occupancy.violations ≤ next.violations := violations_tagged freed

theorem violations_change {act : Occupancy → Except Fault Occupancy}
    (kept : ∀ {next}, act occupancy = .ok next → occupancy.violations ≤ next.violations) :
    occupancy.violations ≤ (change act occupancy generator).shared.violations := by
  unfold change
  split
  · exact kept ‹_›
  · exact Nat.le_refl _

theorem violations_act (member : act ∈ (criticalSection maxHold).script worker pair) :
    occupancy.violations ≤ (act occupancy generator).shared.violations := by
  simp only [criticalSection, List.mem_cons, List.not_mem_nil, or_false] at member
  rcases member with rfl | rfl | rfl | rfl | rfl | rfl
  · exact Nat.le_refl _
  · exact violations_change violations_occupy
  · exact violations_change violations_occupy
  · exact Nat.le_refl _
  · exact violations_change violations_free
  · exact violations_change violations_free

theorem occupy_exists (fits : worker.index < wordMax)
    (inside : resource.index < occupancy.cells.length) :
    ∃ next, occupancy.occupy resource worker = .ok next := by
  rw [occupy, tag_eq fits]
  exact exchange_exists inside 0 _

theorem free_exists (fits : worker.index < wordMax)
    (inside : resource.index < occupancy.cells.length) :
    ∃ next, occupancy.free resource worker = .ok next := by
  rw [free, tag_eq fits]
  exact exchange_exists inside _ 0

theorem change_returns {act : Occupancy → Except Fault Occupancy}
    (acts : ∃ next, act occupancy = .ok next) :
    (change act occupancy generator).fault = none := by
  obtain ⟨next, acted⟩ := acts
  rw [change_eq generator acted]

theorem act_returns (member : act ∈ (criticalSection maxHold).script worker pair)
    (fits : worker.index < wordMax) (first : pair.1.index < occupancy.cells.length)
    (second : pair.2.index < occupancy.cells.length) : (act occupancy generator).fault = none := by
  simp only [criticalSection, List.mem_cons, List.not_mem_nil, or_false] at member
  rcases member with rfl | rfl | rfl | rfl | rfl | rfl
  · rfl
  · exact change_returns (occupy_exists fits first)
  · exact change_returns (occupy_exists fits second)
  · rfl
  · exact change_returns (free_exists fits second)
  · exact change_returns (free_exists fits first)

theorem claimed_new (now : resource ∈ claimed pair (done + 1))
    (new : resource ∉ claimed pair done) :
    done = 1 ∧ resource = pair.1 ∨ done = 2 ∧ resource = pair.2 := by
  match done, now, new with
  | 1, now, _ => exact .inl ⟨rfl, List.mem_singleton.mp now⟩
  | 2, now, new =>
      rcases List.mem_cons.mp now with same | last
      · exact absurd (List.mem_singleton.mpr same) new
      · exact .inr ⟨rfl, List.mem_singleton.mp last⟩
  | 3, now, new => exact absurd now new
  | 4, now, new => exact absurd (List.mem_cons.mpr (.inl (List.mem_singleton.mp now))) new

end Occupancy

end

namespace Visitors

variable {visitors next : Visitors} {maxHold : Span} {move : Move} {worker other : Worker}
  {resource : Resource} {resources workers : Nat} {visit : Visit}

inductive Moved (maxHold : Span) (visitors : Visitors) : Move → Visitors → Prop
  | entered (worker : Worker) (pair : Resource × Resource) (generator : Random.Generator)
      (away : visitors.visit? worker = none) :
      Moved maxHold visitors (.enter worker pair generator)
        (visitors.setVisit worker (some { pair, generator }))
  | left (worker : Worker) (visit : Visit) (found : visitors.visit? worker = some visit)
      (ended : ((Occupancy.criticalSection maxHold).script worker visit.pair)[visit.done]? = none) :
      Moved maxHold visitors (.step worker) (visitors.setVisit worker none)
  | acted (worker : Worker) (visit : Visit) (act : Section.Step Occupancy)
      (found : visitors.visit? worker = some visit)
      (scripted :
        ((Occupancy.criticalSection maxHold).script worker visit.pair)[visit.done]? = some act)
      (returned : (act visitors.occupancy visit.generator).fault = none) :
      Moved maxHold visitors (.step worker)
        ({ visitors with occupancy := (act visitors.occupancy visit.generator).shared }.setVisit
          worker (some { visit with
            generator := (act visitors.occupancy visit.generator).generator
            done := visit.done + 1 }))
  | broke (worker : Worker) (visit : Visit) (act : Section.Step Occupancy) (fault : Fault)
      (found : visitors.visit? worker = some visit)
      (scripted :
        ((Occupancy.criticalSection maxHold).script worker visit.pair)[visit.done]? = some act)
      (failed : (act visitors.occupancy visit.generator).fault = some fault) :
      Moved maxHold visitors (.step worker)
        ({ visitors with occupancy := (act visitors.occupancy visit.generator).shared }.setVisit
          worker none)

theorem moved_of_after (moved : visitors.after maxHold move = some next) :
    Moved maxHold visitors move next := by
  cases move with
  | enter worker pair generator =>
      simp only [after] at moved
      split at moved
      · contradiction
      · cases moved
        exact .entered worker pair generator ‹_›
  | step worker =>
      obtain ⟨visit, found, rfl⟩ := Option.map_eq_some_iff.mp moved
      cases scripted :
          ((Occupancy.criticalSection maxHold).script worker visit.pair)[visit.done]? with
      | none =>
          simp only [proceed, Occupancy.next?, scripted, Option.map_none]
          exact .left worker visit found scripted
      | some act =>
          simp only [proceed, Occupancy.next?, scripted, Option.map_some]
          cases ended : (act visitors.occupancy visit.generator).fault with
          | none => exact .acted worker visit act found scripted ended
          | some fault => exact .broke worker visit act fault found scripted ended

theorem Moved.violations_le (moved : Moved maxHold visitors move next) :
    visitors.occupancy.violations ≤ next.occupancy.violations := by
  cases moved with
  | entered | left => exact Nat.le_refl _
  | acted worker visit act found scripted | broke worker visit act fault found scripted =>
      exact Occupancy.violations_act (List.mem_of_getElem? scripted)

theorem claims_setVisit (visitors : Visitors) (worker : Worker) (visit : Option Visit) :
    (visitors.setVisit worker visit).claims =
      Function.update visitors.claims worker ((visit.map Visit.claims).getD []) := by
  funext other
  by_cases same : other = worker
  · subst same
    simp only [claims, setVisit, Function.update_self]
  · simp only [claims, setVisit, Function.update_of_ne same]

theorem claims_of_visit (found : visitors.visit? worker = some visit) :
    visitors.claims worker = Occupancy.claimed visit.pair visit.done := by
  rw [claims, found]
  rfl

/-- The check has found nothing wrong, and its cells are as the runs have claimed them. -/
structure Clean (resources workers : Nat) (visitors : Visitors) : Prop where
  size : visitors.occupancy.cells.length = resources
  spotless : visitors.occupancy.violations = 0
  reflects : Reflects visitors.occupancy.cells visitors.claims
  entitled : ∀ worker visit, visitors.visit? worker = some visit →
    Entitled resources workers worker visit.pair

theorem clean_start (resources workers : Nat) : (start resources).Clean resources workers where
  size := List.length_replicate
  spotless := rfl
  reflects := by
    intro worker resource
    have blank :
        ∀ mark, (start resources).occupancy.cells[resource.index]? = some mark → mark = 0 :=
      fun mark found => List.eq_of_mem_replicate (List.mem_of_getElem? found)
    exact ⟨nofun, fun found => absurd (blank _ found) (Nat.succ_ne_zero _)⟩
  entitled := nofun

theorem entitled_setVisit (visit : Option Visit)
    (entitled : ∀ other begun, visitors.visit? other = some begun →
      Entitled resources workers other begun.pair)
    (own : ∀ begun, visit = some begun → Entitled resources workers worker begun.pair) :
    ∀ other begun, (visitors.setVisit worker visit).visit? other = some begun →
      Entitled resources workers other begun.pair := by
  intro other begun found
  by_cases same : other = worker
  · subst same
    simp only [setVisit, Function.update_self] at found
    exact own begun found
  · simp only [setVisit, Function.update_of_ne same] at found
    exact entitled other begun found

theorem overlaps_iff {kept : List Resource} (moved : visitors.after maxHold move = some next)
    (claims : next.claims = Function.update visitors.claims worker kept) :
    visitors.Overlaps maxHold move ↔ ∃ other, other ≠ worker ∧ ∃ wanted ∈ kept,
      wanted ∉ visitors.claims worker ∧ wanted ∈ visitors.claims other := by
  constructor
  · rintro ⟨_, mover, other, wanted, again, apart, now, new, claimed⟩
    cases moved.symm.trans again
    rw [claims] at now
    by_cases own : mover = worker
    · subst own
      rw [Function.update_self] at now
      exact ⟨other, apart.symm, wanted, now, new, claimed⟩
    · rw [Function.update_of_ne own] at now
      exact absurd now new
  · rintro ⟨other, apart, wanted, now, new, claimed⟩
    refine ⟨next, worker, other, wanted, moved, apart.symm, ?_, new, claimed⟩
    rwa [claims, Function.update_self]

theorem Clean.overlapped {act : Section.Step Occupancy} (clean : visitors.Clean resources workers)
    (fits : worker.index < wordMax)
    (scripted :
      ((Occupancy.criticalSection maxHold).script worker visit.pair)[visit.done]? = some act)
    (now : resource ∈ Occupancy.claimed visit.pair (visit.done + 1))
    (new : resource ∉ Occupancy.claimed visit.pair visit.done)
    (claimed : resource ∈ visitors.claims other) :
    0 < (act visitors.occupancy visit.generator).shared.violations := by
  have found := (clean.reflects other resource).mp claimed
  have occupied : visitors.occupancy.occupy resource worker =
      .ok { visitors.occupancy with violations := visitors.occupancy.violations + 1 } := by
    rw [Occupancy.occupy, Occupancy.tag_eq fits]
    exact Occupancy.exchange_taken found (Nat.succ_ne_zero _) _
  obtain ⟨pair, generator, done⟩ := visit
  rcases Occupancy.claimed_new now new with ⟨rfl, rfl⟩ | ⟨rfl, rfl⟩ <;>
    cases scripted <;>
    rw [Occupancy.change_eq generator occupied] <;>
    exact Nat.succ_pos _

theorem Clean.acted {act : Section.Step Occupancy} (clean : visitors.Clean resources workers)
    (fits : workers ≤ wordMax) (found : visitors.visit? worker = some visit)
    (scripted :
      ((Occupancy.criticalSection maxHold).script worker visit.pair)[visit.done]? = some act)
    (alone : ∀ other, other ≠ worker → ∀ wanted ∈ Occupancy.claimed visit.pair (visit.done + 1),
      wanted ∉ Occupancy.claimed visit.pair visit.done → wanted ∉ visitors.claims other) :
    Clean resources workers
      ({ visitors with occupancy := (act visitors.occupancy visit.generator).shared }.setVisit
        worker (some { visit with
          generator := (act visitors.occupancy visit.generator).generator
          done := visit.done + 1 })) := by
  obtain ⟨member, different, first, second⟩ := clean.entitled worker visit found
  have checked := Occupancy.checked visit.generator scripted clean.reflects (claims_of_visit found)
    (Nat.lt_of_lt_of_le member fits) different (clean.size ▸ first) (clean.size ▸ second) alone
  refine ⟨checked.size.trans clean.size, checked.violations.trans clean.spotless, ?_,
    entitled_setVisit _ clean.entitled ?_⟩
  · rw [claims_setVisit]
    exact checked.reflects
  · rintro _ ⟨⟩
    exact ⟨member, different, first, second⟩

theorem Clean.idle (clean : visitors.Clean resources workers) (visit : Option Visit)
    (nothing : visitors.claims worker = []) (claims : (visit.map Visit.claims).getD [] = [])
    (entitled : ∀ begun, visit = some begun → Entitled resources workers worker begun.pair)
    (moved : visitors.after maxHold move = some (visitors.setVisit worker visit)) :
    ¬ visitors.Overlaps maxHold move ∧
      (visitors.setVisit worker visit).Clean resources workers := by
  have updated := claims_setVisit visitors worker visit
  rw [claims] at updated
  refine ⟨?_, clean.size, clean.spotless, ?_, entitled_setVisit visit clean.entitled entitled⟩
  · rw [overlaps_iff moved updated]
    rintro ⟨_, _, _, now, _⟩
    exact List.not_mem_nil now
  · rw [updated, ← nothing, Function.update_eq_self]
    exact clean.reflects

theorem Clean.after (clean : visitors.Clean resources workers) (fits : workers ≤ wordMax)
    (entitled : move.IsEntitled resources workers)
    (moved : visitors.after maxHold move = some next) :
    visitors.Overlaps maxHold move ∧ 0 < next.occupancy.violations ∨
      ¬ visitors.Overlaps maxHold move ∧ next.Clean resources workers := by
  cases moved_of_after moved with
  | entered worker pair generator away =>
      refine .inr (clean.idle _ ?_ rfl ?_ moved)
      · rw [claims, away]
        rfl
      · rintro _ ⟨⟩
        exact entitled
  | left worker visit found ended =>
      refine .inr (clean.idle none ?_ rfl nofun moved)
      have past : 6 ≤ visit.done := List.getElem?_eq_none_iff.mp ended
      obtain ⟨more, done⟩ := Nat.exists_eq_add_of_le' past
      rw [claims_of_visit found, done]
      rfl
  | acted worker visit act found scripted returned =>
      obtain ⟨member, _⟩ := clean.entitled worker visit found
      have overlaps := overlaps_iff moved (claims_setVisit ..)
      rw [claims_of_visit found] at overlaps
      by_cases overlapped : visitors.Overlaps maxHold (.step worker)
      · obtain ⟨other, _, wanted, now, new, claimed⟩ := overlaps.mp overlapped
        exact .inl ⟨overlapped,
          clean.overlapped (Nat.lt_of_lt_of_le member fits) scripted now new claimed⟩
      · refine .inr ⟨overlapped, clean.acted fits found scripted ?_⟩
        intro other apart wanted now new claimed
        exact overlapped (overlaps.mpr ⟨other, apart, wanted, now, new, claimed⟩)
  | broke worker visit act fault found scripted failed =>
      -- Entitled workers have a tag and their resources a cell, so no step of theirs fails.
      obtain ⟨member, _, first, second⟩ := clean.entitled worker visit found
      have returned : (act visitors.occupancy visit.generator).fault = none :=
        Occupancy.act_returns (List.mem_of_getElem? scripted) (Nat.lt_of_lt_of_le member fits)
          (clean.size ▸ first) (clean.size ▸ second)
      cases returned.symm.trans failed

/-- Either two runs have overlapped, which shows for good, or nothing is wrong so far. -/
def Standing (maxHold : Span) (resources workers : Nat) (visitors : Visitors)
    (past : List (Visitors × Move)) : Prop :=
  (∃ moment ∈ past, moment.1.Overlaps maxHold moment.2) ∧ 0 < visitors.occupancy.violations ∨
    (∀ moment ∈ past, ¬ moment.1.Overlaps maxHold moment.2) ∧ visitors.Clean resources workers

theorem Standing.after {past : List (Visitors × Move)}
    (standing : Standing maxHold resources workers visitors past) (fits : workers ≤ wordMax)
    (entitled : move.IsEntitled resources workers)
    (moved : visitors.after maxHold move = some next) :
    Standing maxHold resources workers next (past ++ [(visitors, move)]) := by
  rcases standing with ⟨⟨moment, member, overlaps⟩, violated⟩ | ⟨apart, clean⟩
  · exact .inl ⟨⟨moment, List.mem_append_left _ member, overlaps⟩,
      Nat.lt_of_lt_of_le violated (moved_of_after moved).violations_le⟩
  · rcases clean.after fits entitled moved with ⟨overlaps, violated⟩ | ⟨alone, still⟩
    · exact .inl ⟨⟨_, List.mem_append_right _ List.mem_cons_self, overlaps⟩, violated⟩
    · exact .inr ⟨List.forall_mem_append.mpr ⟨apart, List.forall_mem_singleton.mpr alone⟩, still⟩

/-- The check finds something wrong exactly if at some step a worker has claimed what another had
claimed and not yet vacated.  Up to then each cell has the tag of the one worker that has claimed
its resource, or is free. -/
theorem violated_iff_overlapped {moves : List Move} (fits : workers ≤ wordMax)
    (entitled : ∀ move ∈ moves, move.IsEntitled resources workers)
    (ran : moves.foldlM (after maxHold) (start resources) = some visitors) :
    (0 < visitors.occupancy.violations ↔
      ∃ moment ∈ moments maxHold (start resources) moves, moment.1.Overlaps maxHold moment.2) ∧
    ((∀ moment ∈ moments maxHold (start resources) moves, ¬ moment.1.Overlaps maxHold moment.2) →
      ∀ resource : Resource, resource.index < resources →
        (∃ worker mark, resource ∈ visitors.claims worker ∧
          (∀ other, resource ∈ visitors.claims other → other = worker) ∧
          Occupancy.tag worker = .ok mark ∧
          visitors.occupancy.cells[resource.index]? = some mark) ∨
        (∀ worker, resource ∉ visitors.claims worker) ∧
          visitors.occupancy.cells[resource.index]? = some 0) := by
  have standing : Standing maxHold resources workers visitors
      (moments maxHold (start resources) moves) :=
    foldlM_recorded_of (Move.IsEntitled resources workers) _ [] (Standing maxHold resources workers)
      (fun _ _ _ _ allowed standing moved => standing.after fits allowed moved) entitled ran
      (.inr ⟨nofun, clean_start resources workers⟩)
  rcases standing with ⟨overlapped, violated⟩ | ⟨apart, clean⟩
  · refine ⟨iff_of_true violated overlapped, fun apart => ?_⟩
    obtain ⟨moment, member, overlaps⟩ := overlapped
    exact absurd overlaps (apart moment member)
  · have spotless : ¬ 0 < visitors.occupancy.violations := by
      rw [clean.spotless]
      exact Nat.lt_irrefl 0
    refine ⟨iff_of_false spotless fun ⟨moment, member, overlaps⟩ => apart moment member overlaps,
      fun _ resource inside => ?_⟩
    rcases clean.reflects.cell (clean.size ▸ inside) with ⟨worker, claimed, only, marked⟩ | free
    · obtain ⟨visit, found⟩ : ∃ visit, visitors.visit? worker = some visit := by
        refine Option.ne_none_iff_exists'.mp fun away => ?_
        rw [claims, away] at claimed
        exact List.not_mem_nil claimed
      have member := (clean.entitled worker visit found).member
      exact .inl ⟨worker, _, claimed, only,
        Occupancy.tag_eq (Nat.lt_of_lt_of_le member fits), marked⟩
    · exact .inr free

/-- One worker has claimed both of its resources, of which the other is about to claim one. -/
def aboutToCross : List Move := [
  .enter ⟨0⟩ (⟨0⟩, ⟨1⟩) (.ofSeed 42 0), .enter ⟨1⟩ (⟨1⟩, ⟨2⟩) (.ofSeed 42 1),
  .step ⟨0⟩, .step ⟨0⟩, .step ⟨0⟩, .step ⟨1⟩]

def crossing : List Move := aboutToCross ++ [.step ⟨1⟩]

theorem violated_iff_overlapped_at_a_crossing :
    ∃ before after, aboutToCross.foldlM (Visitors.after .zero) (start 3) = some before ∧
      before.occupancy.cells = [1, 1, 0] ∧
      (∀ moment ∈ moments .zero (start 3) aboutToCross, ¬ moment.1.Overlaps .zero moment.2) ∧
      (∃ worker, ⟨0⟩ ∈ before.claims worker ∧ Occupancy.tag worker = .ok 1) ∧
      crossing.foldlM (Visitors.after .zero) (start 3) = some after ∧
      after.occupancy.cells = [1, 1, 0] ∧
      ∃ moment ∈ moments .zero (start 3) crossing, moment.1.Overlaps .zero moment.2 := by
  have early : (aboutToCross.foldlM (Visitors.after .zero) (start 3)).map (·.occupancy) =
      some { cells := [1, 1, 0], violations := 0, entries := 2 } := by
    decide +kernel
  have late : (crossing.foldlM (Visitors.after .zero) (start 3)).map (·.occupancy) =
      some { cells := [1, 1, 0], violations := 1, entries := 2 } := by
    decide +kernel
  obtain ⟨before, entered, seen⟩ := Option.map_eq_some_iff.mp early
  obtain ⟨after, crossed, found⟩ := Option.map_eq_some_iff.mp late
  obtain ⟨shows, marked⟩ := violated_iff_overlapped (show 2 ≤ wordMax by decide)
    (show ∀ move ∈ aboutToCross, move.IsEntitled 3 2 by decide) entered
  obtain ⟨shown, _⟩ := violated_iff_overlapped (show 2 ≤ wordMax by decide)
    (show ∀ move ∈ crossing, move.IsEntitled 3 2 by decide) crossed
  rw [seen] at shows marked
  rw [found] at shown
  have apart : ∀ moment ∈ moments .zero (start 3) aboutToCross,
      ¬ moment.1.Overlaps .zero moment.2 :=
    fun moment member overlaps => Nat.lt_irrefl 0 (shows.mpr ⟨moment, member, overlaps⟩)
  refine ⟨before, after, entered, congrArg Occupancy.cells seen, apart, ?_, crossed,
    congrArg Occupancy.cells found, shown.mp Nat.one_pos⟩
  rcases marked apart ⟨0⟩ (by decide) with ⟨worker, mark, claimed, _, tagged, same⟩ | ⟨_, free⟩
  · cases same
    exact ⟨worker, claimed, tagged⟩
  · cases free

end Visitors

end Contention
