import Contention.Proofs.Occupancy.Visits
import Contention.Proofs.Rows

namespace Contention

inductive Errand where
  | claim (resource : Resource)
  | vacate (resource : Resource)
deriving DecidableEq

namespace Errand

def resource : Errand → Resource
  | claim resource | vacate resource => resource

def isClaim : Errand → Bool
  | claim _ => true
  | vacate _ => false

def expected (worker : Worker) : Errand → Nat
  | claim _ => 0
  | vacate _ => worker.index + 1

def replacement (worker : Worker) : Errand → Nat
  | claim _ => worker.index + 1
  | vacate _ => 0

def act (occupancy : Occupancy) (worker : Worker) : Errand → Except Fault Occupancy
  | claim resource => occupancy.occupy resource worker
  | vacate resource => occupancy.free resource worker

def fails (cells : List Nat) (worker : Worker) (errand : Errand) : Bool :=
  cells[errand.resource.index]? ≠ some (errand.expected worker)

end Errand

/-- A worker that has a tag, with resources that the pool has. -/
structure OccupancyRun.InRange (resources : Nat) (run : OccupancyRun) : Prop where
  fits : run.worker.index < wordMax
  first : run.pair.1.index < resources
  second : run.pair.2.index < resources

structure Guest where
  run : OccupancyRun
  generator : Random.Generator
  done : Nat := 0

namespace Guest

def next (guest : Guest) (generator : Random.Generator) : Guest :=
  { guest with generator, done := guest.done + 1 }

def isEntered (guest : Guest) : Bool := 0 < guest.done

def isOver (guest : Guest) : Bool := 6 ≤ guest.done

def claims (guest : Guest) : List Resource := Occupancy.claimed guest.run.pair guest.done

def errand? (guest : Guest) : Option Errand :=
  match guest.done with
  | 1 => some (.claim guest.run.pair.1)
  | 2 => some (.claim guest.run.pair.2)
  | 4 => some (.vacate guest.run.pair.2)
  | 5 => some (.vacate guest.run.pair.1)
  | _ => none

end Guest

structure Crowd where
  occupancy : Occupancy
  guests : List Guest

namespace Crowd

def start (resources : Nat) (runs : List (OccupancyRun × Random.Generator)) : Crowd where
  occupancy := .ofSize resources
  guests := runs.map fun (run, generator) => { run, generator }

/-- One of the runs takes its next step.  There is none after the last one, and a step that comes
to a sudden end is none. -/
def after (maxHold : Span) (crowd : Crowd) (index : Nat) : Option Crowd := do
  let guest ← crowd.guests[index]?
  let outcome ← crowd.occupancy.next? maxHold guest.run guest.generator guest.done
  match outcome.fault with
  | some _ => none
  | none => some {
      occupancy := outcome.shared
      guests := crowd.guests.set index (guest.next outcome.generator) }

def failing (crowd : Crowd) (index : Nat) : List Errand :=
  match crowd.guests[index]? with
  | none => []
  | some guest =>
      (guest.errand?.filter fun errand =>
        errand.fails crowd.occupancy.cells guest.run.worker).toList

/-- The errands of a schedule that found their cells otherwise than they should be. -/
def failures (maxHold : Span) (crowd : Crowd) (schedule : List Nat) : List Errand :=
  history (after maxHold) failing crowd schedule

/-- How many claims the runs have made and not taken back. -/
def claimed (crowd : Crowd) : Nat := (crowd.guests.map fun guest => guest.claims.length).sum

end Crowd

def Occupancy.occupied (occupancy : Occupancy) : Nat := occupancy.cells.countP (· ≠ 0)

variable {occupancy later : Occupancy} {crowd next : Crowd} {guest : Guest}
  {worker : Worker} {resource : Resource} {errand : Errand} {maxHold : Span}
  {index mark resources : Nat} {generator : Random.Generator} {past : List Errand}

namespace Occupancy

theorem exchange_cases {expected replacement : Nat}
    (exchanged : occupancy.exchange resource expected replacement = .ok later) :
    occupancy.cells[resource.index]? = some expected ∧
        later = { occupancy with cells := occupancy.cells.set resource.index replacement } ∨
      occupancy.cells[resource.index]? ≠ some expected ∧
        later = { occupancy with violations := occupancy.violations + 1 } := by
  unfold exchange at exchanged
  split at exchanged
  · contradiction
  · rename_i found seen
    split at exchanged <;> cases exchanged
    · subst found
      exact .inl ⟨seen, rfl⟩
    · rename_i other
      exact .inr ⟨fun same => other (Option.some.inj (seen.symm.trans same)), rfl⟩

theorem tagged_exchange {found replacement : Nat → Nat}
    (acted : (do
      let mark ← tag worker
      occupancy.exchange resource (found mark) (replacement mark)) = .ok later) :
    occupancy.exchange resource (found (worker.index + 1)) (replacement (worker.index + 1)) =
      .ok later := by
  unfold tag addWords at acted
  split at acted
  · exact acted
  · contradiction

theorem acts_of_change {act : Occupancy → Except Fault Occupancy}
    (returned : (change act occupancy generator).fault = none) :
    act occupancy = .ok (change act occupancy generator).shared := by
  unfold change at returned ⊢
  split
  · assumption
  · rename_i failed
    simp only [failed] at returned
    contradiction

end Occupancy

theorem Errand.exchange_of_act (acted : errand.act occupancy worker = .ok later) :
    occupancy.exchange errand.resource (errand.expected worker) (errand.replacement worker) =
      .ok later := by
  cases errand with
  | claim resource | vacate resource => exact Occupancy.tagged_exchange acted

theorem Errand.fails_iff (errand : Errand) (cells : List Nat) (worker : Worker) :
    errand.fails cells worker = true ↔
      cells[errand.resource.index]? ≠ some (errand.expected worker) := decide_eq_true_iff

theorem Errand.occupied_set {cells : List Nat}
    (seen : cells[errand.resource.index]? = some (errand.expected worker)) :
    (cells.set errand.resource.index (errand.replacement worker)).countP (· ≠ 0) +
        (if ! errand.isClaim then 1 else 0) =
      cells.countP (· ≠ 0) + (if errand.isClaim then 1 else 0) := by
  have counted := countP_set_add (· ≠ 0) seen (errand.replacement worker)
  cases errand with
  | claim resource | vacate resource => exact counted

namespace Guest

theorem claims_next_of_claim (generator : Random.Generator)
    (bound : guest.errand? = some (.claim resource)) :
    (guest.next generator).claims = guest.claims ++ [resource] := by
  obtain ⟨⟨worker, pair⟩, generator, done⟩ := guest
  unfold Guest.errand? at bound
  split at bound <;> cases bound <;> subst_vars <;> rfl

theorem claims_next_of_vacate (generator : Random.Generator)
    (bound : guest.errand? = some (.vacate resource)) :
    guest.claims = (guest.next generator).claims ++ [resource] := by
  obtain ⟨⟨worker, pair⟩, generator, done⟩ := guest
  unfold Guest.errand? at bound
  split at bound <;> cases bound <;> subst_vars <;> rfl

theorem length_claims_next (generator : Random.Generator)
    (bound : guest.errand? = some errand) :
    (guest.next generator).claims.length + (if ! errand.isClaim then 1 else 0) =
      guest.claims.length + (if errand.isClaim then 1 else 0) := by
  cases errand with
  | claim resource =>
      rw [claims_next_of_claim generator bound, List.length_append]
      rfl
  | vacate resource =>
      rw [claims_next_of_vacate generator bound, List.length_append]
      rfl

theorem isEntered_of_bound (bound : guest.errand? = some errand) :
    guest.isEntered = true := by
  refine decide_eq_true (Nat.pos_of_ne_zero fun fresh => ?_)
  rw [Guest.errand?, fresh] at bound
  contradiction

inductive Acted (occupancy : Occupancy) (guest : Guest) : Occupancy → Prop
  | entered (fresh : guest.done = 0) : Acted occupancy guest occupancy.enter
  | held (holding : guest.done = 3) : Acted occupancy guest occupancy
  | served (errand : Errand) (after : Occupancy) (bound : guest.errand? = some errand)
      (acted : errand.act occupancy guest.run.worker = .ok after) : Acted occupancy guest after

theorem acted_of_script {act : Section.Step Occupancy}
    (scripted : ((Occupancy.criticalSection maxHold).script
      guest.run.worker guest.run.pair)[guest.done]? = some act)
    (returned : (act occupancy guest.generator).fault = none) :
    guest.Acted occupancy (act occupancy guest.generator).shared := by
  have changed : ∀ errand : Errand, guest.errand? = some errand →
      act = Occupancy.change (errand.act · guest.run.worker) →
      guest.Acted occupancy (act occupancy guest.generator).shared := by
    rintro errand bound rfl
    exact .served errand _ bound (Occupancy.acts_of_change returned)
  -- one case for each step of the script
  obtain ⟨⟨worker, pair⟩, generator, done⟩ := guest
  match done, scripted with
  | 0, scripted =>
      cases scripted
      exact .entered rfl
  | 1, scripted =>
      cases scripted
      exact changed (.claim pair.1) rfl rfl
  | 2, scripted =>
      cases scripted
      exact changed (.claim pair.2) rfl rfl
  | 3, scripted =>
      cases scripted
      exact .held rfl
  | 4, scripted =>
      cases scripted
      exact changed (.vacate pair.2) rfl rfl
  | 5, scripted =>
      cases scripted
      exact changed (.vacate pair.1) rfl rfl

end Guest

namespace Crowd

theorem acted_of_after (moved : crowd.after maxHold index = some next) :
    ∃ guest generator later, crowd.guests[index]? = some guest ∧
      next = { occupancy := later, guests := crowd.guests.set index (guest.next generator) } ∧
      guest.Acted crowd.occupancy later := by
  obtain ⟨guest, found, rest⟩ := Option.bind_eq_some_iff.mp moved
  obtain ⟨_, next, rest⟩ := Option.bind_eq_some_iff.mp rest
  obtain ⟨act, scripted, rfl⟩ := Option.map_eq_some_iff.mp next
  split at rest
  · contradiction
  · cases rest
    exact ⟨guest, _, _, found, rfl, Guest.acted_of_script scripted ‹_›⟩

/-- The check's counts, and the cells with the claims that they stand for. -/
structure Tallied (crowd : Crowd) (past : List Errand) : Prop where
  violations : crowd.occupancy.violations = past.length
  entries : crowd.occupancy.entries = crowd.guests.countP Guest.isEntered
  balance : past.countP (! ·.isClaim) + crowd.claimed =
    past.countP Errand.isClaim + crowd.occupancy.occupied
  owned : ∀ (resource : Resource) mark, crowd.occupancy.cells[resource.index]? = some (mark + 1) →
    ∃ guest ∈ crowd.guests, guest.run.worker.index = mark ∧ resource ∈ guest.claims

theorem tallied_start (resources : Nat) (runs : List (OccupancyRun × Random.Generator)) :
    (start resources runs).Tallied [] where
  violations := rfl
  entries := by
    refine (List.countP_eq_zero.mpr fun guest member => ?_).symm
    obtain ⟨_, _, rfl⟩ := List.mem_map.mp member
    exact Bool.false_ne_true
  balance := by
    have idle : (start resources runs).claimed = 0 := by
      refine List.sum_eq_zero_iff_forall_eq_nat.mpr fun count member => ?_
      obtain ⟨guest, among, rfl⟩ := List.mem_map.mp member
      obtain ⟨_, _, rfl⟩ := List.mem_map.mp among
      rfl
    have free : (start resources runs).occupancy.occupied = 0 :=
      List.countP_eq_zero.mpr fun mark member => by simp [List.eq_of_mem_replicate member]
    rw [idle, free]
    rfl
  owned := fun resource mark found =>
    absurd (List.eq_of_mem_replicate (List.mem_of_getElem? found)) (Nat.succ_ne_zero mark)

theorem Tallied.owned_set (tallied : crowd.Tallied past) (found : crowd.guests[index]? = some guest)
    (generator : Random.Generator)
    (marked : crowd.occupancy.cells[resource.index]? = some (mark + 1))
    (kept : guest.run.worker.index = mark → resource ∈ guest.claims →
      resource ∈ (guest.next generator).claims) :
    ∃ owner ∈ crowd.guests.set index (guest.next generator),
      owner.run.worker.index = mark ∧ resource ∈ owner.claims := by
  obtain ⟨owner, member, same, claims⟩ := tallied.owned resource mark marked
  obtain ⟨before, rest, split, changed⟩ := set_split found (guest.next generator)
  rw [split] at member
  rw [changed]
  rcases List.mem_append.mp member with early | late
  · exact ⟨owner, List.mem_append_left _ early, same, claims⟩
  · rcases List.mem_cons.mp late with rfl | late
    · exact ⟨_, List.mem_append_right _ List.mem_cons_self, same, kept same claims⟩
    · exact ⟨owner, List.mem_append_right _ (List.mem_cons_of_mem _ late), same, claims⟩

theorem Tallied.extend {failed : List Errand} (tallied : crowd.Tallied past)
    (found : crowd.guests[index]? = some guest)
    (guests : next.guests = crowd.guests.set index (guest.next generator))
    (violations : next.occupancy.violations = crowd.occupancy.violations + failed.length)
    (entries : next.occupancy.entries + (if guest.isEntered then 1 else 0) =
      crowd.occupancy.entries + 1)
    (balance : failed.countP (! ·.isClaim) + (guest.next generator).claims.length +
        crowd.occupancy.occupied =
      failed.countP Errand.isClaim + guest.claims.length + next.occupancy.occupied)
    (owned : ∀ (resource : Resource) mark,
      next.occupancy.cells[resource.index]? = some (mark + 1) →
      ∃ owner ∈ crowd.guests.set index (guest.next generator),
        owner.run.worker.index = mark ∧ resource ∈ owner.claims) :
    next.Tallied (past ++ failed) where
  violations := by
    rw [violations, tallied.violations, List.length_append]
  entries := by
    have counted := countP_set_add Guest.isEntered found (guest.next generator)
    have begun : (guest.next generator).isEntered = true := decide_eq_true (Nat.succ_pos _)
    rw [if_pos begun, ← tallied.entries, ← entries] at counted
    rw [guests]
    exact (Nat.add_right_cancel counted).symm
  balance := by
    have summed := sum_set_add (·.claims.length) found (guest.next generator)
    have balanced := tallied.balance
    simp only [claimed, guests, List.countP_append] at balanced ⊢
    omega
  owned := by
    rw [guests]
    exact owned

theorem Tallied.quiet (tallied : crowd.Tallied past) (found : crowd.guests[index]? = some guest)
    (guests : next.guests = crowd.guests.set index (guest.next generator))
    (claims : (guest.next generator).claims = guest.claims)
    (cells : next.occupancy.cells = crowd.occupancy.cells)
    (violations : next.occupancy.violations = crowd.occupancy.violations)
    (entries : next.occupancy.entries + (if guest.isEntered then 1 else 0) =
      crowd.occupancy.entries + 1) :
    next.Tallied past := by
  rw [← List.append_nil past]
  refine tallied.extend found guests violations entries ?_ fun resource mark marked => ?_
  · rw [Occupancy.occupied, Occupancy.occupied, claims, cells]
    rfl
  · rw [cells] at marked
    exact tallied.owned_set found generator marked fun _ claimed => claims ▸ claimed

theorem failing_of_bound (found : crowd.guests[index]? = some guest)
    (bound : guest.errand? = some errand) :
    crowd.failing index =
      if errand.fails crowd.occupancy.cells guest.run.worker then [errand] else [] := by
  simp only [failing, found, bound, Option.filter_some]
  split <;> rfl

theorem Tallied.lost (tallied : crowd.Tallied past) (found : crowd.guests[index]? = some guest)
    (guests : next.guests = crowd.guests.set index (guest.next generator))
    (bound : guest.errand? = some errand)
    (taken :
      crowd.occupancy.cells[errand.resource.index]? ≠ some (errand.expected guest.run.worker))
    (occupancy : next.occupancy =
      { crowd.occupancy with violations := crowd.occupancy.violations + 1 }) :
    next.Tallied (past ++ [errand]) := by
  refine tallied.extend found guests ?_ ?_ ?_ fun wanted mark marked => ?_
  · rw [occupancy]
    rfl
  · rw [occupancy, if_pos (Guest.isEntered_of_bound bound)]
  · have claims := Guest.length_claims_next generator bound
    rw [occupancy, List.countP_singleton, List.countP_singleton]
    simp only [Occupancy.occupied]
    omega
  · rw [occupancy] at marked
    refine tallied.owned_set found generator marked fun same claimed => ?_
    cases errand with
    | claim resource =>
        rw [Guest.claims_next_of_claim generator bound]
        exact List.mem_append_left _ claimed
    | vacate resource =>
        rw [Guest.claims_next_of_vacate generator bound] at claimed
        rcases List.mem_append.mp claimed with still | vacated
        · exact still
        · -- its own mark it would have found
          rw [List.mem_singleton.mp vacated, ← same] at marked
          exact absurd marked taken

theorem Tallied.won (tallied : crowd.Tallied past) (found : crowd.guests[index]? = some guest)
    (guests : next.guests = crowd.guests.set index (guest.next generator))
    (bound : guest.errand? = some errand)
    (seen : crowd.occupancy.cells[errand.resource.index]? = some (errand.expected guest.run.worker))
    (occupancy : next.occupancy = { crowd.occupancy with
      cells := crowd.occupancy.cells.set errand.resource.index
        (errand.replacement guest.run.worker) }) :
    next.Tallied past := by
  rw [← List.append_nil past]
  refine tallied.extend found guests ?_ ?_ ?_ fun wanted mark marked => ?_
  · rw [occupancy]
    rfl
  · rw [occupancy, if_pos (Guest.isEntered_of_bound bound)]
  · have claims := Guest.length_claims_next generator bound
    have cells := Errand.occupied_set seen
    rw [occupancy]
    simp only [Occupancy.occupied, List.countP_nil]
    omega
  · rw [occupancy] at marked
    by_cases here : wanted.index = errand.resource.index
    · -- after a claim the mark is the claimant's, after a vacating there is none
      obtain ⟨inside, _⟩ := List.getElem?_eq_some_iff.mp seen
      rw [here, List.getElem?_set_self inside, Option.some_inj] at marked
      cases errand with
      | claim resource =>
          refine ⟨_, List.mem_set (List.getElem?_eq_some_iff.mp found).1 _, Nat.succ.inj marked, ?_⟩
          rw [Guest.claims_next_of_claim generator bound]
          exact List.mem_append_right _ (List.mem_singleton.mpr (congrArg Resource.mk here))
      | vacate resource => contradiction
    · rw [List.getElem?_set_ne (Ne.symm here)] at marked
      refine tallied.owned_set found generator marked fun _ claimed => ?_
      cases errand with
      | claim resource =>
          rw [Guest.claims_next_of_claim generator bound]
          exact List.mem_append_left _ claimed
      | vacate resource =>
          rw [Guest.claims_next_of_vacate generator bound] at claimed
          rcases List.mem_append.mp claimed with still | vacated
          · exact still
          · exact absurd (congrArg Resource.index (List.mem_singleton.mp vacated)) here

theorem failing_of_none (found : crowd.guests[index]? = some guest)
    (idle : guest.errand? = none) : crowd.failing index = [] := by
  simp only [failing, found, idle, Option.filter_none, Option.toList_none]

theorem Tallied.after (tallied : crowd.Tallied past)
    (moved : crowd.after maxHold index = some next) :
    next.Tallied (past ++ crowd.failing index) := by
  obtain ⟨guest, generator, later, found, rfl, acted⟩ := acted_of_after moved
  cases acted with
  | entered fresh =>
      rw [failing_of_none found (by simp only [Guest.errand?, fresh]), List.append_nil]
      refine tallied.quiet found rfl ?_ rfl rfl ?_
      · simp only [Guest.claims, Guest.next, fresh, Occupancy.claimed]
      · rw [Guest.isEntered, fresh]
        rfl
  | held holding =>
      rw [failing_of_none found (by simp only [Guest.errand?, holding]), List.append_nil]
      refine tallied.quiet found rfl ?_ rfl rfl ?_
      · simp only [Guest.claims, Guest.next, holding, Occupancy.claimed]
      · rw [Guest.isEntered, holding]
        rfl
  | served errand _ bound acted =>
      rw [failing_of_bound found bound]
      rcases Occupancy.exchange_cases (Errand.exchange_of_act acted) with
        ⟨seen, changed⟩ | ⟨taken, changed⟩
      · rw [if_neg (by rw [Errand.fails_iff]; exact not_not_intro seen), List.append_nil]
        exact tallied.won found rfl bound seen changed
      · rw [if_pos ((Errand.fails_iff ..).mpr taken)]
        exact tallied.lost found rfl bound taken changed

theorem tallied_of_run {runs : List (OccupancyRun × Random.Generator)} {schedule : List Nat}
    (ran : schedule.foldlM (after maxHold) (start resources runs) = some crowd) :
    crowd.Tallied (failures maxHold (start resources runs) schedule) :=
  foldlM_recorded failing [] Tallied (fun _ _ _ _ tallied moved => tallied.after moved) ran
    (tallied_start resources runs)

theorem Tallied.emptied (tallied : crowd.Tallied past)
    (finished : ∀ guest ∈ crowd.guests, guest.isOver = true) :
    crowd.claimed = 0 ∧ crowd.occupancy.occupied = 0 := by
  have nothing : ∀ guest ∈ crowd.guests, guest.claims = [] := by
    intro guest member
    obtain ⟨more, done⟩ := Nat.exists_eq_add_of_le' (of_decide_eq_true (finished guest member))
    rw [Guest.claims, done]
    rfl
  constructor
  · refine List.sum_eq_zero_iff_forall_eq_nat.mpr fun count member => ?_
    obtain ⟨guest, among, rfl⟩ := List.mem_map.mp member
    rw [nothing guest among]
    rfl
  · refine List.countP_eq_zero.mpr fun mark member marked => ?_
    obtain ⟨place, _, found⟩ := List.getElem_of_mem member
    obtain ⟨lower, rfl⟩ := Nat.exists_eq_succ_of_ne_zero (of_decide_eq_true marked)
    obtain ⟨owner, among, _, claims⟩ :=
      tallied.owned ⟨place⟩ lower (List.getElem?_eq_some_iff.mpr ⟨_, found⟩)
    rw [nothing owner among] at claims
    exact List.not_mem_nil claims

structure Housed (resources : Nat) (runs : List OccupancyRun) (crowd : Crowd) : Prop where
  size : crowd.occupancy.cells.length = resources
  runs : crowd.guests.map Guest.run = runs

theorem housed_start (resources : Nat) (runs : List (OccupancyRun × Random.Generator)) :
    (start resources runs).Housed resources (runs.map Prod.fst) where
  size := List.length_replicate
  runs := List.map_map

theorem Housed.after {runs : List OccupancyRun} (housed : crowd.Housed resources runs)
    (moved : crowd.after maxHold index = some next) : next.Housed resources runs := by
  obtain ⟨guest, generator, later, found, rfl, acted⟩ := acted_of_after moved
  constructor
  · cases acted with
    | entered | held => exact housed.size
    | served errand _ bound acted =>
        rcases Occupancy.exchange_cases (Errand.exchange_of_act acted) with ⟨_, rfl⟩ | ⟨_, rfl⟩
        · exact List.length_set.trans housed.size
        · exact housed.size
  · obtain ⟨before, rest, split, changed⟩ := set_split found (guest.next generator)
    have kept := housed.runs
    rw [split] at kept
    rw [changed, ← kept, List.map_append, List.map_append]
    rfl

/-- Runs in range take all of their steps, whatever the others do. -/
theorem Housed.after_exists {runs : List OccupancyRun} (housed : crowd.Housed resources runs)
    (entitled : ∀ run ∈ runs, run.InRange resources) (found : crowd.guests[index]? = some guest)
    (unfinished : guest.isOver = false) (maxHold : Span) :
    ∃ next, Crowd.after maxHold crowd index = some next := by
  obtain ⟨fits, first, second⟩ := entitled guest.run (by
    rw [← housed.runs]
    exact List.mem_map_of_mem (List.mem_of_getElem? found))
  have early : guest.done < 6 := Nat.lt_of_not_le (of_decide_eq_false unfinished)
  obtain ⟨act, scripted⟩ : ∃ act, ((Occupancy.criticalSection maxHold).script
      guest.run.worker guest.run.pair)[guest.done]? = some act :=
    ⟨_, List.getElem?_eq_getElem early⟩
  have returned : (act crowd.occupancy guest.generator).fault = none :=
    Occupancy.act_returns (List.mem_of_getElem? scripted) fits
      (housed.size ▸ first) (housed.size ▸ second)
  simp only [Crowd.after, Occupancy.next?, found, scripted, returned, Option.bind_eq_bind,
    Option.bind_some, Option.map_some]
  exact ⟨_, rfl⟩

/-- Every errand that finds its cell otherwise than it should be is a violation, and no violation
is anything else.  Once every run is over, half of them are claims of occupied resources.  Runs in
range do come to their ends. -/
theorem violations_count_both_ends {runs : List (OccupancyRun × Random.Generator)}
    {schedule : List Nat}
    (ran : schedule.foldlM (after maxHold) (start resources runs) = some crowd) :
    crowd.occupancy.violations = (failures maxHold (start resources runs) schedule).length ∧
    crowd.occupancy.entries = crowd.guests.countP Guest.isEntered ∧
    ((∀ guest ∈ crowd.guests, guest.isOver = true) →
      crowd.occupancy.violations =
        2 * (failures maxHold (start resources runs) schedule).countP Errand.isClaim ∧
      crowd.occupancy.entries = runs.length) ∧
    ((∀ run ∈ runs, run.1.InRange resources) → ∀ index guest, crowd.guests[index]? = some guest →
      guest.isOver = false → ∃ next, crowd.after maxHold index = some next) := by
  have tallied := tallied_of_run ran
  have housed : crowd.Housed resources (runs.map Prod.fst) :=
    foldlM_invariant _ (fun _ _ _ housed moved => housed.after moved) ran
      (housed_start resources runs)
  refine ⟨tallied.violations, tallied.entries, fun finished => ?_, fun entitled => ?_⟩
  · obtain ⟨unclaimed, free⟩ := tallied.emptied finished
    have balance := tallied.balance
    rw [unclaimed, free] at balance
    constructor
    · rw [tallied.violations, List.length_eq_countP_add_countP Errand.isClaim]
      simp only [Bool.not_eq_true, Bool.decide_eq_false] at balance ⊢
      omega
    · have all : crowd.guests.countP Guest.isEntered = crowd.guests.length :=
        List.countP_eq_length.mpr fun guest member =>
          decide_eq_true
            (Nat.lt_of_lt_of_le (by decide) (of_decide_eq_true (finished guest member)))
      have count := congrArg List.length housed.runs
      rw [List.length_map, List.length_map] at count
      rw [tallied.entries, all, count]
  · intro index guest found unfinished
    refine housed.after_exists ?_ found unfinished maxHold
    intro run member
    obtain ⟨pair, among, rfl⟩ := List.mem_map.mp member
    exact entitled pair among

def twice : List (OccupancyRun × Random.Generator) :=
  [({ worker := ⟨0⟩, pair := (⟨0⟩, ⟨0⟩) }, .ofSeed 1 0)]

theorem violations_count_both_ends_of_a_pair_twice :
    ∃ crowd, (List.replicate 6 0).foldlM (Crowd.after .zero) (start 1 twice) = some crowd ∧
      crowd.occupancy.violations = 2 ∧
      (failures .zero (start 1 twice) (List.replicate 6 0)).countP Errand.isClaim = 1 ∧
      crowd.occupancy.entries = 1 := by
  have played : ((List.replicate 6 0).foldlM (Crowd.after .zero) (start 1 twice)).map
      (fun crowd => (crowd.occupancy, crowd.guests.all Guest.isOver)) =
      some ({ cells := [0], violations := 2, entries := 1 }, true) := by
    decide +kernel
  obtain ⟨crowd, ran, seen⟩ := Option.map_eq_some_iff.mp played
  obtain ⟨occupancy, finished⟩ := Prod.mk.inj seen
  obtain ⟨_, _, ended, _⟩ := violations_count_both_ends ran
  obtain ⟨doubled, entries⟩ := ended (List.all_eq_true.mp finished)
  rw [occupancy] at doubled
  refine ⟨crowd, ran, congrArg Occupancy.violations occupancy, ?_, entries⟩
  exact (Nat.eq_of_mul_eq_mul_left Nat.two_pos doubled).symm

end Crowd

end Contention
