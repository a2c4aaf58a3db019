import Contention.Proofs.Workshop.Outcomes
import Contention.Proofs.Workshop.Steps

namespace Contention

namespace Record

variable {record : Record} {resource : Resource}

def Compact (record : Record) : Prop := record.second.isSome = true → record.first.isSome = true

theorem Compact.size_held (compact : record.Compact) :
    record.held.size = 2 ↔ record.second.isSome = true := by
  unfold Compact at compact
  unfold Holding.size held
  cases first : record.first <;> cases second : record.second <;>
    simp_all [Holding.ofCells, Holding.toList]

theorem held_note (empty : record.second = none) (fits : resource.index < wordMax) :
    (record.note resource).held.toList = record.held.toList ++ [resource] := by
  cases first : record.first <;>
    simp [note, held, Holding.ofCells, Holding.toList, first, empty, cellOf_eq_some fits]

theorem compact_note (empty : record.second = none) (fits : resource.index < wordMax) :
    (record.note resource).Compact := by
  cases first : record.first <;> simp [Compact, note, first, empty, cellOf_eq_some fits]

theorem note_lastProgress : (record.note resource).lastProgress = record.lastProgress := by
  cases first : record.first <;> simp [note, first]

theorem note_completed : (record.note resource).completed = record.completed := by
  cases first : record.first <;> simp [note, first]

theorem held_clearSecond (second : record.second = some resource) :
    record.clearSecond.held.toList = record.held.toList.erase resource := by
  cases first : record.first with
  | none => simp [clearSecond, held, Holding.ofCells, Holding.toList, first, second]
  | some old =>
      by_cases same : old = resource <;>
        simp [clearSecond, held, Holding.ofCells, Holding.toList, first, second, same]

theorem held_moveUp (first : record.first = some resource) :
    record.moveUp.clearSecond.held.toList = record.held.toList.erase resource := by
  cases second : record.second <;>
    simp [moveUp, clearSecond, held, Holding.ofCells, Holding.toList, first, second]

end Record

namespace Workshop

variable {shop next : Workshop} {worker : Worker} {site : Site} {guard : Guard} {record : Record}

/-- Nothing but the record of one worker and the lock of one resource has changed. -/
structure Confined (before after : Workshop) (worker : Worker) (site : Site) : Prop where
  size : after.board.size = before.board.size
  records : ∀ other, other ≠ worker → after.board.record? other = before.board.record? other
  room : ∀ pool, after.room pool = before.room pool
  locks : ∀ other, other ≠ site → after.isHeld other = before.isHeld other
  guards : ∀ guard, guard.site ≠ site → (guard ∈ after.guards ↔ guard ∈ before.guards)

/-- The guard is used up and its lock is free. -/
structure Frees (before after : Workshop) (guard : Guard) : Prop where
  locks : ∀ site, after.isHeld site = true ↔ before.isHeld site = true ∧ site ≠ guard.site
  guards : ∀ other, other ∈ after.guards ↔ other ∈ before.guards ∧ other ≠ guard

/-- What the worker's record shows now; its count and its time are those of the old one. -/
def Shows (shop : Workshop) (worker : Worker) (old : Record) (held : List Resource)
    (awaiting : Option Resource) : Prop :=
  ∃ record, shop.board.record? worker = some record ∧ record.held.toList = held ∧
    record.awaiting = awaiting ∧ record.lastProgress = old.lastProgress ∧
    record.completed = old.completed

/-- The worker has got a resource: its new guard is the last one, and the resource the last on
its record. -/
structure Gains (before after : Workshop) (worker : Worker) (site : Site) : Prop where
  locked : after.isHeld site = true
  guards : after.guards = before.guards ++ [before.nextGuard worker site]
  record : ∃ old, before.board.record? worker = some old ∧
    after.Shows worker old (old.held.toList ++ [site.resource]) none
  activity : ∀ other, after.activity other = if other = worker then .idle else before.activity other
  confined : Confined before after worker site

/-- The worker has announced a resource and does nothing but wait for it. -/
structure Blocks (before after : Workshop) (worker : Worker) (site : Site) : Prop where
  pools : after.pools = before.pools
  guards : after.guards = before.guards
  record : ∃ old, before.board.record? worker = some old ∧
    after.Shows worker old old.held.toList (some site.resource)
  activity : ∀ other,
    after.activity other = if other = worker then .locking site else before.activity other
  confined : Confined before after worker site

structure Returns (before after : Workshop) (worker : Worker) (guard : Guard) : Prop where
  frees : Frees before after guard
  record : ∃ old, before.board.record? worker = some old ∧
    after.Shows worker old (old.held.toList.erase guard.site.resource) old.awaiting
  activity : ∀ other, after.activity other = before.activity other
  confined : Confined before after worker guard.site

structure Acquisition (shop : Workshop) (worker : Worker) (record : Record) (site : Site) :
    Prop where
  fails : (shop.acquire worker site).fault.isSome = true ↔
    record.held.size = 2 ∨ ¬ shop.Contains site
  full : record.held.size = 2 →
    shop.acquire worker site = { shop, fault := some (.alreadyHoldsTwo worker) }
  outside : record.held.size ≠ 2 → ¬ shop.Contains site →
    (shop.acquire worker site).fault =
        some (.outOfBounds (shop.room site.pool) site.resource.index) ∧
      (shop.acquire worker site).shop =
        shop.rewrite worker fun record => { record with awaiting := cellOf site.resource }
  taken : shop.isHeld site = false → (shop.acquire worker site).fault = none →
    (shop.acquire worker site).shop.Shows worker record
        (record.held.toList ++ [site.resource]) none ∧
      (shop.acquire worker site).shop.isHeld site = true ∧
      (shop.acquire worker site).shop.guards = shop.guards ++ [shop.nextGuard worker site]
  confined : Confined shop (shop.acquire worker site).shop worker site

structure Restitution (shop : Workshop) (worker : Worker) (record : Record) (guard : Guard) :
    Prop where
  fails : (shop.release worker guard).fault.isSome = true ↔
    guard.site.resource ∉ record.held.toList
  unrecorded : guard.site.resource ∉ record.held.toList →
    (shop.release worker guard).fault =
        some (.neverRecorded worker guard.site.resource record.first) ∧
      (shop.release worker guard).shop.board = shop.board
  recorded : guard.site.resource ∈ record.held.toList →
    (shop.release worker guard).shop.Shows worker record
      (record.held.toList.erase guard.site.resource) record.awaiting
  frees : Frees shop (shop.release worker guard).shop guard
  confined : Confined shop (shop.release worker guard).shop worker guard.site

theorem Confined.rewrite (confined : Confined shop next worker site) (change : Record → Record) :
    Confined shop (next.rewrite worker change) worker site where
  size := (Board.size_update _ _ _).trans confined.size
  records := by
    intro other different
    simp only [Workshop.rewrite, Board.record?_update, if_neg different.symm]
    exact confined.records other different
  room := confined.room
  locks := confined.locks
  guards := confined.guards

theorem Confined.setActivity (confined : Confined shop next worker site) (activity : Activity) :
    Confined shop (next.setActivity worker activity) worker site :=
  ⟨confined.size, confined.records, confined.room, confined.locks, confined.guards⟩

theorem Confined.refl (shop : Workshop) (worker : Worker) (site : Site) :
    Confined shop shop worker site :=
  ⟨rfl, fun _ _ => rfl, fun _ => rfl, fun _ _ => rfl, fun _ _ => Iff.rfl⟩

theorem confined_lock (inside : shop.Contains site) :
    Confined shop (shop.lock worker site).1 worker site where
  size := rfl
  records _ _ := rfl
  room := (frame_lock shop worker site).room
  locks := by
    intro other different
    rw [isHeld_lock inside, decide_eq_false different, Bool.false_or]
  guards := by
    intro guard different
    have new : guard ≠ shop.nextGuard worker site := fun same =>
      different (congrArg Guard.site same)
    simp only [lock, List.mem_append, List.mem_singleton]
    exact or_iff_left new

theorem Guarded.frees (guarded : shop.Guarded) (live : guard ∈ shop.guards) :
    Frees shop (shop.free guard) guard where
  locks := by
    intro site
    rw [isHeld_free, Bool.and_eq_true, Bool.not_eq_true', decide_eq_false_iff_not]
    exact and_comm
  guards := by
    intro other
    simp only [Workshop.free, List.mem_filter, decide_eq_true_eq]
    apply and_congr_right
    intro otherLive
    constructor
    · exact fun different same => different (congrArg Guard.number same)
    · exact fun different same => different (guarded.eq_of_number otherLive live same)

theorem Frees.rewrite (frees : Frees shop next guard) (change : Record → Record) :
    Frees shop (next.rewrite worker change) guard :=
  ⟨frees.locks, frees.guards⟩

theorem Frees.confined (frees : Frees shop (shop.free guard) guard) (worker : Worker) :
    Confined shop (shop.free guard) worker guard.site where
  size := rfl
  records _ _ := rfl
  room pool := room_modify pool guard.site.pool (Pool.size_unlock · guard.site.resource)
  locks := by
    intro other different
    simpa [different] using frees.locks other
  guards := by
    intro other different
    have apart : other ≠ guard := fun same => different (congrArg Guard.site same)
    simpa [apart] using frees.guards other

theorem gains_of_lock {change : Record → Record} (onBoard : shop.OnBoard worker)
    (inside : shop.Contains site) (found : shop.board.record? worker = some record)
    (held : (change record).held.toList = record.held.toList ++ [site.resource])
    (rest : (change record).awaiting = none ∧
      (change record).lastProgress = record.lastProgress ∧
      (change record).completed = record.completed) :
    Gains shop (((shop.lock worker site).1.rewrite worker change).setActivity worker .idle) worker
      site where
  locked := by
    change (shop.lock worker site).1.isHeld site = true
    simp [isHeld_lock inside]
  guards := rfl
  record := ⟨record, found, _, record?_rewrite found, held, rest⟩
  activity _ := activity_setActivity onBoard
  confined := ((confined_lock inside).rewrite change).setActivity .idle

theorem Orderly.acquire_gains (orderly : shop.Orderly)
    (found : shop.board.record? worker = some record) (idle : shop.activity worker = .idle)
    (empty : record.second = none) (inside : shop.Contains site)
    (unheld : shop.isHeld site = false) :
    (shop.acquire worker site).fault = none ∧
      Gains shop (shop.acquire worker site).shop worker site := by
  have onBoard := orderly.onBoard found
  rw [acquire_free found onBoard idle empty inside unheld]
  refine ⟨rfl, ?_⟩
  rw [← @setActivity_idle ((shop.lock worker site).1.rewrite worker _) worker idle]
  apply gains_of_lock onBoard inside found
  · exact Record.held_note empty (orderly.cell_fits inside)
  · exact ⟨rfl, Record.note_lastProgress, Record.note_completed⟩

theorem Orderly.acquire_blocks (orderly : shop.Orderly)
    (found : shop.board.record? worker = some record) (empty : record.second = none)
    (held : shop.isHeld site = true) :
    (shop.acquire worker site).fault = none ∧
      Blocks shop (shop.acquire worker site).shop worker site := by
  have onBoard := orderly.onBoard found
  have cell := cellOf_eq_some (orderly.cell_fits (isHeld_contains held))
  rw [acquire_held found onBoard empty held]
  exact ⟨rfl, {
    pools := rfl
    guards := rfl
    record := ⟨record, found, _, record?_rewrite found, rfl, cell, rfl, rfl⟩
    activity := fun _ => activity_setActivity onBoard
    confined := ((Confined.refl shop worker site).rewrite _).setActivity _ }⟩

theorem Orderly.resume_gains (orderly : shop.Orderly)
    (found : shop.board.record? worker = some record)
    (locking : shop.activity worker = .locking site) (empty : record.second = none)
    (unheld : shop.isHeld site = false) :
    Gains shop (shop.resume worker).shop worker site := by
  have onBoard := orderly.onBoard found
  have inside := orderly.inside worker site locking
  rw [resume_free onBoard locking inside unheld]
  apply gains_of_lock onBoard inside found
  · exact Record.held_note empty (orderly.cell_fits inside)
  · exact ⟨rfl, Record.note_lastProgress, Record.note_completed⟩

theorem Orderly.acquisition (orderly : shop.Orderly)
    (found : shop.board.record? worker = some record) (idle : shop.activity worker = .idle)
    (compact : record.Compact) (site : Site) : Acquisition shop worker record site := by
  have onBoard := orderly.onBoard found
  cases second : record.second with
  | some resource =>
      -- refused before anything is announced
      have full : record.held.size = 2 := compact.size_held.mpr (by rw [second]; rfl)
      have refused := acquire_full found (by rw [second]; rfl) site
      exact {
        fails := by simp [refused, full]
        full := fun _ => refused
        outside := fun room => absurd full room
        taken := by simp [refused]
        confined := by
          rw [refused]
          exact .refl shop worker site }
  | none =>
      have room : record.held.size ≠ 2 := by
        rw [ne_eq, compact.size_held, second]
        exact Bool.false_ne_true
      by_cases inside : shop.Contains site
      · cases held : shop.isHeld site with
        | true =>
            -- announced, and the lock call does not return
            obtain ⟨clean, blocks⟩ := orderly.acquire_blocks found second held
            exact {
              fails := by simp [clean, room, inside]
              full := fun full => absurd full room
              outside := fun _ outside => absurd inside outside
              taken := by simp [held]
              confined := blocks.confined }
        | false =>
            obtain ⟨clean, gains⟩ := orderly.acquire_gains found idle second inside held
            obtain ⟨old, stored, shows⟩ := gains.record
            cases found.symm.trans stored
            exact {
              fails := by simp [clean, room, inside]
              full := fun full => absurd full room
              outside := fun _ outside => absurd inside outside
              taken := fun _ _ => ⟨shows, gains.locked, gains.guards⟩
              confined := gains.confined }
      · have failed := acquire_outside found onBoard idle second inside
        exact {
          fails := by simp [failed, room, inside]
          full := fun full => absurd full room
          outside := by
            rw [failed]
            exact fun _ _ => ⟨rfl, rfl⟩
          taken := by simp [failed]
          confined := by
            rw [failed]
            exact (Confined.refl shop worker site).rewrite _ }

theorem Guarded.returns (guarded : shop.Guarded) {change : Record → Record}
    (found : shop.board.record? worker = some record) (live : guard ∈ shop.guards)
    (held : (change record).held.toList = record.held.toList.erase guard.site.resource)
    (rest : (change record).awaiting = record.awaiting ∧
      (change record).lastProgress = record.lastProgress ∧
      (change record).completed = record.completed) :
    Returns shop ((shop.free guard).rewrite worker change) worker guard where
  frees := (guarded.frees live).rewrite change
  record := ⟨record, found, _, record?_rewrite found, held, rest⟩
  activity _ := rfl
  confined := ((guarded.frees live).confined worker).rewrite change

theorem Orderly.release_returns (orderly : shop.Orderly)
    (found : shop.board.record? worker = some record) (idle : shop.activity worker = .idle)
    (live : guard ∈ shop.guards) (named : guard.site.resource ∈ record.held.toList) :
    (shop.release worker guard).fault = none ∧
      Returns shop (shop.release worker guard).shop worker guard := by
  have onBoard := orderly.onBoard found
  have cell := cellOf_eq_some (orderly.cell_fits (orderly.contains live))
  by_cases second : record.second = some guard.site.resource
  · rw [release_second found onBoard idle (second.trans cell.symm)]
    exact ⟨rfl, orderly.guarded.returns found live (Record.held_clearSecond second) ⟨rfl, rfl, rfl⟩⟩
  · have first := (Holding.mem_ofCells.mp named).resolve_right second
    rw [release_first found onBoard idle (cell ▸ second) (first.trans cell.symm)]
    exact ⟨rfl, orderly.guarded.returns found live (Record.held_moveUp first) ⟨rfl, rfl, rfl⟩⟩

theorem Orderly.restitution (orderly : shop.Orderly)
    (found : shop.board.record? worker = some record) (idle : shop.activity worker = .idle)
    (live : guard ∈ shop.guards) : Restitution shop worker record guard := by
  by_cases named : guard.site.resource ∈ record.held.toList
  · obtain ⟨clean, returns⟩ := orderly.release_returns found idle live named
    obtain ⟨old, stored, shows⟩ := returns.record
    cases found.symm.trans stored
    exact {
      fails := by simp [clean, named]
      unrecorded := fun missing => absurd named missing
      recorded := fun _ => shows
      frees := returns.frees
      confined := returns.confined }
  · have cell := cellOf_eq_some (orderly.cell_fits (orderly.contains live))
    have missing := not_or.mp (named ∘ Holding.mem_ofCells.mpr)
    have failed := release_unrecorded found (cell ▸ missing.2) (cell ▸ missing.1)
    have frees := orderly.guarded.frees live
    exact {
      fails := by simp [failed, named]
      unrecorded := by
        rw [failed]
        exact fun _ => ⟨rfl, rfl⟩
      recorded := fun present => absurd present named
      frees := failed ▸ frees
      confined := failed ▸ frees.confined worker }

end Workshop

end Contention
