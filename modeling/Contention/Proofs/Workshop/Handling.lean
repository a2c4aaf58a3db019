import Contention.Proofs.Workshop.Operations

namespace Contention

/-! Slots that are used against their rules.  A guard may be released through any slot, or be
dropped so that no slot hears of it, and resources may be asked for that there are not.  The
records then no longer name the guards, but every operation, also one that fails, changes
just what it must: one record and one lock.  Records match resources by their number alone,
whatever their pool. -/

namespace Workshop

variable {shop next : Workshop} {worker : Worker} {site : Site} {guard : Guard} {record : Record}

/-- One operation on a slot, or on a guard without a slot.  Of the rules only two are left:
nobody asks for a resource that is held, and a guard is used up once. -/
inductive Handling (shop : Workshop) : Workshop → Prop
  | acquire (worker : Worker) (site : Site) (onBoard : shop.OnBoard worker)
      (unheld : shop.isHeld site = false) : Handling shop (shop.acquire worker site).shop
  | release (worker : Worker) (guard : Guard) (onBoard : shop.OnBoard worker)
      (live : guard ∈ shop.guards) : Handling shop (shop.release worker guard).shop
  | drop (guard : Guard) (live : guard ∈ shop.guards) : Handling shop (shop.free guard)

structure Intact (shop : Workshop) : Prop extends shop.Orderly where
  idle : ∀ worker, shop.activity worker = .idle
  compact : ∀ worker record, shop.board.record? worker = some record → record.Compact

namespace Intact

theorem record_exists (intact : shop.Intact) (onBoard : shop.OnBoard worker) :
    ∃ record, shop.board.record? worker = some record := by
  have inside : worker.index < shop.board.size := intact.slots ▸ onBoard
  exact ⟨_, List.getElem?_eq_getElem inside⟩

theorem rewrite (intact : shop.Intact) {change : Record → Record}
    (compact : ∀ record, shop.board.record? worker = some record → (change record).Compact) :
    (shop.rewrite worker change).Intact := by
  refine ⟨intact.toOrderly.rewrite change, intact.idle, fun other record found => ?_⟩
  simp only [Workshop.rewrite, Board.record?_update] at found
  split at found
  · rename_i same
    obtain ⟨old, stored, rfl⟩ := Option.map_eq_some_iff.mp found
    exact compact old (same ▸ stored)
  · exact intact.compact other record found

theorem lock (intact : shop.Intact) (onBoard : shop.OnBoard worker) (inside : shop.Contains site)
    (unheld : shop.isHeld site = false) : (shop.lock worker site).1.Intact :=
  ⟨intact.toOrderly.lock onBoard inside unheld, intact.idle, intact.compact⟩

theorem free (intact : shop.Intact) (live : guard ∈ shop.guards) : (shop.free guard).Intact :=
  ⟨intact.toOrderly.free (mem_guardsOf.mpr ⟨live, rfl⟩), intact.idle, intact.compact⟩

theorem acquire (intact : shop.Intact) (onBoard : shop.OnBoard worker)
    (unheld : shop.isHeld site = false) : (shop.acquire worker site).shop.Intact := by
  obtain ⟨record, found⟩ := intact.record_exists onBoard
  have idle := intact.idle worker
  cases second : record.second with
  | some resource =>
      rw [acquire_full found (by rw [second]; rfl)]
      exact intact
  | none =>
      by_cases inside : shop.Contains site
      · rw [acquire_free found onBoard idle second inside unheld]
        apply (intact.lock onBoard inside unheld).rewrite
        intro old stored
        cases found.symm.trans stored
        exact Record.compact_note second (intact.cell_fits inside)
      · rw [acquire_outside found onBoard idle second inside]
        apply intact.rewrite
        exact intact.compact worker

theorem release (intact : shop.Intact) (onBoard : shop.OnBoard worker)
    (live : guard ∈ shop.guards) : (shop.release worker guard).shop.Intact := by
  obtain ⟨record, found⟩ := intact.record_exists onBoard
  have idle := intact.idle worker
  have freed := intact.free live
  by_cases second : record.second = Contention.cellOf guard.site.resource
  · rw [release_second found onBoard idle second]
    apply freed.rewrite
    simp [Record.Compact, Record.clearSecond]
  · by_cases first : record.first = Contention.cellOf guard.site.resource
    · rw [release_first found onBoard idle second first]
      apply freed.rewrite
      simp [Record.Compact, Record.clearSecond]
    · rw [release_unrecorded found second first]
      exact freed

theorem step (intact : shop.Intact) (handling : shop.Handling next) : next.Intact := by
  cases handling with
  | acquire worker site onBoard unheld => exact intact.acquire onBoard unheld
  | release worker guard onBoard live => exact intact.release onBoard live
  | drop guard live => exact intact.free live

end Intact

theorem intact_fresh (workers : Nat) (sizes : List Nat) (epoch : Instant)
    (fits : ∀ size ∈ sizes, size ≤ wordMax) : (fresh workers sizes epoch).Intact := by
  refine ⟨(settled_fresh workers sizes epoch fits).orderly, activity_fresh workers sizes epoch,
    fun worker record found => ?_⟩
  have fresh : record = .fresh epoch := List.eq_of_mem_replicate (List.mem_of_getElem? found)
  simp [fresh, Record.Compact, Record.fresh]

structure Sturdy (shop : Workshop) : Prop where
  compact : ∀ worker record, shop.board.record? worker = some record → record.Compact
  locked : ∀ site, shop.isHeld site = true ↔ ∃ guard ∈ shop.guards, guard.site = site
  single : (shop.guards.map (·.site)).Nodup
  acquire : ∀ worker record, shop.board.record? worker = some record → ∀ site,
    Acquisition shop worker record site
  release : ∀ worker record, shop.board.record? worker = some record → ∀ guard ∈ shop.guards,
    Restitution shop worker record guard
  drop : ∀ guard ∈ shop.guards,
    (shop.free guard).board = shop.board ∧ Frees shop (shop.free guard) guard

/-- However guards are handled, each operation changes the one record and the one lock that
it must, and fails exactly if the record has no room for a resource or does not name it, or
if there is no such resource. -/
theorem sturdy_of_handlings {workers : Nat} {sizes : List Nat} {epoch : Instant}
    (fits : ∀ size ∈ sizes, size ≤ wordMax)
    (reached : Relation.ReflTransGen Handling (fresh workers sizes epoch) shop) :
    shop.Sturdy := by
  have intact : shop.Intact := by
    induction reached with
    | refl => exact intact_fresh workers sizes epoch fits
    | tail _ handling ih => exact ih.step handling
  exact {
    compact := intact.compact
    locked := intact.guarded.held
    single := intact.guarded.sites
    acquire := fun worker record found =>
      intact.acquisition found (intact.idle worker) (intact.compact worker record found)
    release := fun worker _ found _ live => intact.restitution found (intact.idle worker) live
    drop := fun _ live => ⟨rfl, intact.guarded.frees live⟩ }

/-- A worker releases the guard of another for a resource of the same number in another pool,
which leaves it without a record of its own guard.  It fails to release that one, and the
other worker, still shown to hold what it has lost, fails once and then takes a second. -/
theorem sturdy_after_mistaken_guards :
    ∃ shop, Relation.ReflTransGen Handling (fresh 2 [2, 3] .origin) shop ∧ shop.Sturdy ∧
      (shop.board.record? ⟨0⟩).map (·.held) = some (.two ⟨1⟩ ⟨2⟩) ∧
      (shop.board.record? ⟨1⟩).map (·.held) = some .none ∧
      shop.guards.map (·.site) = [⟨1, ⟨2⟩⟩] ∧ shop.isHeld ⟨0, ⟨1⟩⟩ = false := by
  have first : Relation.ReflTransGen Handling (fresh 2 [2, 3] .origin) _ :=
    .single (.acquire ⟨0⟩ ⟨0, ⟨1⟩⟩ (by decide) (by decide))
  have second := first.tail (.acquire ⟨1⟩ ⟨1, ⟨1⟩⟩ (by decide) (by decide))
  have mistaken := second.tail (.release ⟨1⟩ ⟨0, ⟨0, ⟨1⟩⟩, ⟨0⟩⟩ (by decide) (by decide))
  have unknown := mistaken.tail (.release ⟨1⟩ ⟨1, ⟨1, ⟨1⟩⟩, ⟨1⟩⟩ (by decide) (by decide))
  have outside := unknown.tail (.acquire ⟨0⟩ ⟨1, ⟨7⟩⟩ (by decide) (by decide))
  have full := outside.tail (.acquire ⟨0⟩ ⟨1, ⟨2⟩⟩ (by decide) (by decide))
  exact ⟨_, full, sturdy_of_handlings (by decide) full, by decide, by decide, by decide,
    by decide⟩

end Workshop

end Contention
