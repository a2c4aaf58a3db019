import Contention.Proofs.Workshop.Guards
import Contention.Proofs.Workshop.Records

namespace Contention.Workshop

variable {shop next : Workshop} {worker other : Worker} {site : Site} {guard : Guard}

/-- Guards and locks belong together, every guard's taker has a slot, slots want
nothing but resources that there are, and all of these can be written to a
record. -/
structure Orderly (shop : Workshop) : Prop where
  guarded : shop.Guarded
  slots : shop.board.size = shop.activities.length
  takers : ∀ guard ∈ shop.guards, shop.OnBoard guard.taker
  inside : ∀ worker site, shop.activity worker = .locking site → shop.Contains site
  fits : ∀ pool, shop.room pool ≤ wordMax

def Truthful (shop : Workshop) (worker : Worker) : Prop :=
  ∃ record shown, shop.board.record? worker = some record ∧
    Accurate record (shop.activity worker) (shop.guardsOf worker) shown

structure Sound (before after : Workshop) (worker : Worker) : Prop where
  orderly : after.Orderly
  truthful : after.Truthful worker
  frame : Frame before after worker

theorem Sound.refl (orderly : shop.Orderly) (truthful : shop.Truthful worker) :
    Sound shop shop worker :=
  ⟨orderly, truthful, .refl shop worker⟩

theorem Sound.trans {first second third : Workshop} (early : Sound first second worker)
    (late : Sound second third worker) : Sound first third worker :=
  ⟨late.orderly, late.truthful, early.frame.trans late.frame⟩

theorem Truthful.framed (truthful : shop.Truthful other) (frame : Frame shop next worker)
    (different : other ≠ worker) : next.Truthful other := by
  unfold Truthful
  rwa [frame.record? other different, frame.activity other different,
    frame.guardsOf other different]

theorem Orderly.contains (orderly : shop.Orderly) (live : guard ∈ shop.guards) :
    shop.Contains guard.site :=
  isHeld_contains ((orderly.guarded.held guard.site).mpr ⟨guard, live, rfl⟩)

theorem Orderly.cell_fits (orderly : shop.Orderly) (inside : shop.Contains site) :
    site.resource.index < wordMax :=
  Nat.lt_of_lt_of_le inside (orderly.fits site.pool)

theorem Orderly.onBoard (orderly : shop.Orderly) {record : Record}
    (found : shop.board.record? worker = some record) : shop.OnBoard worker := by
  obtain ⟨inside, _⟩ := List.getElem?_eq_some_iff.mp found
  have size : worker.index < shop.board.size := inside
  rwa [orderly.slots] at size

theorem Orderly.onBoard_of_guard (orderly : shop.Orderly) (own : guard ∈ shop.guardsOf worker) :
    shop.OnBoard worker := by
  obtain ⟨live, rfl⟩ := mem_guardsOf.mp own
  exact orderly.takers guard live

theorem Orderly.rewrite (orderly : shop.Orderly) (change : Record → Record) :
    (shop.rewrite worker change).Orderly where
  guarded := orderly.guarded.rewrite change
  slots := (Board.size_update _ _ _).trans orderly.slots
  takers := orderly.takers
  inside := orderly.inside
  fits := orderly.fits

theorem Orderly.lock (orderly : shop.Orderly) (onBoard : shop.OnBoard worker)
    (inside : shop.Contains site) (unheld : shop.isHeld site = false) :
    (shop.lock worker site).1.Orderly := by
  have frame := frame_lock shop worker site
  refine ⟨orderly.guarded.lock inside unheld, orderly.slots, ?_, ?_, ?_⟩
  · intro guard live
    rcases List.mem_append.mp live with live | new
    · exact orderly.takers guard live
    · rw [List.mem_singleton.mp new]
      exact onBoard
  · exact fun other place locking => frame.contains.mpr (orderly.inside other place locking)
  · exact fun pool => frame.room pool ▸ orderly.fits pool

theorem Orderly.frame_free (orderly : shop.Orderly) (own : guard ∈ shop.guardsOf worker) :
    Frame shop (shop.free guard) worker := by
  obtain ⟨live, rfl⟩ := mem_guardsOf.mp own
  exact Workshop.frame_free fun other otherLive same =>
    orderly.guarded.eq_of_number otherLive live same

theorem Orderly.free (orderly : shop.Orderly) (own : guard ∈ shop.guardsOf worker) :
    (shop.free guard).Orderly := by
  have frame := orderly.frame_free own
  refine ⟨orderly.guarded.free (mem_guardsOf.mp own).1, orderly.slots, ?_, ?_, ?_⟩
  · exact fun kept live => orderly.takers kept (List.mem_of_mem_filter live)
  · exact fun other place locking => frame.contains.mpr (orderly.inside other place locking)
  · exact fun pool => frame.room pool ▸ orderly.fits pool

theorem Truthful.onBoard (truthful : shop.Truthful worker) (orderly : shop.Orderly) :
    shop.OnBoard worker := by
  obtain ⟨_, _, found, _⟩ := truthful
  exact orderly.onBoard found

theorem Truthful.accurate (truthful : shop.Truthful worker) {record : Record}
    (found : shop.board.record? worker = some record) :
    ∃ shown, Accurate record (shop.activity worker) (shop.guardsOf worker) shown := by
  obtain ⟨same, shown, stored, accurate⟩ := truthful
  cases found.symm.trans stored
  exact ⟨shown, accurate⟩

theorem record?_rewrite {record : Record} {change : Record → Record}
    (found : shop.board.record? worker = some record) :
    (shop.rewrite worker change).board.record? worker = some (change record) := by
  rw [rewrite, Board.record?_update, if_pos rfl, found, Option.map_some]

theorem sound_setActivity {middle : Workshop} {activity : Activity} {record : Record}
    {shown : List Guard} (orderly : shop.Orderly) (onBoard : shop.OnBoard worker)
    (frame : Frame shop middle worker) (guarded : middle.Guarded)
    (takers : ∀ guard ∈ middle.guards, shop.OnBoard guard.taker)
    (inside : ∀ site, activity = .locking site → shop.Contains site)
    (found : middle.board.record? worker = some record)
    (accurate : Accurate record activity (middle.guardsOf worker) shown) :
    Sound shop (middle.setActivity worker activity) worker := by
  have whole : Frame shop (middle.setActivity worker activity) worker :=
    frame.trans (frame_setActivity middle worker activity)
  have busy : (middle.setActivity worker activity).activity worker = activity :=
    activity_after frame onBoard
  refine ⟨⟨guarded.setActivity activity, ?_, ?_, ?_, ?_⟩, ⟨record, shown, found, ?_⟩, whole⟩
  · rw [whole.records, whole.slots, orderly.slots]
  · exact fun guard live => whole.onBoard.mpr (takers guard live)
  · intro other site locking
    rw [whole.contains]
    by_cases same : other = worker
    · rw [same, busy] at locking
      exact inside site locking
    · rw [whole.activity other same] at locking
      exact orderly.inside other site locking
  · exact fun pool => whole.room pool ▸ orderly.fits pool
  · rw [busy]
    exact accurate

theorem sound_rewrite {record : Record} {activity : Activity} {change : Record → Record}
    {shown : List Guard} (orderly : shop.Orderly) (onBoard : shop.OnBoard worker)
    (inside : ∀ site, activity = .locking site → shop.Contains site)
    (found : shop.board.record? worker = some record)
    (accurate : Accurate (change record) activity (shop.guardsOf worker) shown) :
    Sound shop ((shop.rewrite worker change).setActivity worker activity) worker := by
  exact sound_setActivity orderly onBoard (frame_rewrite shop worker change)
    (orderly.guarded.rewrite change) orderly.takers inside (record?_rewrite found) accurate

theorem Advanced.sound (advanced : shop.Advanced worker next) (orderly : shop.Orderly)
    (truthful : shop.Truthful worker) : Sound shop next worker := by
  have onBoard := truthful.onBoard orderly
  obtain ⟨record, shown, found, accurate⟩ := truthful
  have own : ∀ guard, (shop.activity worker).guard? = some guard →
      guard ∈ shop.guards ∧ guard.taker = worker :=
    fun guard concerned => mem_guardsOf.mp (accurate.shows.guard_mem concerned)
  cases advanced with
  | lock site locking inside unheld =>
      rw [locking] at accurate
      have locked : Accurate record (.recording (shop.nextGuard worker site))
          ((shop.lock worker site).1.guardsOf worker) (shop.guardsOf worker) := by
        rw [guardsOf_lock, if_pos rfl]
        exact Accurate.lock (shop.nextGuard worker site) accurate
      have kept := orderly.lock onBoard inside unheld
      exact sound_setActivity orderly onBoard (frame_lock shop worker site) kept.guarded
        kept.takers (by simp) found locked
  | note guard recording =>
      obtain ⟨live, _⟩ := own guard (by rw [recording]; rfl)
      have fits := orderly.cell_fits (orderly.contains live)
      rw [recording] at accurate
      exact sound_rewrite orderly onBoard (by simp) found (accurate.note fits)
  | settle guard settling =>
      rw [settling] at accurate
      exact sound_rewrite orderly onBoard (by simp) found accurate.settle
  | clear guard shifting =>
      rw [shifting] at accurate
      exact sound_rewrite orderly onBoard (by simp) found accurate.clear
  | unlock guard unlocking =>
      obtain ⟨live, rfl⟩ := own guard (by rw [unlocking]; rfl)
      have alone : ∀ other ∈ shop.guards, other.number = guard.number → other = guard :=
        fun other otherLive same => orderly.guarded.eq_of_number otherLive live same
      have numbers : ((shop.guardsOf guard.taker).map (·.number)).Nodup :=
        orderly.guarded.numbers.sublist (List.filter_sublist.map _)
      rw [unlocking] at accurate
      obtain ⟨left, unlocked⟩ := accurate.unlock numbers
      rw [← guardsOf_free] at unlocked
      exact sound_setActivity orderly onBoard (frame_free alone) (orderly.guarded.free live)
        (fun kept keptLive => orderly.takers kept (List.mem_of_mem_filter keptLive)) (by simp)
        found unlocked

theorem complete_sound (orderly : shop.Orderly) (truthful : shop.Truthful worker) (now : Instant) :
    Sound shop (shop.complete worker now) worker := by
  have frame := frame_rewrite shop worker (·.complete now)
  obtain ⟨record, shown, found, shows, few, first, second, awaiting⟩ := truthful
  refine ⟨orderly.rewrite _, ⟨record.complete now, shown, record?_rewrite found, ?_⟩, frame⟩
  exact ⟨shows, few, first, second, awaiting⟩

theorem beginAcquire_sound (orderly : shop.Orderly) (truthful : shop.Truthful worker)
    (idle : shop.activity worker = .idle) (few : (shop.guardsOf worker).length < 2)
    (inside : shop.Contains site) :
    (shop.beginAcquire worker site).fault = none ∧
      (shop.beginAcquire worker site).shop =
        (shop.rewrite worker (·.publish site.resource)).setActivity worker (.locking site) ∧
      Sound shop (shop.beginAcquire worker site).shop worker := by
  have onBoard := truthful.onBoard orderly
  obtain ⟨record, shown, found, accurate⟩ := truthful
  rw [idle] at accurate
  have empty := accurate.second_eq_none_iff.mpr few
  have published := accurate.publish few (orderly.cell_fits inside)
  simp only [beginAcquire, found, empty, true_and]
  refine sound_rewrite orderly onBoard ?_ found published
  rintro _ ⟨⟩
  exact inside

theorem beginAcquire_full (site : Site) (truthful : shop.Truthful worker)
    (idle : shop.activity worker = .idle) (full : ¬ (shop.guardsOf worker).length < 2) :
    shop.beginAcquire worker site = { shop, fault := some (.alreadyHoldsTwo worker) } := by
  obtain ⟨record, shown, found, accurate⟩ := truthful
  rw [idle] at accurate
  cases second : record.second with
  | none => exact absurd (accurate.second_eq_none_iff.mp second) full
  | some resource => simp only [beginAcquire, found, second]

theorem beginRelease_sound (orderly : shop.Orderly) (truthful : shop.Truthful worker)
    (idle : shop.activity worker = .idle) (own : guard ∈ shop.guardsOf worker) :
    (shop.beginRelease worker guard).fault = none ∧
      Sound shop (shop.beginRelease worker guard).shop worker ∧
      ((shop.beginRelease worker guard).shop =
          (shop.rewrite worker Record.clearSecond).setActivity worker (.unlocking guard) ∨
        (shop.beginRelease worker guard).shop =
          (shop.rewrite worker Record.moveUp).setActivity worker (.shifting guard)) := by
  have onBoard := truthful.onBoard orderly
  obtain ⟨record, shown, found, accurate⟩ := truthful
  have fits := orderly.cell_fits (orderly.contains (mem_guardsOf.mp own).1)
  rw [idle] at accurate
  rcases accurate.release own fits with ⟨second, _, cleared⟩ | ⟨second, first, _, moved⟩
  · simp only [beginRelease, found, second, if_true, true_and, true_or, and_true]
    exact sound_rewrite orderly onBoard (by simp) found cleared
  · simp only [beginRelease, found, second, first, if_true, if_false, true_and, or_true, and_true]
    exact sound_rewrite orderly onBoard (by simp) found moved

end Contention.Workshop
