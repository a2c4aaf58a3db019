import Contention.Proofs.Workshop.Slots
import Mathlib.Data.List.Nodup

namespace Contention

/-! What a record says about the guards of its slot.  Between two operations it
names them all, in the order in which they were acquired.  In the middle of an
operation it lacks the guard that is on its way, and while the second cell moves
up both cells are equal. -/

theorem cellOf_eq_some {resource : Resource} (fits : resource.index < wordMax) :
    cellOf resource = some resource :=
  if_neg (Nat.ne_of_lt fits)

theorem Holding.mem_ofCells {first second : Option Resource} {resource : Resource} :
    resource ∈ (Holding.ofCells first second).toList ↔
      first = some resource ∨ second = some resource := by
  cases first <;> cases second <;> simp [Holding.ofCells, Holding.toList, eq_comm]

def Activity.announced : Activity → Option Resource
  | .locking site => some site.resource
  | .recording guard => some guard.site.resource
  | .settling guard => some guard.site.resource
  | _ => none

def Activity.guard? : Activity → Option Guard
  | .recording guard => some guard
  | .settling guard => some guard
  | .shifting guard => some guard
  | .unlocking guard => some guard
  | _ => none

def Activity.secondPlace : Activity → Nat
  | .shifting _ => 0
  | _ => 1

/-- A slot between two operations rests, and so does one that is blocked. -/
def Activity.Resting : Activity → Prop
  | .idle => True
  | .locking _ => True
  | _ => False

/-- Which of the live guards are on record, by what the slot is in the middle of. -/
inductive Shown : Activity → List Guard → List Guard → Prop
  | idle (guards : List Guard) : Shown .idle guards guards
  | locking (site : Site) (guards : List Guard) (room : guards.length < 2) :
      Shown (.locking site) guards guards
  | recording (guard : Guard) (guards : List Guard) :
      Shown (.recording guard) (guards ++ [guard]) guards
  | settling (guard : Guard) (guards : List Guard) :
      Shown (.settling guard) (guards ++ [guard]) (guards ++ [guard])
  | shifting (guard : Guard) (guards : List Guard) :
      Shown (.shifting guard) (guard :: guards) guards
  | unlocking (guard : Guard) (before after : List Guard) :
      Shown (.unlocking guard) (before ++ guard :: after) (before ++ after)

theorem Shown.subset {activity : Activity} {guards shown : List Guard}
    (shows : Shown activity guards shown) : shown ⊆ guards := by
  cases shows <;> intro guard member <;> grind

theorem Shown.resting {activity : Activity} {guards shown : List Guard}
    (shows : Shown activity guards shown) (rests : activity.Resting) :
    shown = guards ∧ activity.secondPlace = 1 := by
  cases shows with
  | idle => exact ⟨rfl, rfl⟩
  | locking => exact ⟨rfl, rfl⟩
  | _ => contradiction

theorem Shown.guard_mem {activity : Activity} {guards shown : List Guard} {guard : Guard}
    (shows : Shown activity guards shown) (concerned : activity.guard? = some guard) :
    guard ∈ guards := by
  cases shows <;> cases concerned <;> simp

/-- The record of a slot with the given activity and live guards shows the guards
`shown` and what the slot waits for. -/
structure Accurate (record : Record) (activity : Activity) (guards shown : List Guard) :
    Prop where
  shows : Shown activity guards shown
  few : guards.length ≤ 2
  first : record.first = shown[0]?.map (·.site.resource)
  second : record.second = shown[activity.secondPlace]?.map (·.site.resource)
  awaiting : record.awaiting = activity.announced

namespace Accurate

variable {record : Record} {activity : Activity} {guards shown : List Guard} {guard : Guard}
  {site : Site}

theorem fresh (epoch : Instant) : Accurate (.fresh epoch) .idle [] [] :=
  ⟨.idle [], by simp, rfl, rfl, rfl⟩

theorem second_eq_none_iff (accurate : Accurate record .idle guards shown) :
    record.second = none ↔ guards.length < 2 := by
  obtain ⟨shows, few, _, second, _⟩ := accurate
  cases shows
  rw [second, Option.map_eq_none_iff, List.getElem?_eq_none_iff]
  exact Nat.lt_succ_iff.symm

theorem publish (accurate : Accurate record .idle guards shown) (room : guards.length < 2)
    (fits : site.resource.index < wordMax) :
    Accurate (record.publish site.resource) (.locking site) guards guards := by
  obtain ⟨shows, few, first, second, _⟩ := accurate
  cases shows
  exact ⟨.locking site guards room, few, first, second, cellOf_eq_some fits⟩

theorem lock (guard : Guard) (accurate : Accurate record (.locking guard.site) guards shown) :
    Accurate record (.recording guard) (guards ++ [guard]) guards := by
  obtain ⟨shows, _, first, second, awaiting⟩ := accurate
  cases shows with
  | locking _ _ room =>
      refine ⟨.recording guard guards, ?_, first, second, awaiting⟩
      rw [List.length_append, List.length_singleton]
      omega

theorem note (accurate : Accurate record (.recording guard) guards shown)
    (fits : guard.site.resource.index < wordMax) :
    Accurate (record.note guard.site.resource) (.settling guard) guards guards := by
  obtain ⟨shows, few, first, second, awaiting⟩ := accurate
  cases shows with
  | recording =>
      have room : shown.length ≤ 1 := by
        rw [List.length_append, List.length_singleton] at few
        omega
      match shown, room with
      | [], _ =>
          simp only [List.getElem?_nil, Option.map_none] at first second
          have noted : record.note guard.site.resource =
              { record with first := some guard.site.resource } := by
            simp only [Record.note, first, cellOf_eq_some fits]
          rw [noted]
          exact ⟨.settling guard [], few, rfl, second, awaiting⟩
      | [old], _ =>
          simp only [List.getElem?_cons_zero, Option.map_some] at first
          have noted : record.note guard.site.resource =
              { record with second := some guard.site.resource } := by
            simp only [Record.note, first, cellOf_eq_some fits]
          rw [noted]
          exact ⟨.settling guard [old], few, first, rfl, awaiting⟩

theorem settle (accurate : Accurate record (.settling guard) guards shown) :
    Accurate record.settle .idle guards guards := by
  obtain ⟨shows, few, first, second, _⟩ := accurate
  cases shows
  exact ⟨.idle _, few, first, second, rfl⟩

/-- The first step of a release.  The record is searched by the resource's number
only, from its second cell on, so that of two guards with one number the later
one's cell is emptied whichever of them is released. -/
theorem release (accurate : Accurate record .idle guards shown) (own : guard ∈ guards)
    (fits : guard.site.resource.index < wordMax) :
    (record.second = cellOf guard.site.resource ∧
        ∃ shown, Accurate record.clearSecond (.unlocking guard) guards shown) ∨
      (record.second ≠ cellOf guard.site.resource ∧ record.first = cellOf guard.site.resource ∧
        ∃ shown, Accurate record.moveUp (.shifting guard) guards shown) := by
  obtain ⟨shows, few, first, second, awaiting⟩ := accurate
  cases shows
  rw [cellOf_eq_some fits]
  match guards, few, own with
  | [only], _, own =>
      obtain rfl := List.mem_singleton.mp own
      simp only [List.getElem?_cons_zero, Option.map_some] at first
      simp only [Activity.secondPlace, List.getElem?_cons_succ, List.getElem?_nil,
        Option.map_none] at second
      exact .inr
        ⟨by simp [second], first, [], .shifting guard [], by simp, second, second, awaiting⟩
  | [old, new], few, own =>
      simp only [List.getElem?_cons_zero, Option.map_some] at first
      simp only [Activity.secondPlace, List.getElem?_cons_succ, List.getElem?_cons_zero,
        Option.map_some] at second
      by_cases newer : guard.site.resource = new.site.resource
      · refine .inl ⟨by rw [second, newer], ?_⟩
        rcases List.mem_cons.mp own with rfl | own
        · exact ⟨[new], .unlocking guard [] [new], few,
            first.trans (congrArg some newer), rfl, awaiting⟩
        · obtain rfl := List.mem_singleton.mp own
          exact ⟨[old], .unlocking guard [old] [], few, first, rfl, awaiting⟩
      · have older : guard = old := by
          rcases List.mem_cons.mp own with same | own
          · exact same
          · exact absurd (by rw [List.mem_singleton.mp own]) newer
        subst older
        have apart : record.second ≠ some guard.site.resource := by
          rw [second]
          exact fun same => newer (Option.some.inj same).symm
        exact .inr ⟨apart, first, [new], .shifting guard [new], few, second, second, awaiting⟩

theorem clear (accurate : Accurate record (.shifting guard) guards shown) :
    Accurate record.clearSecond (.unlocking guard) guards shown := by
  obtain ⟨shows, few, first, _, awaiting⟩ := accurate
  cases shows with
  | shifting =>
      have none : shown[1]? = none := by
        simp only [List.length_cons] at few
        exact List.getElem?_eq_none (by omega)
      refine ⟨.unlocking guard [] shown, few, first, ?_, awaiting⟩
      simp [Record.clearSecond, Activity.secondPlace, none]

theorem unlock (accurate : Accurate record (.unlocking guard) guards shown)
    (numbers : (guards.map (·.number)).Nodup) :
    ∃ shown, Accurate record .idle
      (guards.filter fun kept => decide (kept.number ≠ guard.number)) shown := by
  obtain ⟨shows, few, first, second, awaiting⟩ := accurate
  cases shows with
  | unlocking _ before after =>
      have kept : (before ++ guard :: after).filter
          (fun kept => decide (kept.number ≠ guard.number)) = before ++ after := by
        simp only [List.map_append, List.map_cons, List.nodup_append, List.nodup_cons] at numbers
        obtain ⟨_, ⟨notAfter, _⟩, notBefore⟩ := numbers
        rw [List.filter_append, List.filter_cons_of_neg (by simp)]
        congr 1
        · refine List.filter_eq_self.mpr fun other member => decide_eq_true ?_
          exact notBefore _ (List.mem_map_of_mem member) _ List.mem_cons_self
        · refine List.filter_eq_self.mpr fun other member => decide_eq_true fun same => ?_
          exact notAfter (same ▸ List.mem_map_of_mem member)
      rw [kept]
      refine ⟨before ++ after, .idle _, ?_, first, second, awaiting⟩
      simp only [List.length_append, List.length_cons] at few ⊢
      omega

theorem held_toList (accurate : Accurate record activity guards guards)
    (still : activity.secondPlace = 1) :
    record.held.toList = guards.map (·.site.resource) := by
  obtain ⟨_, few, first, second, _⟩ := accurate
  rw [still] at second
  unfold Record.held
  rw [first, second]
  match guards, few with
  | [], _ => rfl
  | [_], _ => rfl
  | [_, _], _ => rfl

theorem mem_held {resource : Resource} (accurate : Accurate record activity guards shown)
    (named : resource ∈ record.held.toList) :
    ∃ guard ∈ guards, guard.site.resource = resource := by
  obtain ⟨shows, _, first, second, _⟩ := accurate
  have placed : ∀ place : Nat, shown[place]?.map (fun guard : Guard => guard.site.resource) =
      some resource → ∃ guard ∈ guards, guard.site.resource = resource := by
    intro place named
    obtain ⟨guard, found, same⟩ := Option.map_eq_some_iff.mp named
    exact ⟨guard, shows.subset (List.mem_of_getElem? found), same⟩
  rcases Holding.mem_ofCells.mp named with named | named
  · exact placed 0 (first ▸ named)
  · exact placed activity.secondPlace (second ▸ named)

end Accurate

end Contention
