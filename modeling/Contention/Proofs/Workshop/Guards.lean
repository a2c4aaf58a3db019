import Contention.Proofs.Workshop.Slots
import Mathlib.Data.List.Nodup

namespace Contention.Workshop

variable {shop : Workshop} {worker : Worker} {site other : Site} {guard : Guard}

theorem isHeld_lock (inside : shop.Contains site) :
    (shop.lock worker site).1.isHeld other = (decide (other = site) || shop.isHeld other) := by
  obtain ⟨chosen, wanted⟩ := site
  obtain ⟨pool, resource⟩ := other
  simp only [Contains, room] at inside
  simp only [isHeld, lock, List.getElem?_modify, Site.mk.injEq]
  by_cases same : chosen = pool
  · subst same
    cases found : shop.pools[chosen]? with
    | none => simp [found] at inside
    | some cells =>
        simp only [found, Option.map_some, Option.getD_some] at inside
        simp [Pool.isHeld_lock inside]
  · have apart : pool ≠ chosen := fun equal => same equal.symm
    simp [same, apart]

theorem isHeld_free :
    (shop.free guard).isHeld other = (!decide (other = guard.site) && shop.isHeld other) := by
  obtain ⟨number, ⟨chosen, wanted⟩, taker⟩ := guard
  obtain ⟨pool, resource⟩ := other
  simp only [isHeld, free, List.getElem?_modify, Site.mk.injEq]
  by_cases same : chosen = pool
  · subst same
    cases shop.pools[chosen]? <;> simp [Pool.isHeld_unlock]
  · have apart : pool ≠ chosen := fun equal => same equal.symm
    cases shop.pools[pool]? <;> simp [same, apart]

theorem isHeld_contains (held : shop.isHeld site = true) : shop.Contains site := by
  unfold isHeld at held
  unfold Contains room
  cases found : shop.pools[site.pool]? with
  | none => simp [found] at held
  | some pool =>
      simp only [found] at held
      simp only [Option.map_some, Option.getD_some, Pool.size]
      refine Nat.lt_of_not_le fun outside => ?_
      simp [Pool.isHeld, List.getElem?_eq_none outside] at held

theorem advance_of_held (locking : shop.activity worker = .locking site)
    (held : shop.isHeld site = true) : shop.advance worker = none := by
  have within : site.resource.index < (shop.pools[site.pool]?.map Pool.size).getD 0 :=
    isHeld_contains held
  simp [advance, locking, held, Nat.not_le_of_lt within]

structure Guarded (shop : Workshop) : Prop where
  held : ∀ site, shop.isHeld site = true ↔ ∃ guard ∈ shop.guards, guard.site = site
  sites : (shop.guards.map (·.site)).Nodup
  numbers : (shop.guards.map (·.number)).Nodup
  made : ∀ guard ∈ shop.guards, guard.number < shop.made

theorem Guarded.eq_of_site (guarded : shop.Guarded) {left right : Guard}
    (leftLive : left ∈ shop.guards) (rightLive : right ∈ shop.guards)
    (same : left.site = right.site) : left = right :=
  List.inj_on_of_nodup_map guarded.sites leftLive rightLive same

theorem Guarded.eq_of_number (guarded : shop.Guarded) {left right : Guard}
    (leftLive : left ∈ shop.guards) (rightLive : right ∈ shop.guards)
    (same : left.number = right.number) : left = right :=
  List.inj_on_of_nodup_map guarded.numbers leftLive rightLive same

theorem Guarded.owner_eq (guarded : shop.Guarded) {left right : Guard} {owner : Worker}
    (leftOwn : left ∈ shop.guardsOf worker) (rightOwn : right ∈ shop.guardsOf owner)
    (same : left.site = right.site) : worker = owner := by
  obtain ⟨leftLive, leftTaken⟩ := mem_guardsOf.mp leftOwn
  obtain ⟨rightLive, rightTaken⟩ := mem_guardsOf.mp rightOwn
  rw [← leftTaken, ← rightTaken, guarded.eq_of_site leftLive rightLive same]

theorem isHeld_fresh (workers : Nat) (sizes : List Nat) (epoch : Instant) :
    (fresh workers sizes epoch).isHeld site = false := by
  simp only [isHeld, fresh, List.getElem?_map]
  cases sizes[site.pool]? with
  | none => rfl
  | some size => exact Pool.isHeld_ofSize size site.resource

theorem guarded_fresh (workers : Nat) (sizes : List Nat) (epoch : Instant) :
    (fresh workers sizes epoch).Guarded where
  held := by
    intro site
    rw [isHeld_fresh]
    simp [fresh]
  sites := .nil
  numbers := .nil
  made := by simp [fresh]

theorem Guarded.lock (guarded : shop.Guarded) (inside : shop.Contains site)
    (unheld : shop.isHeld site = false) : (shop.lock worker site).1.Guarded where
  held := by
    intro other
    rw [isHeld_lock inside, Bool.or_eq_true, decide_eq_true_eq, guarded.held]
    simp only [Workshop.lock, List.mem_append, List.mem_singleton]
    constructor
    · rintro (rfl | ⟨guard, live, same⟩)
      · exact ⟨_, .inr rfl, rfl⟩
      · exact ⟨guard, .inl live, same⟩
    · rintro ⟨guard, live | rfl, same⟩
      · exact .inr ⟨guard, live, same⟩
      · exact .inl same.symm
  sites := by
    have new : site ∉ shop.guards.map (·.site) := by
      intro member
      obtain ⟨guard, live, same⟩ := List.mem_map.mp member
      rw [(guarded.held site).mpr ⟨guard, live, same⟩] at unheld
      contradiction
    simp only [Workshop.lock, List.map_append, List.map_cons, List.map_nil]
    exact List.nodup_append.mpr ⟨guarded.sites, by simp, by grind⟩
  numbers := by
    have new : shop.made ∉ shop.guards.map (·.number) := by
      intro member
      obtain ⟨guard, live, same⟩ := List.mem_map.mp member
      exact absurd same (Nat.ne_of_lt (guarded.made guard live))
    simp only [Workshop.lock, List.map_append, List.map_cons, List.map_nil]
    exact List.nodup_append.mpr ⟨guarded.numbers, by simp, by grind⟩
  made := by
    intro guard live
    simp only [Workshop.lock, List.mem_append, List.mem_singleton] at live ⊢
    rcases live with live | rfl
    · exact Nat.lt_succ_of_lt (guarded.made guard live)
    · exact Nat.lt_succ_self _

theorem Guarded.free (guarded : shop.Guarded) (live : guard ∈ shop.guards) :
    (shop.free guard).Guarded where
  held := by
    intro other
    rw [isHeld_free, Bool.and_eq_true, Bool.not_eq_true', decide_eq_false_iff_not, guarded.held]
    simp only [Workshop.free, List.mem_filter, decide_eq_true_eq]
    constructor
    · rintro ⟨different, kept, keptLive, rfl⟩
      refine ⟨kept, ⟨keptLive, fun same => ?_⟩, rfl⟩
      exact different (congrArg Guard.site (guarded.eq_of_number keptLive live same))
    · rintro ⟨kept, ⟨keptLive, different⟩, rfl⟩
      refine ⟨fun same => ?_, kept, keptLive, rfl⟩
      exact different (congrArg Guard.number (guarded.eq_of_site keptLive live same))
  sites := guarded.sites.sublist (List.filter_sublist.map _)
  numbers := guarded.numbers.sublist (List.filter_sublist.map _)
  made := fun kept keptLive => guarded.made kept (List.mem_of_mem_filter keptLive)

theorem Guarded.rewrite (guarded : shop.Guarded) (change : Record → Record) :
    (shop.rewrite worker change).Guarded :=
  ⟨guarded.held, guarded.sites, guarded.numbers, guarded.made⟩

theorem Guarded.setActivity (guarded : shop.Guarded) (activity : Activity) :
    (shop.setActivity worker activity).Guarded :=
  ⟨guarded.held, guarded.sites, guarded.numbers, guarded.made⟩

end Contention.Workshop
