import Contention.WaitGraph.Cycles
import Mathlib.Data.List.Rotate

namespace Contention

/-! Circular waits said without the search: a loop is a row of different workers
each of which waits for the next, and the last of them for the first.  A cycle
is a loop read from its least worker.  Since every worker waits for at most one
other, two cycles that share a worker are the same. -/

theorem Worker.le_antisymm {left right : Worker} (lower : left ≤ right) (upper : right ≤ left) :
    left = right := by
  cases left
  cases right
  exact congrArg Worker.mk (Nat.le_antisymm lower upper)

theorem leastWorker_exists {workers : List Worker} (nonempty : workers ≠ []) :
    ∃ least, leastWorker workers = some least := by
  cases workers with
  | nil => contradiction
  | cons worker rest =>
      cases tail : leastWorker rest with
      | none => exact ⟨worker, by simp only [leastWorker, tail]⟩
      | some next =>
          exact ⟨if worker ≤ next then worker else next, by simp only [leastWorker, tail]⟩

theorem leastWorker_least {workers : List Worker} {least : Worker}
    (found : leastWorker workers = some least) :
    least ∈ workers ∧ ∀ worker ∈ workers, least ≤ worker := by
  induction workers generalizing least with
  | nil => contradiction
  | cons worker rest ih =>
      cases tail : leastWorker rest with
      | none =>
          have empty : rest = [] := by
            by_contra nonempty
            obtain ⟨other, foundRest⟩ := leastWorker_exists nonempty
            rw [tail] at foundRest
            contradiction
          simp only [leastWorker, tail, Option.some.injEq] at found
          subst empty found
          exact ⟨by simp, fun other member => by
            rw [List.mem_singleton.mp member]
            exact Nat.le_refl _⟩
      | some next =>
          obtain ⟨member, bound⟩ := ih tail
          simp only [leastWorker, tail, Option.some.injEq] at found
          subst found
          by_cases first : worker ≤ next
          · rw [if_pos first]
            refine ⟨by simp, fun other among => ?_⟩
            rcases List.mem_cons.mp among with rfl | among
            · exact Nat.le_refl _
            · exact Nat.le_trans first (bound other among)
          · rw [if_neg first]
            refine ⟨by simp [member], fun other among => ?_⟩
            rcases List.mem_cons.mp among with rfl | among
            · exact Nat.le_of_lt (Nat.lt_of_not_le first)
            · exact bound other among

theorem rotateToLeast_eq_rotate {loop : List Worker} (nonempty : loop ≠ []) :
    ∃ position, ∃ inside : position < loop.length,
      rotateToLeast loop = loop.rotate position ∧ ∀ worker ∈ loop, loop[position] ≤ worker := by
  obtain ⟨least, found⟩ := leastWorker_exists nonempty
  obtain ⟨member, bound⟩ := leastWorker_least found
  have inside : loop.idxOf least < loop.length := List.idxOf_lt_length_of_mem member
  refine ⟨loop.idxOf least, inside, ?_, ?_⟩
  · simp only [rotateToLeast, found]
    exact (List.rotate_eq_drop_append_take (Nat.le_of_lt inside)).symm
  · rw [List.getElem_idxOf]
    exact bound

namespace WaitGraph

/-- A row of different workers, each waiting for the next and the last for the
first. -/
structure IsLoop (graph : WaitGraph) (loop : List Worker) : Prop where
  nonempty : loop ≠ []
  distinct : loop.Nodup
  linked : ∀ index (inside : index < loop.length),
    graph.blocker loop[index] = loop[(index + 1) % loop.length]?

/-- A loop that starts at its least worker. -/
structure IsCycle (graph : WaitGraph) (cycle : List Worker) : Prop
    extends graph.IsLoop cycle where
  least : ∀ worker ∈ cycle, cycle.head nonempty ≤ worker

def Closed (graph : WaitGraph) (group : Worker → Prop) : Prop :=
  ∀ worker other, graph.blocker worker = some other → group worker → group other

variable {graph : WaitGraph} {loop : List Worker}

theorem blocker_eq_some_iff {worker other : Worker} :
    graph.blocker worker = some other ↔
      ∃ resource, graph.awaitedBy worker = some resource ∧ graph.holder resource = some other ∧
        other ≠ worker := by
  unfold blocker
  cases graph.awaitedBy worker with
  | none => simp
  | some resource => simp [Option.filter_eq_some_iff]

theorem blocker_ne {worker other : Worker} (blocked : graph.blocker worker = some other) :
    other ≠ worker := by
  obtain ⟨_, _, _, apart⟩ := blocker_eq_some_iff.mp blocked
  exact apart

theorem IsLoop.length_pos (isLoop : graph.IsLoop loop) : 0 < loop.length :=
  List.length_pos_iff.mpr isLoop.nonempty

theorem IsLoop.linked_getElem (isLoop : graph.IsLoop loop) (index : Nat)
    (inside : index < loop.length) (next : (index + 1) % loop.length < loop.length) :
    graph.blocker loop[index] = some loop[(index + 1) % loop.length] := by
  rw [isLoop.linked index inside]
  exact List.getElem?_eq_getElem _

theorem IsLoop.blocker_mem (isLoop : graph.IsLoop loop) {worker : Worker} (member : worker ∈ loop) :
    ∃ other ∈ loop, graph.blocker worker = some other := by
  obtain ⟨index, inside, rfl⟩ := List.getElem_of_mem member
  exact ⟨_, List.getElem_mem _, isLoop.linked_getElem index inside (Nat.mod_lt _ isLoop.length_pos)⟩

theorem IsLoop.two_le_length (isLoop : graph.IsLoop loop) : 2 ≤ loop.length := by
  have first := List.head_mem isLoop.nonempty
  obtain ⟨other, member, blocked⟩ := isLoop.blocker_mem first
  have apart := blocker_ne blocked
  match loop, isLoop.nonempty with
  | [only], _ => exact absurd (List.mem_singleton.mp member) apart
  | _ :: _ :: _, _ => simp

theorem IsLoop.forall_mem (isLoop : graph.IsLoop loop) {group : Worker → Prop}
    (closed : graph.Closed group) {worker : Worker} (member : worker ∈ loop)
    (holds : group worker) : ∀ other ∈ loop, group other := by
  have positive := isLoop.length_pos
  obtain ⟨start, startInside, rfl⟩ := List.getElem_of_mem member
  have ahead : ∀ count (inside : (start + count) % loop.length < loop.length),
      group loop[(start + count) % loop.length] := by
    intro count
    induction count with
    | zero =>
        intro inside
        simpa only [Nat.add_zero, Nat.mod_eq_of_lt startInside] using holds
    | succ count ih =>
        intro inside
        have before := Nat.mod_lt (start + count) positive
        have linked := isLoop.linked_getElem _ before (Nat.mod_lt _ positive)
        have next := closed _ _ linked (ih before)
        simpa only [Nat.mod_add_mod, Nat.add_assoc] using next
  intro other among
  obtain ⟨target, targetInside, rfl⟩ := List.getElem_of_mem among
  have reached := ahead (target + loop.length - start) (Nat.mod_lt _ positive)
  have distance : (start + (target + loop.length - start)) % loop.length = target := by
    have total : start + (target + loop.length - start) = target + loop.length := by omega
    rw [total, Nat.add_mod_right, Nat.mod_eq_of_lt targetInside]
  simpa only [distance] using reached

theorem IsLoop.awaited (isLoop : graph.IsLoop loop) {worker : Worker} (member : worker ∈ loop) :
    ∃ other ∈ loop, graph.blocker other = some worker := by
  have positive := isLoop.length_pos
  obtain ⟨index, inside, rfl⟩ := List.getElem_of_mem member
  have before : (index + loop.length - 1) % loop.length < loop.length := Nat.mod_lt _ positive
  have back : ((index + loop.length - 1) % loop.length + 1) % loop.length = index := by
    rw [Nat.mod_add_mod, Nat.sub_add_cancel (by omega), Nat.add_mod_right, Nat.mod_eq_of_lt inside]
  refine ⟨_, List.getElem_mem before, ?_⟩
  rw [isLoop.linked_getElem _ before (Nat.mod_lt _ positive)]
  simp only [back]

theorem IsLoop.of_blocker {other : WaitGraph} (isLoop : graph.IsLoop loop)
    (same : ∀ worker ∈ loop, other.blocker worker = graph.blocker worker) : other.IsLoop loop where
  nonempty := isLoop.nonempty
  distinct := isLoop.distinct
  linked := by
    intro index inside
    rw [same _ (List.getElem_mem inside), isLoop.linked index inside]

theorem IsCycle.of_blocker {other : WaitGraph} (isCycle : graph.IsCycle loop)
    (same : ∀ worker ∈ loop, other.blocker worker = graph.blocker worker) : other.IsCycle loop :=
  { isCycle.toIsLoop.of_blocker same with least := isCycle.least }

theorem IsLoop.rotate (isLoop : graph.IsLoop loop) (position : Nat) :
    graph.IsLoop (loop.rotate position) where
  nonempty := by
    intro empty
    exact isLoop.nonempty (List.rotate_eq_nil_iff.mp empty)
  distinct := List.nodup_rotate.mpr isLoop.distinct
  linked := by
    intro index inside
    have positive := isLoop.length_pos
    have next : (index + 1) % (loop.rotate position).length < (loop.rotate position).length := by
      rw [List.length_rotate]
      exact Nat.mod_lt _ positive
    rw [List.getElem?_eq_getElem next, List.getElem_rotate, List.getElem_rotate,
      isLoop.linked_getElem _ (Nat.mod_lt _ positive) (Nat.mod_lt _ positive)]
    simp only [List.length_rotate, Nat.mod_add_mod]
    have same : index + position + 1 = index + 1 + position := by omega
    simp only [same]

theorem IsLoop.isCycle_rotateToLeast (isLoop : graph.IsLoop loop) :
    graph.IsCycle (rotateToLeast loop) := by
  obtain ⟨position, inside, rotated, least⟩ := rotateToLeast_eq_rotate isLoop.nonempty
  rw [rotated]
  refine { isLoop.rotate position with least := ?_ }
  intro worker member
  have first : (loop.rotate position).head (isLoop.rotate position).nonempty = loop[position] := by
    rw [List.head_eq_getElem, List.getElem_rotate]
    simp only [Nat.zero_add, Nat.mod_eq_of_lt inside]
  rw [first]
  exact least worker (List.mem_rotate.mp member)

theorem isCycle_pair {left right : Worker} (lower : left.index < right.index)
    (there : graph.blocker left = some right) (back : graph.blocker right = some left) :
    graph.IsCycle [left, right] where
  nonempty := by simp
  distinct := by
    have different : left ≠ right := fun same => Nat.ne_of_lt lower (congrArg Worker.index same)
    simpa using different
  linked := by
    intro index inside
    match index, inside with
    | 0, _ => exact there
    | 1, _ => simpa using back
  least := by
    intro worker member
    rcases List.mem_cons.mp member with rfl | last
    · exact Nat.le_refl _
    · rw [List.mem_singleton.mp last]
      exact Nat.le_of_lt lower

theorem mem_rotateToLeast (nonempty : loop ≠ []) {worker : Worker} :
    worker ∈ rotateToLeast loop ↔ worker ∈ loop := by
  obtain ⟨position, _, rotated, _⟩ := rotateToLeast_eq_rotate nonempty
  rw [rotated]
  exact List.mem_rotate

theorem IsLoop.closed (isLoop : graph.IsLoop loop) : graph.Closed (· ∈ loop) := by
  intro worker other edge member
  obtain ⟨blocker, within, blocked⟩ := isLoop.blocker_mem member
  rw [edge] at blocked
  cases blocked
  exact within

theorem IsCycle.eq_of_mem {left right : List Worker} (leftCycle : graph.IsCycle left)
    (rightCycle : graph.IsCycle right) {worker : Worker} (leftMember : worker ∈ left)
    (rightMember : worker ∈ right) : left = right := by
  have forward := leftCycle.forall_mem rightCycle.closed leftMember rightMember
  have backward := rightCycle.forall_mem leftCycle.closed rightMember leftMember
  have length : left.length = right.length :=
    Nat.le_antisymm (leftCycle.distinct.length_le_of_subset forward)
      (rightCycle.distinct.length_le_of_subset backward)
  have first : left.head leftCycle.nonempty = right.head rightCycle.nonempty :=
    Worker.le_antisymm (leftCycle.least _ (backward _ (List.head_mem _)))
      (rightCycle.least _ (forward _ (List.head_mem _)))
  -- From their common first worker on both lists follow the same edges.
  have same : ∀ index (inside : index < left.length), left[index] = right[index] := by
    intro index
    induction index with
    | zero =>
        intro inside
        rw [List.head_eq_getElem, List.head_eq_getElem] at first
        exact first
    | succ index ih =>
        intro inside
        have before : index < left.length := by omega
        have leftEdge := leftCycle.linked_getElem index before
          (Nat.mod_lt _ leftCycle.length_pos)
        have rightEdge := rightCycle.linked_getElem index (by omega)
          (Nat.mod_lt _ rightCycle.length_pos)
        rw [← ih before, leftEdge] at rightEdge
        simpa only [Option.some.injEq, ← length, Nat.mod_eq_of_lt inside] using rightEdge
  exact List.ext_getElem length fun index inside _ => same index inside

end WaitGraph

end Contention
