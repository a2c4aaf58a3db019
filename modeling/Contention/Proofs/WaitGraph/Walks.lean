import Contention.Proofs.WaitGraph.Loops

namespace Contention

/-! What one walk of the search meets.  A walk goes along the wait-for edges
through workers that no walk has met before, and it ends in one of three ways:
at a worker that waits for nobody, at a worker of an earlier walk, or at one of
its own workers, found at its position.  It never runs out of steps. -/

theorem insertSorted_mem {worker other : Worker} {workers : List Worker} :
    other ∈ insertSorted worker workers ↔ other = worker ∨ other ∈ workers := by
  induction workers with
  | nil => simp [insertSorted]
  | cons next rest ih =>
      simp only [insertSorted]
      split
      · rename_i same
        simp [same]
      · split
        · simp
        · simp only [List.mem_cons, ih]
          exact or_left_comm

@[simp] theorem ascending_mem {worker : Worker} {workers : List Worker} :
    worker ∈ ascending workers ↔ worker ∈ workers := by
  induction workers with
  | nil => rfl
  | cons next rest ih =>
      simp only [ascending, List.foldr_cons, insertSorted_mem, List.mem_cons]
      exact or_congr_right ih

namespace WaitGraph

variable {graph : WaitGraph} {path : List Worker} {current next : Option Worker}

theorem waiting_of_blocker {worker other : Worker} (blocked : graph.blocker worker = some other) :
    worker ∈ graph.waits.map (·.1) := by
  unfold blocker at blocked
  split at blocked
  · contradiction
  · rename_i resource awaited
    have found : (graph.waits.reverse.lookup worker).isSome := Option.isSome_of_mem awaited
    obtain ⟨wait, member, same⟩ := List.lookup_isSome_iff.mp found
    exact List.mem_map.mpr ⟨wait, List.mem_reverse.mp member, (beq_iff_eq.mp same).symm⟩

/-- Every worker of the path waits for the one after it, and `next` is whom the
last one waits for. -/
def Follows (graph : WaitGraph) (path : List Worker) (next : Option Worker) : Prop :=
  ∀ index (inside : index < path.length),
    graph.blocker path[index] = (path ++ next.toList)[index + 1]?

theorem Follows.step {worker : Worker} (follows : graph.Follows path (some worker)) :
    graph.Follows (path ++ [worker]) (graph.blocker worker) := by
  intro index inside
  simp only [List.length_append, List.length_singleton] at inside
  by_cases old : index < path.length
  · have within : index + 1 < (path ++ [worker]).length := by simpa using old
    rw [List.getElem_append_left old, List.getElem?_append_left within]
    exact follows index old
  · have last : index = path.length := by omega
    subst last
    cases blocked : graph.blocker worker <;> simp [blocked]

theorem Follows.edge (follows : graph.Follows path next) {index : Nat}
    (inside : index + 1 < path.length) :
    graph.blocker path[index] = some path[index + 1] := by
  rw [follows index (by omega), List.getElem?_append_left inside]
  exact List.getElem?_eq_getElem inside

theorem Follows.last (follows : graph.Follows path next) (nonempty : path ≠ []) :
    graph.blocker (path.getLast nonempty) = next := by
  have positive := List.length_pos_iff.mpr nonempty
  have size : path.length - 1 + 1 = path.length := by omega
  rw [List.getLast_eq_getElem, follows (path.length - 1) (by omega), size]
  cases next <;> simp

theorem Follows.length_le {worker : Worker} (follows : graph.Follows path (some worker))
    (distinct : path.Nodup) : path.length ≤ graph.waits.length := by
  have waits : path ⊆ graph.waits.map (·.1) := by
    intro member among
    obtain ⟨index, inside, rfl⟩ := List.getElem_of_mem among
    have further : index + 1 < (path ++ (some worker).toList).length := by simpa using inside
    have edge := follows index inside
    rw [List.getElem?_eq_getElem further] at edge
    exact waiting_of_blocker edge
  simpa using distinct.length_le_of_subset waits

theorem Follows.reaches_last {group : Worker → Prop} (follows : graph.Follows path next)
    (closed : graph.Closed group) {worker : Worker} (member : worker ∈ path)
    (holds : group worker) : group (path.getLast (List.ne_nil_of_mem member)) := by
  obtain ⟨start, startInside, rfl⟩ := List.getElem_of_mem member
  have ahead : ∀ count (inside : start + count < path.length), group path[start + count] := by
    intro count
    induction count with
    | zero => exact fun _ => holds
    | succ count ih =>
        intro inside
        exact closed _ _ (follows.edge inside) (ih (by omega))
  have distance : start + (path.length - 1 - start) = path.length - 1 := by omega
  rw [List.getLast_eq_getElem]
  simpa only [distance] using ahead (path.length - 1 - start) (by omega)

/-- A path that comes back to one of its own workers has closed a loop there. -/
theorem Follows.isLoop {position : Nat} {inside : position < path.length}
    (follows : graph.Follows path (some path[position])) (distinct : path.Nodup) :
    graph.IsLoop (path.drop position) where
  nonempty := by
    intro empty
    have short := List.drop_eq_nil_iff.mp empty
    omega
  distinct := distinct.sublist (List.drop_sublist position path)
  linked := by
    intro index within
    have size : (path.drop position).length = path.length - position := List.length_drop
    rw [List.getElem_drop]
    by_cases further : position + index + 1 < path.length
    · have stays : (index + 1) % (path.drop position).length = index + 1 :=
        Nat.mod_eq_of_lt (by omega)
      rw [follows.edge further, stays, List.getElem?_drop, ← Nat.add_assoc]
      exact (List.getElem?_eq_getElem further).symm
    · have last : position + index + 1 = path.length := by omega
      have returns : (index + 1) % (path.drop position).length = 0 := by
        have whole : index + 1 = (path.drop position).length := by omega
        rw [whole, Nat.mod_self]
      rw [follows (position + index) (by omega), last, returns, List.getElem?_drop]
      simp [inside]

theorem lookup_mark (marks : Marks) (worker other : Worker) (mark : Mark) :
    List.lookup other ((worker, mark) :: marks) =
      if other = worker then some mark else List.lookup other marks := by
  by_cases same : other = worker
  · simp [same]
  · simp [List.lookup_cons, same, beq_eq_false_iff_ne.mpr same]

/-- The marks tell the workers of the path from those of earlier walks. -/
structure Marked (marks : Marks) (earlier : Worker → Prop) (path : List Worker) : Prop where
  onWalk : ∀ worker, marks.lookup worker = some .onWalk ↔ worker ∈ path
  finished : ∀ worker, marks.lookup worker = some .finished ↔ earlier worker

theorem Marked.not_earlier {marks : Marks} {earlier : Worker → Prop}
    (marked : Marked marks earlier path) {worker : Worker} (member : worker ∈ path) :
    ¬ earlier worker := by
  intro met
  have old := (marked.finished worker).mpr met
  rw [(marked.onWalk worker).mpr member] at old
  contradiction

theorem Marked.push {marks : Marks} {earlier : Worker → Prop} {worker : Worker}
    (marked : Marked marks earlier path) (fresh : marks.lookup worker = none) :
    Marked ((worker, .onWalk) :: marks) earlier (path ++ [worker]) where
  onWalk := by
    intro other
    rw [lookup_mark, List.mem_append, List.mem_singleton, ← marked.onWalk]
    by_cases same : other = worker <;> simp [same]
  finished := by
    intro other
    rw [lookup_mark, ← marked.finished]
    by_cases same : other = worker
    · simp [same, fresh]
    · simp [same]

inductive Ends (graph : WaitGraph) (earlier : Worker → Prop) (path : List Worker) :
    Ending → Prop
  | free (follows : graph.Follows path none) : graph.Ends earlier path .spent
  | met (worker : Worker) (old : earlier worker) (follows : graph.Follows path (some worker)) :
      graph.Ends earlier path .spent
  | closed (position : Nat) (inside : position < path.length)
      (follows : graph.Follows path (some path[position])) :
      graph.Ends earlier path (.closed (some position))

structure Walked (graph : WaitGraph) (earlier : Worker → Prop) (start : Worker) (walk : Walk)
    (marks : Marks) : Prop where
  starts : walk.path.head? = some start
  distinct : walk.path.Nodup
  marked : Marked marks earlier walk.path
  ends : graph.Ends earlier walk.path walk.ending

theorem walkFrom_walked {earlier : Worker → Prop} {start : Worker} (fuel : Nat) {marks : Marks}
    (starts : (path ++ current.toList).head? = some start) (distinct : path.Nodup)
    (marked : Marked marks earlier path) (fresh : ¬ earlier start)
    (follows : graph.Follows path current)
    (enough : graph.waits.length < fuel + path.length) :
    graph.Walked earlier start (graph.walkFrom fuel marks path current).1
      (graph.walkFrom fuel marks path current).2 := by
  induction fuel generalizing marks path current with
  | zero =>
      cases current with
      | none =>
          simp only [walkFrom]
          exact ⟨by simpa using starts, distinct, marked, .free follows⟩
      | some worker =>
          -- A path with no step left to go would be longer than there are waits.
          have bound := follows.length_le distinct
          omega
  | succ fuel ih =>
      cases current with
      | none =>
          simp only [walkFrom]
          exact ⟨by simpa using starts, distinct, marked, .free follows⟩
      | some worker =>
          cases found : marks.lookup worker with
          | none =>
              have new : worker ∉ path := by
                intro member
                rw [(marked.onWalk worker).mpr member] at found
                contradiction
              have longer : (path ++ [worker]).Nodup :=
                List.nodup_append.mpr ⟨distinct, by simp, by grind⟩
              have starting :
                  ((path ++ [worker]) ++ (graph.blocker worker).toList).head? = some start := by
                change (path ++ [worker]).head? = some start at starts
                rw [List.head?_append, starts]
                rfl
              simp only [walkFrom, found]
              exact ih starting longer (marked.push found) follows.step
                (by simp only [List.length_append, List.length_singleton]; omega)
          | some mark =>
              cases mark with
              | onWalk =>
                  have member := (marked.onWalk worker).mp found
                  obtain ⟨position, located⟩ :=
                    Option.isSome_iff_exists.mp (List.isSome_idxOf?.mpr member)
                  obtain ⟨inside, same, _⟩ := List.idxOf?_eq_some_iff.mp located
                  simp only [walkFrom, found, located]
                  refine ⟨?_, distinct, marked, .closed position inside (same ▸ follows)⟩
                  rwa [List.head?_append_of_ne_nil _ (List.ne_nil_of_mem member)] at starts
              | finished =>
                  have old := (marked.finished worker).mp found
                  have nonempty : path ≠ [] := by
                    rintro rfl
                    exact fresh (Option.some.inj starts ▸ old)
                  simp only [walkFrom, found]
                  refine ⟨?_, distinct, marked, .met worker old follows⟩
                  rwa [List.head?_append_of_ne_nil _ nonempty] at starts

theorem walkFrom_start (graph : WaitGraph) {earlier : Worker → Prop} {marks : Marks}
    {start : Worker} (marked : Marked marks earlier []) (unmarked : marks.lookup start = none) :
    graph.Walked earlier start (graph.walkFrom graph.stepLimit marks [] (some start)).1
      (graph.walkFrom graph.stepLimit marks [] (some start)).2 := by
  have fresh : ¬ earlier start := by
    intro old
    rw [(marked.finished start).mpr old] at unmarked
    contradiction
  have nothing : graph.Follows [] (some start) := fun _ inside => absurd inside (Nat.not_lt_zero _)
  exact walkFrom_walked graph.stepLimit rfl .nil marked fresh nothing
    (by simp only [stepLimit, List.length_nil]; omega)

end WaitGraph

end Contention
