import Contention.Proofs.WaitGraph.Search

namespace Contention

/-! The search pass by pass, with no limit to its steps.  Every pass takes up a start, puts a
worker on the walk under way or ends that walk, and no worker is put on a walk twice, so that the
passes come to an end.  Main statement: they do so with the walks that the search goes by. -/

namespace WaitGraph

inductive Place where
  | between
  /-- It has walked along the path, whose last worker waits for the next one. -/
  | walking (path : List Worker) (next : Option Worker)
deriving DecidableEq, Repr

def Place.path : Place → List Worker
  | .between => []
  | .walking path _ => path

structure Search where
  marks : Marks
  walks : List Walk
  place : Place
  /-- Workers that have not been taken up as starts. -/
  starts : List Worker
deriving DecidableEq, Repr

namespace Search

/-- All workers that have been put on walks, as often as they have been. -/
def visited (search : Search) : List Worker :=
  search.walks.flatMap (·.path) ++ search.place.path

def finish (search : Search) (walk : Walk) : Search where
  marks := walk.path.foldl (fun marks worker => (worker, .finished) :: marks) search.marks
  walks := search.walks ++ [walk]
  place := .between
  starts := search.starts

end Search

def pass (graph : WaitGraph) (search : Search) : Option Search :=
  match search.place, search.starts with
  | .between, [] => none
  | .between, start :: rest =>
      match search.marks.lookup start with
      | some _ => some { search with starts := rest }
      | none => some { search with place := .walking [] (some start), starts := rest }
  | .walking path none, _ => some (search.finish { path, ending := .spent })
  | .walking path (some worker), _ =>
      match search.marks.lookup worker with
      | none =>
          some { search with
            marks := (worker, .onWalk) :: search.marks
            place := .walking (path ++ [worker]) (graph.blocker worker) }
      | some .onWalk => some (search.finish { path, ending := .closed (path.idxOf? worker) })
      | some .finished => some (search.finish { path, ending := .spent })

def passes (graph : WaitGraph) : Nat → Search → Option Search
  | 0, search => some search
  | count + 1, search => (graph.pass search).bind (graph.passes count)

def outset (graph : WaitGraph) : Search where
  marks := []
  walks := []
  place := .between
  starts := graph.waiting

def workers (graph : WaitGraph) : List Worker :=
  graph.waits.map (·.1) ++ graph.holdings.map (·.2)

inductive Passed (graph : WaitGraph) : Search → Search → Prop
  | skipped {marks : Marks} {walks : List Walk} {start : Worker} {starts : List Worker}
      {mark : Mark} (met : marks.lookup start = some mark) :
      graph.Passed ⟨marks, walks, .between, start :: starts⟩ ⟨marks, walks, .between, starts⟩
  | begun {marks : Marks} {walks : List Walk} {start : Worker} {starts : List Worker}
      (fresh : marks.lookup start = none) :
      graph.Passed ⟨marks, walks, .between, start :: starts⟩
        ⟨marks, walks, .walking [] (some start), starts⟩
  | pushed {marks : Marks} {walks : List Walk} {path starts : List Worker} {worker : Worker}
      (fresh : marks.lookup worker = none) :
      graph.Passed ⟨marks, walks, .walking path (some worker), starts⟩
        ⟨(worker, .onWalk) :: marks, walks, .walking (path ++ [worker]) (graph.blocker worker),
          starts⟩
  | ended {marks : Marks} {walks : List Walk} {path starts : List Worker}
      {current : Option Worker} {ending : Ending}
      (met : ∀ worker, current = some worker → marks.lookup worker ≠ none) :
      graph.Passed ⟨marks, walks, .walking path current, starts⟩
        (Search.finish ⟨marks, walks, .walking path current, starts⟩ { path, ending })

/-- A walk under way has begun with a worker that waits, or is about to with one that no walk has
met. -/
inductive Underway (graph : WaitGraph) (marks : Marks) : Place → Prop
  | between : graph.Underway marks .between
  | setOut {start : Worker} (waits : start ∈ graph.waiting) (fresh : marks.lookup start = none) :
      graph.Underway marks (.walking [] (some start))
  | onward {start : Worker} {rest : List Worker} {current : Option Worker}
      (waits : start ∈ graph.waiting)
      (known : ∀ worker, current = some worker → worker ∈ graph.workers) :
      graph.Underway marks (.walking (start :: rest) current)

structure Search.Sound (graph : WaitGraph) (search : Search) : Prop where
  distinct : search.visited.Nodup
  known : ∀ worker ∈ search.visited, worker ∈ graph.workers
  marked : Marked search.marks (· ∈ search.walks.flatMap (·.path)) search.place.path
  started : ∀ walk ∈ search.walks, ∃ start ∈ graph.waiting, walk.path.head? = some start
  underway : graph.Underway search.marks search.place
  pending : ∀ start ∈ search.starts, start ∈ graph.waiting

/-- A bound of the passes that are left: two for each start, one for the end of the walk under
way, one for each worker that has not been visited. -/
def Search.left (graph : WaitGraph) (search : Search) : Nat :=
  2 * search.starts.length +
    (match search.place with
      | .between => 0
      | .walking _ _ => 1) +
    (graph.workers.length - search.visited.length)

variable {graph : WaitGraph} {search next middle final : Search} {marks : Marks}
  {walks : List Walk} {path starts : List Worker} {current : Option Worker}

theorem mem_workers_of_waiting {worker : Worker} (waits : worker ∈ graph.waiting) :
    worker ∈ graph.workers :=
  List.mem_append_left _ (ascending_mem.mp waits)

theorem mem_workers_of_blocker {worker other : Worker}
    (blocked : graph.blocker worker = some other) : other ∈ graph.workers := by
  obtain ⟨resource, _, held, _⟩ := blocker_eq_some_iff.mp blocked
  obtain ⟨before, after, split, _⟩ := List.lookup_eq_some_iff.mp held
  refine List.mem_append_right _ (List.mem_map.mpr ⟨(resource, other), ?_, rfl⟩)
  rw [split]
  exact List.mem_append_right _ List.mem_cons_self

theorem passed_of_pass (moved : graph.pass search = some next) : graph.Passed search next := by
  obtain ⟨marks, walks, place, starts⟩ := search
  cases place with
  | between =>
      cases starts with
      | nil => contradiction
      | cons start rest =>
          cases found : marks.lookup start with
          | none =>
              simp only [pass, found, Option.some.injEq] at moved
              exact moved ▸ .begun found
          | some mark =>
              simp only [pass, found, Option.some.injEq] at moved
              exact moved ▸ .skipped found
  | walking path current =>
      cases current with
      | none =>
          simp only [pass, Option.some.injEq] at moved
          exact moved ▸ .ended nofun
      | some worker =>
          cases found : marks.lookup worker with
          | none =>
              simp only [pass, found, Option.some.injEq] at moved
              exact moved ▸ .pushed found
          | some mark =>
              have met : ∀ other, some worker = some other → marks.lookup other ≠ none := by
                rintro _ ⟨⟩
                simp [found]
              cases mark <;> simp only [pass, found, Option.some.injEq] at moved <;>
                exact moved ▸ .ended met

theorem Underway.begins_waiting (underway : graph.Underway marks (.walking path current)) :
    ∃ start ∈ graph.waiting, (path ++ current.toList).head? = some start := by
  cases underway with
  | setOut waits _ => exact ⟨_, waits, rfl⟩
  | onward waits _ => exact ⟨_, waits, rfl⟩

namespace Search

theorem visited_push (marks after : Marks) (walks : List Walk) (path starts : List Worker)
    (worker : Worker) (current : Option Worker) :
    Search.visited ⟨after, walks, .walking (path ++ [worker]) current, starts⟩ =
      Search.visited ⟨marks, walks, .walking path (some worker), starts⟩ ++ [worker] :=
  (List.append_assoc ..).symm

theorem visited_finish (search : Search) (ending : Ending) :
    (search.finish { path := search.place.path, ending }).visited = search.visited := by
  simp [visited, finish, Place.path]

namespace Sound

theorem visited_length_le (sound : search.Sound graph) :
    search.visited.length ≤ graph.workers.length :=
  sound.distinct.length_le_of_subset sound.known

theorem not_visited (sound : search.Sound graph) {worker : Worker}
    (fresh : search.marks.lookup worker = none) : worker ∉ search.visited := by
  intro visited
  rcases List.mem_append.mp visited with before | under
  · rw [(sound.marked.finished worker).mpr before] at fresh
    contradiction
  · rw [(sound.marked.onWalk worker).mpr under] at fresh
    contradiction

theorem push {worker : Worker}
    (sound : Sound graph ⟨marks, walks, .walking path (some worker), starts⟩)
    (fresh : marks.lookup worker = none) :
    Sound graph ⟨(worker, .onWalk) :: marks, walks,
      .walking (path ++ [worker]) (graph.blocker worker), starts⟩ := by
  have visited := visited_push marks ((worker, .onWalk) :: marks) walks path starts worker
    (graph.blocker worker)
  have new := sound.not_visited fresh
  have onward : ∀ other, graph.blocker worker = some other → other ∈ graph.workers :=
    fun _ => mem_workers_of_blocker
  have known : worker ∈ graph.workers := by
    cases sound.underway with
    | setOut waits _ => exact mem_workers_of_waiting waits
    | onward _ reached => exact reached worker rfl
  refine ⟨?_, ?_, sound.marked.push fresh, sound.started, ?_, sound.pending⟩
  · rw [visited]
    exact List.nodup_append.mpr ⟨sound.distinct, List.nodup_singleton worker, by grind⟩
  · rw [visited]
    intro other member
    rcases List.mem_append.mp member with old | last
    · exact sound.known other old
    · exact List.mem_singleton.mp last ▸ known
  · cases sound.underway with
    | setOut waits _ => exact .onward waits onward
    | onward waits _ => exact .onward waits onward

theorem finish (sound : Sound graph ⟨marks, walks, .walking path current, starts⟩)
    (met : ∀ worker, current = some worker → marks.lookup worker ≠ none) (ending : Ending) :
    Sound graph (Search.finish ⟨marks, walks, .walking path current, starts⟩ { path, ending }) := by
  have visited := visited_finish ⟨marks, walks, .walking path current, starts⟩ ending
  have walked : Marked marks (· ∈ walks.flatMap (·.path)) (Walk.path { path, ending }) :=
    sound.marked
  have finished := walked.finish
  refine ⟨visited ▸ sound.distinct, visited ▸ sound.known, ?_, ?_, .between, sound.pending⟩
  · refine ⟨finished.onWalk, fun worker => (finished.finished worker).trans ?_⟩
    simp [Search.finish]
  · intro walk member
    rcases List.mem_append.mp member with old | last
    · exact sound.started walk old
    · obtain rfl := List.mem_singleton.mp last
      -- A walk that ends has got further than its start, which had no mark.
      cases sound.underway with
      | setOut _ fresh => exact absurd fresh (met _ rfl)
      | onward waits _ => exact ⟨_, waits, rfl⟩

theorem passed (sound : search.Sound graph) (passed : graph.Passed search next) :
    next.Sound graph := by
  cases passed with
  | skipped met =>
      exact { sound with
        pending := fun start member => sound.pending start (List.mem_cons_of_mem _ member) }
  | begun fresh =>
      exact { sound with
        underway := .setOut (sound.pending _ List.mem_cons_self) fresh
        pending := fun start member => sound.pending start (List.mem_cons_of_mem _ member) }
  | pushed fresh => exact sound.push fresh
  | ended met => exact sound.finish met _

theorem left_lt (sound : search.Sound graph) (passed : graph.Passed search next) :
    next.left graph < search.left graph := by
  have bound := (sound.passed passed).visited_length_le
  cases passed with
  | skipped met =>
      simp only [left, visited, Place.path, List.length_cons]
      omega
  | begun fresh =>
      simp only [left, visited, Place.path, List.length_cons]
      omega
  | @pushed marks walks path starts worker fresh =>
      have longer := congrArg List.length (visited_push marks ((worker, .onWalk) :: marks) walks
        path starts worker (graph.blocker worker))
      rw [List.length_append, List.length_singleton] at longer
      simp only [left]
      omega
  | @ended marks walks path starts current ending met =>
      have same := visited_finish ⟨marks, walks, .walking path current, starts⟩ ending
      change 2 * starts.length + 0 + (graph.workers.length - _) <
        2 * starts.length + 1 + (graph.workers.length - _)
      rw [← same]
      exact Nat.add_lt_add_right (Nat.lt_succ_self _) _

theorem passes {count : Nat} (sound : search.Sound graph)
    (ran : graph.passes count search = some final) :
    final.Sound graph ∧ count + final.left graph ≤ search.left graph := by
  induction count generalizing search with
  | zero =>
      cases ran
      exact ⟨sound, Nat.le_of_eq (Nat.zero_add _)⟩
  | succ count ih =>
      obtain ⟨next, moved, rest⟩ := Option.bind_eq_some_iff.mp ran
      have passed := passed_of_pass moved
      have less := sound.left_lt passed
      obtain ⟨after, bound⟩ := ih (sound.passed passed) rest
      exact ⟨after, by omega⟩

theorem rejoined (sound : search.Sound graph) {worker : Worker}
    (under : search.place = .walking path (some worker)) :
    (search.marks.lookup worker = some .onWalk ↔ worker ∈ path) ∧
      (worker ∈ path → ∃ position, path[position]? = some worker ∧
        graph.pass search =
          some (search.finish { path, ending := .closed (some position) })) := by
  have marked := sound.marked.onWalk worker
  simp only [under, Place.path] at marked
  refine ⟨marked, fun member => ?_⟩
  obtain ⟨position, located⟩ := Option.isSome_iff_exists.mp (List.isSome_idxOf?.mpr member)
  obtain ⟨inside, same, _⟩ := List.idxOf?_eq_some_iff.mp located
  refine ⟨position, List.getElem?_eq_some_iff.mpr ⟨inside, same⟩, ?_⟩
  simp only [pass, under, marked.mpr member, located]

end Sound

end Search

theorem outset_sound (graph : WaitGraph) : graph.outset.Sound graph where
  distinct := .nil
  known := by simp [outset, Search.visited, Place.path]
  marked := ⟨by simp [outset, Place.path], by simp [outset]⟩
  started := by simp [outset]
  underway := .between
  pending := fun _ member => member

theorem passes_trans {early late : Nat} (before : graph.passes early search = some middle)
    (after : graph.passes late middle = some final) :
    graph.passes (early + late) search = some final := by
  induction early generalizing search with
  | zero =>
      cases before
      rwa [Nat.zero_add]
  | succ early ih =>
      obtain ⟨next, moved, rest⟩ := Option.bind_eq_some_iff.mp before
      rw [Nat.succ_add]
      exact Option.bind_eq_some_iff.mpr ⟨next, moved, ih rest⟩

/-- A walk that is not cut off is taken pass by pass. -/
theorem walkFrom_passes (fuel : Nat) {marks : Marks} {path : List Worker} {current : Option Worker}
    (uncut : (graph.walkFrom fuel marks path current).1.ending ≠ .cut) (walks : List Walk)
    (starts : List Worker) :
    ∃ count, graph.passes count ⟨marks, walks, .walking path current, starts⟩ =
      some (Search.finish
        ⟨(graph.walkFrom fuel marks path current).2, walks, .walking path current, starts⟩
        (graph.walkFrom fuel marks path current).1) := by
  induction fuel generalizing marks path current with
  | zero =>
      cases current with
      | none =>
          simp only [walkFrom]
          exact ⟨1, rfl⟩
      | some worker => exact absurd rfl uncut
  | succ fuel ih =>
      cases current with
      | none =>
          simp only [walkFrom]
          exact ⟨1, rfl⟩
      | some worker =>
          cases found : marks.lookup worker with
          | none =>
              simp only [walkFrom, found] at uncut ⊢
              obtain ⟨count, ran⟩ := ih uncut
              refine ⟨count + 1, Option.bind_eq_some_iff.mpr ⟨_, ?_, ran⟩⟩
              simp only [pass, found]
          | some mark =>
              refine ⟨1, Option.bind_eq_some_iff.mpr ⟨_, ?_, rfl⟩⟩
              cases mark <;> simp only [pass, walkFrom, found]

theorem walksFrom_passes (starts : List Worker) {marks : Marks}
    (uncut : ∀ walk ∈ graph.walksFrom marks starts, walk.ending ≠ .cut) (walks : List Walk) :
    ∃ count final, graph.passes count ⟨marks, walks, .between, starts⟩ = some final ∧
      graph.pass final = none ∧ final.walks = walks ++ graph.walksFrom marks starts := by
  induction starts generalizing marks walks with
  | nil => exact ⟨0, _, rfl, rfl, (List.append_nil walks).symm⟩
  | cons start rest ih =>
      cases found : marks.lookup start with
      | some mark =>
          simp only [walksFrom, found] at uncut ⊢
          obtain ⟨count, final, ran, ended, same⟩ := ih uncut walks
          refine ⟨count + 1, final, Option.bind_eq_some_iff.mpr ⟨_, ?_, ran⟩, ended, same⟩
          simp only [pass, found]
      | none =>
          simp only [walksFrom, found, List.forall_mem_cons] at uncut ⊢
          obtain ⟨length, walked⟩ := walkFrom_passes graph.stepLimit uncut.1 walks rest
          obtain ⟨count, final, ran, ended, same⟩ := ih uncut.2 (walks ++ [_])
          refine ⟨length + count + 1, final, Option.bind_eq_some_iff.mpr
            ⟨_, ?_, passes_trans walked ran⟩, ended, ?_⟩
          · simp only [pass, found]
          · rw [same, List.append_assoc]
            rfl

/-- No walk of the search is cut off, and none comes back to a worker without finding it. -/
theorem ending_of_walk {walk : Walk} (member : walk ∈ graph.walks) :
    walk.ending = .spent ∨
      ∃ position < walk.path.length, walk.ending = .closed (some position) := by
  obtain ⟨_, _, _, _, _, walked⟩ := graph.walks_searched.each walk member
  obtain ⟨path, ending⟩ := walk
  cases walked.ends with
  | free _ => exact .inl rfl
  | met _ _ _ => exact .inl rfl
  | closed position inside _ => exact .inr ⟨position, inside, rfl⟩

theorem passes_end (graph : WaitGraph) :
    ∃ count final, count ≤ 2 * graph.waiting.length + graph.workers.length ∧
      graph.passes count graph.outset = some final ∧ graph.pass final = none ∧
      final.walks = graph.walks := by
  have uncut : ∀ walk ∈ graph.walks, walk.ending ≠ .cut := by
    intro walk member
    rcases ending_of_walk member with spent | ⟨_, _, closed⟩
    · simp [spent]
    · simp [closed]
  obtain ⟨count, final, ran, ended, same⟩ := walksFrom_passes graph.waiting uncut []
  obtain ⟨_, bound⟩ := graph.outset_sound.passes ran
  have whole : graph.outset.left graph = 2 * graph.waiting.length + graph.workers.length := rfl
  exact ⟨count, final, by omega, ran, ended, same⟩

theorem visited_of_waiting (same : final.walks = graph.walks) {worker : Worker}
    (waits : worker ∈ graph.waiting) : worker ∈ final.visited := by
  obtain nobody | ⟨walk, among, onPath⟩ := graph.walks_searched.covered worker waits
  · contradiction
  · rw [← same] at among
    exact List.mem_append_left _ (List.mem_flatMap.mpr ⟨walk, among, onPath⟩)

/-- The search ends, after no more passes than two for each worker that waits and one for each
entry of the records, and with the walks that the cycles are read from; they have met all workers
that wait, none of them is cut off, and none comes back to a worker without finding it.  However
far the search has come, no worker has been put on a walk twice, be it on the same walk or on
another, and every walk has begun with a worker that waits; a worker is marked as one of the walk
under way just when it stands on its path, and if the walk comes back to it the next pass finds
its position there. -/
theorem search_ends (snapshots : List Snapshot) :
    let graph := ofSnapshots snapshots
    (∃ count final, count ≤ 2 * graph.waiting.length + graph.workers.length ∧
      graph.passes count graph.outset = some final ∧ graph.pass final = none ∧
      final.walks = graph.walks ∧ ∀ worker ∈ graph.waiting, worker ∈ final.visited) ∧
    (∀ walk ∈ graph.walks, walk.ending = .spent ∨
      ∃ position < walk.path.length, walk.ending = .closed (some position)) ∧
    ∀ count search, graph.passes count graph.outset = some search →
      search.visited.Nodup ∧
      (∀ walk ∈ search.walks, ∃ start ∈ graph.waiting, walk.path.head? = some start) ∧
      (∀ path next, search.place = .walking path next →
        ∃ start ∈ graph.waiting, (path ++ next.toList).head? = some start) ∧
      ∀ path worker, search.place = .walking path (some worker) →
        (search.marks.lookup worker = some .onWalk ↔ worker ∈ path) ∧
        (worker ∈ path → ∃ position, path[position]? = some worker ∧
          graph.pass search =
            some (search.finish { path, ending := .closed (some position) })) := by
  intro graph
  refine ⟨?_, fun walk member => ending_of_walk member, fun count search ran => ?_⟩
  · obtain ⟨count, final, bound, ran, ended, same⟩ := graph.passes_end
    exact ⟨count, final, bound, ran, ended, same, fun worker => visited_of_waiting same⟩
  · obtain ⟨sound, _⟩ := graph.outset_sound.passes ran
    refine ⟨sound.distinct, sound.started, fun path next under => ?_,
      fun path worker under => sound.rejoined under⟩
    have underway := sound.underway
    rw [under] at underway
    exact underway.begins_waiting

/-- A walk that comes into a circular wait from outside closes it at its second worker. -/
theorem search_ends_in_a_loop :
    let snapshots : List Snapshot := [⟨⟨0⟩, .none, some ⟨1⟩, 0, 0⟩,
      ⟨⟨1⟩, .one ⟨1⟩, some ⟨2⟩, 0, 0⟩, ⟨⟨2⟩, .one ⟨2⟩, some ⟨1⟩, 0, 0⟩]
    let graph := ofSnapshots snapshots
    ∃ search, graph.passes 4 graph.outset = some search ∧
      search.place = .walking [⟨0⟩, ⟨1⟩, ⟨2⟩] (some ⟨1⟩) ∧
      search.marks.lookup ⟨1⟩ = some .onWalk ∧
      ∃ position, [⟨0⟩, ⟨1⟩, ⟨2⟩][position]? = some (⟨1⟩ : Worker) ∧
        graph.pass search = some (search.finish
          { path := [⟨0⟩, ⟨1⟩, ⟨2⟩], ending := .closed (some position) }) := by
  intro snapshots graph
  have ran : graph.passes 4 graph.outset =
      some ⟨[(⟨2⟩, .onWalk), (⟨1⟩, .onWalk), (⟨0⟩, .onWalk)], [],
        .walking [⟨0⟩, ⟨1⟩, ⟨2⟩] (some ⟨1⟩), [⟨1⟩, ⟨2⟩]⟩ := by decide +kernel
  obtain ⟨_, _, reached⟩ := search_ends snapshots
  obtain ⟨_, _, _, rejoined⟩ := reached 4 _ ran
  obtain ⟨marked, found⟩ := rejoined _ _ rfl
  have member : (⟨1⟩ : Worker) ∈ [⟨0⟩, ⟨1⟩, ⟨2⟩] := by decide
  exact ⟨_, ran, rfl, marked.mpr member, found member⟩

end WaitGraph

end Contention
