import Contention.Proofs.WaitGraph.Walks

namespace Contention

/-! The search as a whole.  Its walks share no worker, together they meet every
worker that waits, and each finds the cycle among its workers, if there is one.
Main statement: the cycles found are exactly the circular waits of the graph,
each once, in dictionary order. -/

theorem lookup_foldl_finished (path : List Worker) (marks : Marks) (worker : Worker) :
    List.lookup worker (path.foldl (fun marks worker => (worker, .finished) :: marks) marks) =
      if worker ∈ path then some .finished else List.lookup worker marks := by
  induction path generalizing marks with
  | nil => simp
  | cons next rest ih =>
      rw [List.foldl_cons, ih, WaitGraph.lookup_mark]
      by_cases later : worker ∈ rest
      · simp [later]
      · by_cases same : worker = next <;> simp [later, same]

theorem dictionaryLe_cons {left right : Worker} {lefts rights : List Worker} :
    dictionaryLe (left :: lefts) (right :: rights) = true ↔
      left.index < right.index ∨ left = right ∧ dictionaryLe lefts rights = true := by
  by_cases same : left = right
  · simp [dictionaryLe, same]
  · have apart : left.index ≠ right.index := fun equal => same (congrArg Worker.mk equal)
    simp only [dictionaryLe, same, if_false, decide_eq_true_eq, Worker.le_iff, false_and, or_false]
    omega

theorem dictionaryLe_total (left right : List Worker) :
    (dictionaryLe left right || dictionaryLe right left) = true := by
  rw [Bool.or_eq_true]
  induction left generalizing right with
  | nil => exact .inl rfl
  | cons worker rest ih =>
      cases right with
      | nil => exact .inr rfl
      | cons other others =>
          simp only [dictionaryLe_cons]
          rcases Nat.lt_trichotomy worker.index other.index with below | same | above
          · exact .inl (.inl below)
          · have equal : worker = other := congrArg Worker.mk same
            rcases ih others with forward | backward
            · exact .inl (.inr ⟨equal, forward⟩)
            · exact .inr (.inr ⟨equal.symm, backward⟩)
          · exact .inr (.inl above)

theorem dictionaryLe_trans (left middle right : List Worker)
    (lower : dictionaryLe left middle = true) (upper : dictionaryLe middle right = true) :
    dictionaryLe left right = true := by
  induction left generalizing middle right with
  | nil => rfl
  | cons worker rest ih =>
      cases middle with
      | nil => contradiction
      | cons between betweens =>
          cases right with
          | nil => contradiction
          | cons other others =>
              rw [dictionaryLe_cons] at lower upper ⊢
              rcases lower with below | ⟨rfl, lower⟩
              · rcases upper with above | ⟨rfl, _⟩
                · exact .inl (Nat.lt_trans below above)
                · exact .inl below
              · rcases upper with above | ⟨rfl, upper⟩
                · exact .inl above
                · exact .inr ⟨rfl, ih betweens others lower upper⟩

theorem lex_of_dictionaryLe {left right : List Worker} (ordered : dictionaryLe left right = true)
    (different : left ≠ right) :
    List.Lex (fun lower upper : Worker => lower.index < upper.index) left right := by
  induction left generalizing right with
  | nil =>
      cases right with
      | nil => contradiction
      | cons other others => exact .nil
  | cons worker rest ih =>
      cases right with
      | nil => contradiction
      | cons other others =>
          rcases dictionaryLe_cons.mp ordered with below | ⟨rfl, later⟩
          · exact .rel below
          · exact .cons (ih later fun same => different (congrArg (worker :: ·) same))

namespace WaitGraph

variable {graph : WaitGraph} {earlier : Worker → Prop} {start : Worker} {walk : Walk}
  {marks : Marks} {cycle : List Worker}

theorem Marked.finish (marked : Marked marks earlier walk.path) :
    Marked (walk.path.foldl (fun marks worker => (worker, .finished) :: marks) marks)
      (fun worker => earlier worker ∨ worker ∈ walk.path) [] where
  onWalk := by
    intro worker
    rw [lookup_foldl_finished]
    by_cases member : worker ∈ walk.path
    · simp [member]
    · simp only [member, if_false, marked.onWalk, List.not_mem_nil]
  finished := by
    intro worker
    rw [lookup_foldl_finished]
    by_cases member : worker ∈ walk.path
    · simp [member]
    · simp only [member, if_false, marked.finished, or_false]

/-- Nobody on a walk waits for a worker that neither it nor an earlier walk has
met. -/
theorem Walked.closed (walked : graph.Walked earlier start walk marks)
    (before : graph.Closed earlier) :
    graph.Closed fun worker => earlier worker ∨ worker ∈ walk.path := by
  have onward : ∀ next, graph.Follows walk.path next →
      (∀ other, next = some other → earlier other ∨ other ∈ walk.path) →
      graph.Closed fun worker => earlier worker ∨ worker ∈ walk.path := by
    intro next follows known worker other edge member
    rcases member with old | member
    · exact .inl (before worker other edge old)
    · obtain ⟨index, inside, rfl⟩ := List.getElem_of_mem member
      by_cases further : index + 1 < walk.path.length
      · rw [follows.edge further] at edge
        cases edge
        exact .inr (List.getElem_mem further)
      · have nonempty := List.ne_nil_of_mem member
        have last : walk.path[index] = walk.path.getLast nonempty := by
          rw [List.getLast_eq_getElem]
          congr 1
          omega
        rw [last, follows.last nonempty] at edge
        exact known other edge
  obtain ⟨path, ending⟩ := walk
  cases walked.ends with
  | free follows => exact onward none follows (by simp)
  | met worker old follows => exact onward _ follows (by rintro _ ⟨⟩; exact .inl old)
  | closed position inside follows =>
      exact onward _ follows (by rintro _ ⟨⟩; exact .inr (List.getElem_mem inside))

theorem Walked.isCycle (walked : graph.Walked earlier start walk marks)
    (found : walk.cycle? = some cycle) :
    graph.IsCycle cycle ∧ ∀ worker ∈ cycle, worker ∈ walk.path := by
  obtain ⟨path, ending⟩ := walk
  cases walked.ends with
  | free follows => contradiction
  | met worker old follows => contradiction
  | closed position inside follows =>
      have isLoop := follows.isLoop walked.distinct
      simp only [Walk.cycle?, Option.some.injEq] at found
      subst found
      refine ⟨isLoop.isCycle_rotateToLeast, fun worker member => ?_⟩
      exact List.mem_of_mem_drop ((mem_rotateToLeast isLoop.nonempty).mp member)

/-- A cycle that has a worker on a walk is the one that the walk closes. -/
theorem Walked.cycle?_eq (walked : graph.Walked earlier start walk marks)
    (before : graph.Closed earlier) (isCycle : graph.IsCycle cycle) {worker : Worker}
    (member : worker ∈ cycle) (onPath : worker ∈ walk.path) : walk.cycle? = some cycle := by
  have fresh := walked.marked.not_earlier onPath
  obtain ⟨path, ending⟩ := walk
  have nonempty := List.ne_nil_of_mem onPath
  have lastMember : ∀ {next}, graph.Follows path next → path.getLast nonempty ∈ cycle :=
    fun follows => follows.reaches_last isCycle.closed onPath member
  cases walked.ends with
  | free follows =>
      obtain ⟨_, _, blocked⟩ := isCycle.blocker_mem (lastMember follows)
      rw [follows.last nonempty] at blocked
      contradiction
  | met other old follows =>
      have among := isCycle.closed _ _ (follows.last nonempty) (lastMember follows)
      exact absurd (isCycle.forall_mem before among old worker member) fresh
  | closed position inside follows =>
      have isLoop := follows.isLoop walked.distinct
      have among := isCycle.closed _ _ (follows.last nonempty) (lastMember follows)
      have looped : path[position] ∈ rotateToLeast (path.drop position) := by
        rw [mem_rotateToLeast isLoop.nonempty, List.drop_eq_getElem_cons inside]
        exact List.mem_cons_self
      simp only [Walk.cycle?, Option.some.injEq]
      exact isLoop.isCycle_rotateToLeast.eq_of_mem isCycle looped among

structure Searched (graph : WaitGraph) (earlier : Worker → Prop) (starts : List Worker)
    (walks : List Walk) : Prop where
  each : ∀ walk ∈ walks, ∃ known start marks, graph.Closed known ∧ start ∈ starts ∧
    graph.Walked known start walk marks
  fresh : ∀ walk ∈ walks, ∀ worker ∈ walk.path, ¬ earlier worker
  disjoint : walks.Pairwise fun left right => left.path.Disjoint right.path
  covered : ∀ start ∈ starts, earlier start ∨ ∃ walk ∈ walks, start ∈ walk.path

theorem walksFrom_searched (starts : List Worker) {marks : Marks}
    (marked : Marked marks earlier []) (before : graph.Closed earlier) :
    graph.Searched earlier starts (graph.walksFrom marks starts) := by
  induction starts generalizing marks earlier with
  | nil => exact ⟨by simp [walksFrom], by simp [walksFrom], .nil, by simp⟩
  | cons start rest ih =>
      cases found : marks.lookup start with
      | some mark =>
          have tail := ih marked before
          have old : earlier start := by
            cases mark with
            | onWalk => exact absurd ((marked.onWalk start).mp found) List.not_mem_nil
            | finished => exact (marked.finished start).mp found
          simp only [walksFrom, found]
          refine ⟨?_, tail.fresh, tail.disjoint, ?_⟩
          · intro walk member
            obtain ⟨known, first, after, closed, among, walked⟩ := tail.each walk member
            exact ⟨known, first, after, closed, List.mem_cons_of_mem _ among, walked⟩
          · intro worker member
            rcases List.mem_cons.mp member with rfl | member
            · exact .inl old
            · exact tail.covered worker member
      | none =>
          have walked := walkFrom_start graph marked found
          simp only [walksFrom, found]
          generalize graph.walkFrom graph.stepLimit marks [] (some start) = result at walked
          obtain ⟨walk, after⟩ := result
          have tail := ih walked.marked.finish (walked.closed before)
          have startMember : start ∈ walk.path := List.mem_of_mem_head? walked.starts
          refine ⟨?_, ?_, ?_, ?_⟩
          · intro other member
            rcases List.mem_cons.mp member with rfl | member
            · exact ⟨earlier, start, after, before, List.mem_cons_self, walked⟩
            · obtain ⟨known, first, later, closed, among, walked⟩ := tail.each other member
              exact ⟨known, first, later, closed, List.mem_cons_of_mem _ among, walked⟩
          · intro other member worker onPath
            rcases List.mem_cons.mp member with rfl | member
            · exact walked.marked.not_earlier onPath
            · exact fun old => tail.fresh other member worker onPath (.inl old)
          · refine List.pairwise_cons.mpr
              ⟨fun other member worker onPath again => ?_, tail.disjoint⟩
            exact tail.fresh other member worker again (.inr onPath)
          · intro worker member
            rcases List.mem_cons.mp member with rfl | member
            · exact .inr ⟨walk, List.mem_cons_self, startMember⟩
            · rcases tail.covered worker member with (old | onPath) | ⟨other, among, onPath⟩
              · exact .inl old
              · exact .inr ⟨walk, List.mem_cons_self, onPath⟩
              · exact .inr ⟨other, List.mem_cons_of_mem _ among, onPath⟩

theorem walks_searched (graph : WaitGraph) :
    graph.Searched (fun _ => False) graph.waiting graph.walks := by
  have nobody : Marked [] (fun _ => False) [] := ⟨by simp, by simp⟩
  exact walksFrom_searched graph.waiting nobody fun _ _ _ none => none

theorem mem_cycles_iff : cycle ∈ graph.cycles ↔ graph.IsCycle cycle := by
  have searched := graph.walks_searched
  rw [cycles, List.mem_mergeSort, List.mem_filterMap]
  constructor
  · rintro ⟨walk, member, found⟩
    obtain ⟨_, _, _, _, _, walked⟩ := searched.each walk member
    exact (walked.isCycle found).1
  · intro isCycle
    -- The first worker of a cycle waits, so that some walk has met it.
    have first := List.head_mem isCycle.nonempty
    obtain ⟨_, _, blocked⟩ := isCycle.blocker_mem first
    have waits : cycle.head isCycle.nonempty ∈ graph.waiting :=
      ascending_mem.mpr (waiting_of_blocker blocked)
    obtain old | ⟨walk, member, onPath⟩ := searched.covered _ waits
    · contradiction
    · obtain ⟨_, _, _, closed, _, walked⟩ := searched.each walk member
      exact ⟨walk, member, walked.cycle?_eq closed isCycle first onPath⟩

/-- No two walks close the same cycle, since each has all workers of its own. -/
theorem cycles_nodup (graph : WaitGraph) : graph.cycles.Nodup := by
  have searched := graph.walks_searched
  rw [cycles, (List.mergeSort_perm _ _).nodup_iff]
  refine List.Pairwise.filterMap Walk.cycle? ?_
    (List.Pairwise.and_mem.mp searched.disjoint)
  rintro left right ⟨leftMember, rightMember, disjoint⟩ cycle leftFound other rightFound rfl
  obtain ⟨_, _, _, _, _, leftWalked⟩ := searched.each left leftMember
  obtain ⟨_, _, _, _, _, rightWalked⟩ := searched.each right rightMember
  obtain ⟨isCycle, leftOnPath⟩ := leftWalked.isCycle leftFound
  obtain ⟨_, rightOnPath⟩ := rightWalked.isCycle rightFound
  have first := List.head_mem isCycle.nonempty
  exact disjoint (leftOnPath _ first) (rightOnPath _ first)

theorem cycles_flatten_nodup (graph : WaitGraph) : graph.cycles.flatten.Nodup := by
  refine List.nodup_flatten.mpr ⟨fun cycle listed => (mem_cycles_iff.mp listed).distinct, ?_⟩
  refine graph.cycles_nodup.imp_of_mem fun leftListed rightListed different worker left right => ?_
  have isCycle := mem_cycles_iff.mp leftListed
  exact different (isCycle.eq_of_mem (mem_cycles_iff.mp rightListed) left right)

theorem cycles_ordered (graph : WaitGraph) :
    graph.cycles.Pairwise (List.Lex fun lower upper => lower.index < upper.index) := by
  have sorted : graph.cycles.Pairwise fun left right => dictionaryLe left right = true :=
    List.pairwise_mergeSort dictionaryLe_trans dictionaryLe_total _
  exact (sorted.and graph.cycles_nodup).imp fun pair => lex_of_dictionaryLe pair.1 pair.2

/-- The search finds every circular wait and nothing else: what is listed are the
rows of different workers, each from its least one on, in which each waits for
the next and the last for the first.  None is listed twice, no two of them share
a worker, and they stand in dictionary order. -/
theorem cycles_exact (snapshots : List Snapshot) :
    (∀ cycle, cycle ∈ (ofSnapshots snapshots).cycles ↔ (ofSnapshots snapshots).IsCycle cycle) ∧
      (ofSnapshots snapshots).cycles.Nodup ∧
      (∀ left ∈ (ofSnapshots snapshots).cycles, ∀ right ∈ (ofSnapshots snapshots).cycles,
        left ≠ right → left.Disjoint right) ∧
      (ofSnapshots snapshots).cycles.Pairwise
        (List.Lex fun lower upper => lower.index < upper.index) := by
  refine ⟨fun _ => mem_cycles_iff, cycles_nodup _, ?_, cycles_ordered _⟩
  intro left leftListed right rightListed different worker leftMember rightMember
  have leftCycle := mem_cycles_iff.mp leftListed
  have rightCycle := mem_cycles_iff.mp rightListed
  exact different (leftCycle.eq_of_mem rightCycle leftMember rightMember)

end WaitGraph

end Contention
