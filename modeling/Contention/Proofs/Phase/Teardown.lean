import Contention.Phase.Teardown
import Contention.Proofs.Snapshots

namespace Contention.Teardown

variable {teardown final : Teardown} {looks rest : List Poll} {poll last : Poll}
  {hasEnded : Worker → Bool}

/-- Whoever is found to have ended is found so in every later look. -/
def Lasting (looks : List Poll) : Prop :=
  looks.Pairwise fun early late =>
    ∀ worker, early.hasEnded worker = true → late.hasEnded worker = true

/-- After this look there is nobody left to wait for, or no time. -/
def Settles (teardown : Teardown) (poll : Poll) : Prop :=
  (∀ worker ∈ teardown.pending, poll.hasEnded worker = true) ∨ teardown.deadline ≤ poll.now

theorem pending_look (teardown : Teardown) (hasEnded : Worker → Bool) :
    (teardown.look hasEnded).pending = teardown.pending.filter (! hasEnded ·) := by
  rw [look, List.partition_eq_filter_filter]
  rfl

theorem joined_look (teardown : Teardown) (hasEnded : Worker → Bool) :
    (teardown.look hasEnded).joined = teardown.joined ++ teardown.pending.filter hasEnded := by
  rw [look, List.partition_eq_filter_filter]

theorem isOver_look_iff (teardown : Teardown) (poll : Poll) :
    (teardown.look poll.hasEnded).isOver poll.now = true ↔ teardown.Settles poll := by
  rw [isOver, Bool.or_eq_true, List.isEmpty_iff, decide_eq_true_iff, pending_look,
    List.filter_eq_nil_iff]
  simp only [Bool.not_eq_true', Bool.not_eq_false]
  rfl

def seen (teardown : Teardown) (looks : List Poll) : Teardown :=
  looks.foldl (fun teardown poll => teardown.look poll.hasEnded) teardown

theorem seen_append (teardown : Teardown) (looks : List Poll) (poll : Poll) :
    teardown.seen (looks ++ [poll]) = (teardown.seen looks).look poll.hasEnded := by
  rw [seen, List.foldl_append]
  rfl

theorem watch_append (waits : teardown.watch looks = none) (poll : Poll) :
    teardown.watch (looks ++ [poll]) =
      if ((teardown.seen looks).look poll.hasEnded).isOver poll.now then
        some ((teardown.seen looks).look poll.hasEnded)
      else none := by
  induction looks generalizing teardown with
  | nil => rfl
  | cons first rest ih =>
      rw [watch] at waits
      split at waits
      · contradiction
      · rename_i early
        rw [List.cons_append, watch, if_neg early, ih waits]
        rfl

theorem settles_look_iff
    (lasts : ∀ worker, poll.hasEnded worker = true → last.hasEnded worker = true) :
    (teardown.look poll.hasEnded).Settles last ↔ teardown.Settles last := by
  refine or_congr ?_ Iff.rfl
  rw [pending_look]
  constructor
  · intro others worker member
    cases ended : poll.hasEnded worker with
    | true => exact lasts worker ended
    | false => exact others worker (List.mem_filter.mpr ⟨member, by rw [ended]; rfl⟩)
  · exact fun all worker member => all worker (List.mem_of_mem_filter member)

theorem ended_look_perm
    (lasts : ∀ worker, poll.hasEnded worker = true → last.hasEnded worker = true) :
    ((teardown.look poll.hasEnded).joined ++
        (teardown.look poll.hasEnded).pending.filter last.hasEnded).Perm
      (teardown.joined ++ teardown.pending.filter last.hasEnded) := by
  have early : (teardown.pending.filter last.hasEnded).filter poll.hasEnded =
      teardown.pending.filter poll.hasEnded := by
    rw [List.filter_filter]
    refine List.filter_congr fun worker _ => ?_
    cases ended : poll.hasEnded worker with
    | true => rw [lasts worker ended, Bool.and_self]
    | false => rw [Bool.false_and]
  have parts := List.filter_append_perm poll.hasEnded (teardown.pending.filter last.hasEnded)
  rw [early, List.filter_comm] at parts
  rw [joined_look, pending_look, List.append_assoc]
  exact parts.append_left _

theorem left_look
    (lasts : ∀ worker, poll.hasEnded worker = true → last.hasEnded worker = true) :
    (teardown.look poll.hasEnded).pending.filter (! last.hasEnded ·) =
      teardown.pending.filter (! last.hasEnded ·) := by
  rw [pending_look, List.filter_filter]
  refine List.filter_congr fun worker _ => ?_
  cases ended : poll.hasEnded worker with
  | true => rw [lasts worker ended, Bool.not_true, Bool.false_and]
  | false => rw [Bool.not_false, Bool.and_true]

theorem watch_eq_none_iff (lasting : Lasting looks) :
    teardown.watch looks = none ↔ ∀ poll ∈ looks, ¬ teardown.Settles poll := by
  induction looks generalizing teardown with
  | nil => exact iff_of_true rfl nofun
  | cons poll rest ih =>
      obtain ⟨lasts, onward⟩ := List.pairwise_cons.mp lasting
      rw [watch, List.forall_mem_cons, ← isOver_look_iff]
      split
      · rename_i settled
        exact iff_of_false nofun fun waits => waits.1 settled
      · rename_i waits
        rw [ih onward, and_iff_right waits]
        exact forall₂_congr fun last member => not_congr (settles_look_iff (lasts last member))

/-- A teardown comes to its end with the first look that settles it.  It has then joined those who
had ended by that look, and left the others in their order. -/
theorem watched (lasting : Lasting looks) (watched : teardown.watch looks = some final) :
    ∃ before last rest, looks = before ++ last :: rest ∧
      (∀ poll ∈ before, ¬ teardown.Settles poll) ∧ teardown.Settles last ∧
      final.pending = teardown.pending.filter (! last.hasEnded ·) ∧
      final.joined.Perm (teardown.joined ++ teardown.pending.filter last.hasEnded) := by
  induction looks generalizing teardown with
  | nil => contradiction
  | cons poll rest ih =>
      obtain ⟨lasts, onward⟩ := List.pairwise_cons.mp lasting
      rw [watch] at watched
      split at watched
      · rename_i settled
        cases watched
        refine ⟨[], poll, rest, rfl, nofun, (isOver_look_iff ..).mp settled, pending_look .., ?_⟩
        rw [joined_look]
      · rename_i waits
        obtain ⟨before, last, after, parts, early, settled, left, joined⟩ := ih onward watched
        have among : ∀ other ∈ before ++ [last], other ∈ rest := by
          intro other member
          rw [parts, List.append_cons]
          exact List.mem_append_left _ member
        have same : ∀ worker, poll.hasEnded worker = true → last.hasEnded worker = true :=
          lasts last (among last (List.mem_append_right _ List.mem_cons_self))
        refine ⟨poll :: before, last, after, by rw [parts, List.cons_append], ?_,
          (settles_look_iff same).mp settled, left.trans (left_look same),
          joined.trans (ended_look_perm same)⟩
        refine List.forall_mem_cons.mpr ⟨?_, fun other member => ?_⟩
        · rwa [← isOver_look_iff]
        · rw [← settles_look_iff (lasts other (among other (List.mem_append_left _ member)))]
          exact early other member

end Contention.Teardown
