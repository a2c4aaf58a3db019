import Contention.Proofs.Plan
import Contention.Proofs.Workshop.Steps
import Contention.Worker.Loop

namespace Contention

namespace Workshop

variable {shop next : Workshop} {worker other : Worker} {site : Site} {guard : Guard}

/-- What a slot will hold, oldest first, when it comes to the end of what it is in
the middle of. -/
def due (shop : Workshop) (worker : Worker) : List Site :=
  match shop.activity worker with
  | .locking site => (shop.guardsOf worker).map (·.site) ++ [site]
  | .shifting guard => ((shop.free guard).guardsOf worker).map (·.site)
  | .unlocking guard => ((shop.free guard).guardsOf worker).map (·.site)
  | _ => (shop.guardsOf worker).map (·.site)

theorem due_idle (idle : shop.activity worker = .idle) :
    shop.due worker = (shop.guardsOf worker).map (·.site) := by
  rw [due, idle]

theorem due_locking (locking : shop.activity worker = .locking site) :
    shop.due worker = (shop.guardsOf worker).map (·.site) ++ [site] := by
  rw [due, locking]

theorem Advanced.due (advanced : shop.Advanced worker next) :
    next.due worker = shop.due worker := by
  have onBoard := advanced.onBoard
  unfold Workshop.due
  cases advanced with
  | lock site locking =>
      rw [activity_after (frame_lock shop worker site) onBoard, locking]
      simp only [guardsOf_setActivity, guardsOf_lock, if_pos, List.map_append]
      rfl
  | note guard recording =>
      rw [activity_after (frame_rewrite shop worker _) onBoard, recording]
      rfl
  | settle guard settling =>
      rw [activity_after (frame_rewrite shop worker _) onBoard, settling]
      rfl
  | clear guard shifting =>
      rw [activity_after (frame_rewrite shop worker _) onBoard, shifting]
      rfl
  | unlock guard unlocking =>
      rw [activity_after (.refl (shop.free guard) worker) onBoard, unlocking]
      rfl

theorem Frame.due {before after : Workshop} (frame : Frame before after worker)
    (different : other ≠ worker) : after.due other = before.due other := by
  unfold Workshop.due
  rw [frame.activity other different, frame.guardsOf other different]
  simp only [guardsOf_free, frame.guardsOf other different]

theorem sites_of_free (guarded : shop.Guarded) (own : guard ∈ shop.guardsOf worker) :
    ((shop.free guard).guardsOf worker).map (·.site) =
      ((shop.guardsOf worker).map (·.site)).filter fun site => decide (site ≠ guard.site) := by
  rw [guardsOf_free, List.filter_map]
  congr 1
  refine List.filter_congr fun kept member => ?_
  have live := (mem_guardsOf.mp own).1
  have keptLive := (mem_guardsOf.mp member).1
  have same : kept.number = guard.number ↔ kept.site = guard.site := by
    constructor
    · exact fun equal => congrArg Guard.site (guarded.eq_of_number keptLive live equal)
    · exact fun equal => congrArg Guard.number (guarded.eq_of_site keptLive live equal)
  simp only [Function.comp, ne_eq, same]

end Workshop

end Contention
