import Contention.Proofs.Rows
import Contention.Proofs.Signals.Atomicity
import Mathlib.Data.List.Perm.Subperm
import Mathlib.Data.List.Range

namespace Contention

section

variable {α β : Type} {entries : List α}

theorem sublist_filterMap {look wider : α → Option β}
    (kept : ∀ entry value, look entry = some value → wider entry = some value) :
    (entries.filterMap look).Sublist (entries.filterMap wider) := by
  induction entries with
  | nil => exact .slnil
  | cons head rest ih =>
      cases found : look head with
      | none =>
          rw [List.filterMap_cons_none found, List.filterMap_cons]
          cases wider head with
          | none => exact ih
          | some value => exact ih.cons value
      | some value =>
          rw [List.filterMap_cons_some found, List.filterMap_cons_some (kept head value found)]
          exact ih.cons_cons value

end

namespace Signals

theorem Ask.total_effect {signals : Signals} {ask : Ask} (other : ask ≠ .record) :
    (ask.effect signals).1.total = signals.total := by
  cases ask with
  | record => contradiction
  | stop reason =>
      rw [effect, halt]
      cases signals.reason <;> rfl
  | isStopped | why => rfl

namespace Call

def Stage.result? : Stage → Option Answer
  | .returned answer => some answer
  | _ => none

theorem Stage.answer?_of_result {stage : Stage} {answer : Answer}
    (returned : stage.result? = some answer) : stage.answer? = some answer := by
  cases stage with
  | returned given => exact returned
  | _ => contradiction

theorem Stage.result?_of_returned {stage : Stage} (returned : stage.hasReturned = true) :
    stage.result? = stage.answer? ∧ stage.answer?.isSome = true := by
  cases stage with
  | returned given => exact ⟨rfl, rfl⟩
  | _ => contradiction

/-- What somebody who counts an operation is going to be answered, once that is settled. -/
def ticket? (call : Call) : Option Answer :=
  if call.ask = .record then call.stage.answer? else none

def result? (ask : Ask) (call : Call) : Option Answer :=
  if call.ask = ask then call.stage.result? else none

theorem ticket?_of_result {call : Call} {answer : Answer}
    (returned : call.result? .record = some answer) : call.ticket? = some answer := by
  unfold result? at returned
  split at returned
  · rename_i asked
    rw [ticket?, if_pos asked]
    exact Stage.answer?_of_result returned
  · contradiction

end Call

namespace Traffic

variable {traffic next : Traffic} {number : Nat} {call : Call} {move : Move}
  {stage : Call.Stage} {answer : Answer}

def tickets (traffic : Traffic) : List Answer := traffic.calls.filterMap Call.ticket?

def results (traffic : Traffic) (ask : Ask) : List Answer :=
  traffic.calls.filterMap (Call.result? ask)

def tally (total : Nat) : List Answer := (List.range' 1 total).map .count

theorem tally_succ (total : Nat) : tally (total + 1) = tally total ++ [.count (total + 1)] := by
  rw [tally, List.range'_1_concat, List.map_append, Nat.add_comm 1]
  rfl

theorem calls_eq_set (found : traffic.calls[number]? = some call) :
    (traffic.goTo number stage).calls = traffic.calls.set number { call with stage } := by
  rw [goTo, List.modify_eq_set_getElem?, found]
  rfl

theorem tickets_split (found : traffic.calls[number]? = some call) (stage : Call.Stage) :
    ∃ before after, traffic.tickets = before ++ call.ticket?.toList ++ after ∧
      (traffic.goTo number stage).tickets =
        before ++ ({ call with stage } : Call).ticket?.toList ++ after := by
  have one : ∀ other : Call, [other].filterMap Call.ticket? = other.ticket?.toList := by
    intro other
    cases settled : other.ticket? with
    | none => exact List.filterMap_cons_none settled
    | some answer => exact List.filterMap_cons_some settled
  obtain ⟨before, after, parts, changed⟩ := set_split found { call with stage }
  refine ⟨before.filterMap Call.ticket?, after.filterMap Call.ticket?, ?_, ?_⟩
  · rw [tickets, parts, List.append_cons, List.filterMap_append, List.filterMap_append, one]
  · rw [tickets, calls_eq_set found, changed, List.append_cons, List.filterMap_append,
      List.filterMap_append, one]

theorem tickets_goTo_same (found : traffic.calls[number]? = some call)
    (same : ({ call with stage } : Call).ticket? = call.ticket?) :
    (traffic.goTo number stage).tickets = traffic.tickets := by
  obtain ⟨before, after, earlier, later⟩ := tickets_split found stage
  rw [later, same, ← earlier]

theorem tickets_goTo_perm (found : traffic.calls[number]? = some call)
    (pending : call.ticket? = none)
    (answered : ({ call with stage } : Call).ticket? = some answer) :
    (traffic.goTo number stage).tickets.Perm (answer :: traffic.tickets) := by
  obtain ⟨before, after, earlier, later⟩ := tickets_split found stage
  rw [later, earlier, pending, answered, Option.toList_some, Option.toList_none, List.append_nil,
    List.append_assoc]
  exact List.perm_middle

structure Counted (traffic : Traffic) : Prop where
  sound : traffic.Sound
  counted : traffic.tickets.Perm (tally traffic.signals.total)

theorem counted_fresh : ({} : Traffic).Counted := ⟨sound_fresh, .refl _⟩

theorem Counted.after (counted : traffic.Counted) (moved : traffic.after move = some next) :
    next.Counted := by
  refine ⟨counted.sound.after moved, ?_⟩
  have earlier := counted.counted
  cases move with
  | call thread ask =>
      cases call_eq_some moved
      have silent : Call.ticket? { thread, ask, stage := ask.entry } = none := by
        rw [Call.ticket?, Ask.answer?_entry, ite_self]
      rwa [tickets, List.filterMap_append, List.filterMap_cons_none silent, List.filterMap_nil,
        List.append_nil]
  | step mover =>
      obtain ⟨acting, stage, known, calls, effect⟩ := counted.sound.effect moved
      rw [tickets, calls, ← tickets, ← total_settled next.signals]
      rcases effect with ⟨kept, settled⟩ | ⟨pending, answered, settled⟩
      · rw [settled, total_settled,
          tickets_goTo_same known (by rw [Call.ticket?, Call.ticket?, kept])]
        exact earlier
      · rw [settled]
        by_cases asked : acting.ask = .record
        · rw [asked] at answered ⊢
          have given : ({ acting with stage } : Call).ticket? =
              some (Ask.effect traffic.signals.settled .record).2 := by
            rw [Call.ticket?, if_pos asked, answered]
          have added :=
            tickets_goTo_perm known (by rw [Call.ticket?, pending, ite_self]) given
          rw [Ask.effect, record, total_settled, tally_succ]
          rw [Ask.effect, record, total_settled] at added
          exact (added.trans (earlier.cons _)).trans (List.perm_append_singleton ..).symm
        · rw [Ask.total_effect asked, total_settled, tickets_goTo_same known
            (by rw [Call.ticket?, Call.ticket?, if_neg asked, if_neg asked])]
          exact earlier

theorem Counted.results_subperm (counted : traffic.Counted) :
    (traffic.results .record).Subperm (tally traffic.signals.total) :=
  (sublist_filterMap fun _ _ => Call.ticket?_of_result).subperm.trans counted.counted.subperm

theorem Counted.results_perm (counted : traffic.Counted)
    (returned : ∀ call ∈ traffic.calls, call.ask = .record → call.stage.hasReturned = true) :
    (traffic.results .record).Perm (tally (traffic.calls.countP (·.ask = .record))) ∧
      traffic.signals.total = traffic.calls.countP (·.ask = .record) := by
  have all : traffic.results .record = traffic.tickets := by
    refine List.filterMap_congr fun call member => ?_
    unfold Call.result? Call.ticket?
    split
    · exact (Call.Stage.result?_of_returned (returned call member ‹_›)).1
    · rfl
  have size : traffic.tickets.length = traffic.calls.countP (·.ask = .record) := by
    rw [tickets, List.length_filterMap_eq_countP]
    refine List.countP_congr fun call member => ?_
    rw [Call.ticket?]
    by_cases asked : call.ask = .record
    · rw [if_pos asked, (Call.Stage.result?_of_returned (returned call member asked)).2]
      simp only [asked, decide_true]
    · simp only [asked, if_false, Option.isSome_none, decide_false]
  have total : traffic.signals.total = traffic.calls.countP (·.ask = .record) := by
    rw [← size, counted.counted.length_eq, tally, List.length_map, List.length_range']
  refine ⟨?_, total⟩
  rw [all, ← total]
  exact counted.counted

end Traffic

end Signals

end Contention
