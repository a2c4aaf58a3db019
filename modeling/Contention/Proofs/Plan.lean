import Contention.Board
import Contention.Plan

namespace Contention

variable {pairing : Pairing} {worker : Worker} {resources : Nat} {pair : Resource × Resource}

/-- The numbers that a phase can have.  Both are machine words, and there are at
least two resources. -/
structure Sized (resources workers : Nat) : Prop where
  enough : 2 ≤ resources
  resources_fit : resources ≤ wordMax
  workers_fit : workers ≤ wordMax

/-- A pair in the order in which a worker takes it. -/
structure Routed (mode : Mode) (resources : Nat) (pair : Resource × Resource) : Prop where
  first_inside : pair.1.index < resources
  second_inside : pair.2.index < resources
  different : pair.1 ≠ pair.2
  ordered : mode = .totalOrder → pair.1.index < pair.2.index

theorem succ_mod_ne_mod {number modulus : Nat} (enough : 2 ≤ modulus) :
    (number + 1) % modulus ≠ number % modulus := by
  have below := Nat.mod_lt number (by omega : modulus > 0)
  rw [Nat.add_mod, Nat.mod_eq_of_lt enough]
  intro same
  by_cases last : number % modulus + 1 = modulus
  · rw [last, Nat.mod_self] at same
    omega
  · rw [Nat.mod_eq_of_lt (by omega)] at same
    omega

theorem succ_mod_ne_mod_iff {number modulus : Nat} (positive : 0 < modulus) :
    (number + 1) % modulus ≠ number % modulus ↔ 2 ≤ modulus := by
  constructor
  · intro apart
    have several : modulus ≠ 1 := by
      rintro rfl
      exact apart (by rw [Nat.mod_one, Nat.mod_one])
    omega
  · exact succ_mod_ne_mod

def Pairing.base (pairing : Pairing) (worker : Worker) : Nat :=
  match pairing with
  | .paired => worker.index / 2
  | .adjacent => worker.index

theorem Pairing.base_le (pairing : Pairing) (worker : Worker) :
    pairing.base worker ≤ worker.index := by
  cases pairing with
  | paired => exact Nat.div_le_self _ _
  | adjacent => exact Nat.le_refl _

theorem Pairing.base_lt_iff (fits : worker.index ≤ wordMax) :
    pairing.base worker < wordMax ↔ ¬ (pairing = .adjacent ∧ worker.index = wordMax) := by
  cases pairing with
  | paired =>
      have half : worker.index / 2 < wordMax := by
        unfold wordMax at fits ⊢
        omega
      exact iff_of_true half nofun
  | adjacent =>
      simp only [Pairing.base, true_and]
      omega

theorem pairFor_eq_ite (pairing : Pairing) (worker : Worker) (resources : Nat) :
    pairing.pairFor worker resources =
      if resources = 0 then .error .emptyPool
      else if pairing.base worker < wordMax then
        .ok (⟨pairing.base worker % resources⟩, ⟨(pairing.base worker + 1) % resources⟩)
      else .error .sumOverflow := by
  change (if resources = 0 then _ else (addWords (pairing.base worker) 1).map _) = _
  rw [addWords]
  by_cases fits : pairing.base worker < wordMax
  · rw [if_pos fits, if_pos (Nat.succ_le_of_lt fits)]
    rfl
  · rw [if_neg fits, if_neg (mt Nat.lt_of_succ_le fits)]
    rfl

theorem pairFor_eq (filled : resources ≠ 0) (fits : pairing.base worker < wordMax) :
    pairing.pairFor worker resources = .ok
      (⟨pairing.base worker % resources⟩, ⟨(pairing.base worker + 1) % resources⟩) := by
  rw [pairFor_eq_ite, if_neg filled, if_pos fits]

theorem pairFor_error_iff (fits : worker.index ≤ wordMax) :
    (∃ fault, pairing.pairFor worker resources = .error fault) ↔
      resources = 0 ∨ pairing = .adjacent ∧ worker.index = wordMax := by
  rw [pairFor_eq_ite]
  split
  · rename_i empty
    exact iff_of_true ⟨_, rfl⟩ (.inl empty)
  · rename_i filled
    split
    · rename_i within
      exact iff_of_false nofun (not_or.mpr ⟨filled, (Pairing.base_lt_iff fits).mp within⟩)
    · rename_i beyond
      have last := Decidable.not_not.mp (mt (Pairing.base_lt_iff fits).mpr beyond)
      exact iff_of_true ⟨_, rfl⟩ (.inr last)

theorem pairFor_inside (found : pairing.pairFor worker resources = .ok pair) :
    pair.1.index < resources ∧ pair.2.index < resources ∧ (pair.1 ≠ pair.2 ↔ 2 ≤ resources) := by
  rw [pairFor_eq_ite] at found
  split at found
  · contradiction
  · rename_i filled
    split at found
    · cases found
      have positive := Nat.pos_of_ne_zero filled
      refine ⟨Nat.mod_lt _ positive, Nat.mod_lt _ positive, ?_⟩
      rw [← succ_mod_ne_mod_iff positive, Ne, Resource.mk.injEq]
      exact ne_comm
    · contradiction

theorem pairFor_exists (pairing : Pairing) (enough : 2 ≤ resources)
    (fits : worker.index < wordMax) :
    ∃ pair, pairing.pairFor worker resources = .ok pair ∧ pair.1.index < resources ∧
      pair.2.index < resources ∧ pair.1 ≠ pair.2 := by
  have filled : resources ≠ 0 := by omega
  have found := pairFor_eq filled (Nat.lt_of_le_of_lt (pairing.base_le worker) fits)
  obtain ⟨first, second, different⟩ := pairFor_inside found
  exact ⟨_, found, first, second, different.mpr enough⟩

theorem arrange_eq_or_swap (mode : Mode) (worker : Worker) (pair : Resource × Resource) :
    mode.arrange worker pair = pair ∨ mode.arrange worker pair = pair.swap := by
  cases mode with
  | unordered =>
      simp only [Mode.arrange]
      split
      · exact .inr rfl
      · exact .inl rfl
  | totalOrder =>
      simp only [Mode.arrange, Resource.lower, Resource.higher]
      split
      · exact .inl rfl
      · exact .inr rfl

theorem arrange_totalOrder_swap (worker rival : Worker) (pair : Resource × Resource) :
    Mode.totalOrder.arrange rival pair.swap = Mode.totalOrder.arrange worker pair := by
  obtain ⟨left, right⟩ := pair
  change Mode.totalOrder.arrange rival (right, left) = Mode.totalOrder.arrange worker (left, right)
  simp only [Mode.arrange, Resource.lower, Resource.higher]
  by_cases lower : left ≤ right
  · by_cases higher : right ≤ left
    · have same : left = right := congrArg Resource.mk (Nat.le_antisymm lower higher)
      rw [same]
    · rw [if_neg higher, if_neg higher, if_pos lower, if_pos lower]
  · have higher : right ≤ left := Nat.le_of_not_le lower
    rw [if_pos higher, if_pos higher, if_neg lower, if_neg lower]

theorem arrange_totalOrder_lt (different : pair.1 ≠ pair.2) :
    (Mode.totalOrder.arrange worker pair).1.index <
      (Mode.totalOrder.arrange worker pair).2.index := by
  have apart : pair.1.index ≠ pair.2.index := fun same => different (congrArg Resource.mk same)
  simp only [Mode.arrange, Resource.lower, Resource.higher]
  split
  · rename_i lower
    exact Nat.lt_of_le_of_ne lower apart
  · rename_i higher
    exact Nat.lt_of_not_le higher

theorem arrange_routed {mode : Mode} (first : pair.1.index < resources)
    (second : pair.2.index < resources) (different : pair.1 ≠ pair.2) :
    Routed mode resources (mode.arrange worker pair) := by
  have ordered : mode = .totalOrder →
      (mode.arrange worker pair).1.index < (mode.arrange worker pair).2.index := by
    rintro rfl
    exact arrange_totalOrder_lt different
  rcases arrange_eq_or_swap mode worker pair with same | swapped
  · rw [same] at ordered ⊢
    exact ⟨first, second, different, ordered⟩
  · rw [swapped] at ordered ⊢
    exact ⟨second, first, different.symm, ordered⟩

theorem route_exists (mode : Mode) (pairing : Pairing) {workers : Nat}
    (sized : Sized resources workers) (member : worker.index < workers) :
    ∃ pair, route mode pairing resources worker = .ok pair ∧ Routed mode resources pair := by
  obtain ⟨pair, found, first, second, different⟩ :=
    pairFor_exists pairing sized.enough (Nat.lt_of_lt_of_le member sized.workers_fit)
  refine ⟨mode.arrange worker pair, ?_, arrange_routed first second different⟩
  rw [route, found]
  rfl

theorem route_couple (filled : resources ≠ 0) {couple : Nat} (fits : 2 * couple + 1 ≤ wordMax) :
    ∃ pair, route .unordered .paired resources ⟨2 * couple⟩ = .ok pair ∧
      route .unordered .paired resources ⟨2 * couple + 1⟩ = .ok pair.swap := by
  have even : Pairing.paired.base ⟨2 * couple⟩ = couple := by
    simp only [Pairing.base]
    omega
  have odd : Pairing.paired.base ⟨2 * couple + 1⟩ = couple := by
    simp only [Pairing.base]
    omega
  have within : couple < wordMax := by omega
  have left := pairFor_eq filled (even ▸ within)
  have right := pairFor_eq filled (odd ▸ within)
  rw [even] at left
  rw [odd] at right
  refine ⟨(⟨couple % resources⟩, ⟨(couple + 1) % resources⟩), ?_, ?_⟩
  · rw [route, left]
    simp [Except.map, Mode.arrange, Worker.isOdd]
  · rw [route, right]
    simp [Except.map, Mode.arrange, Worker.isOdd]

/-- Every worker that a word can name gets two resources of the pool, which differ as soon as
there are two; only from an empty pool nobody gets any, nor does, where neighbours share, the
last of these workers, which no board has.  Each mode takes the two in one order or the other:
total order takes the lower one first, whoever chose the two, and without it the two workers of
a couple take them in opposite orders. -/
theorem plan_well_formed (fits : worker.index ≤ wordMax) (pairing : Pairing) (resources : Nat) :
    ((∃ fault, pairing.pairFor worker resources = .error fault) ↔
      resources = 0 ∨ pairing = .adjacent ∧ worker.index = wordMax) ∧
    (∀ board : Board, board.size ≤ wordMax → board.record? ⟨wordMax⟩ = none) ∧
    (¬ (resources = 0 ∨ pairing = .adjacent ∧ worker.index = wordMax) →
      ∃ pair, pairing.pairFor worker resources = .ok pair ∧
        pair.1.index < resources ∧ pair.2.index < resources ∧
        (pair.1 ≠ pair.2 ↔ 2 ≤ resources) ∧
        (2 ≤ resources →
          (∀ mode : Mode,
            mode.arrange worker pair = pair ∨ mode.arrange worker pair = pair.swap) ∧
          (Mode.totalOrder.arrange worker pair).1.index <
            (Mode.totalOrder.arrange worker pair).2.index ∧
          ∀ (rule : Pairing) (rival : Worker) (chosen : Resource × Resource),
            rule.pairFor rival resources = .ok chosen → chosen = pair ∨ chosen = pair.swap →
            Mode.totalOrder.arrange rival chosen = Mode.totalOrder.arrange worker pair)) ∧
    (2 ≤ resources → ∀ couple, 2 * couple + 1 ≤ wordMax →
      ∃ pair, route .unordered .paired resources ⟨2 * couple⟩ = .ok pair ∧
        route .unordered .paired resources ⟨2 * couple + 1⟩ = .ok pair.swap) := by
  have failing : (∃ fault, pairing.pairFor worker resources = .error fault) ↔ _ :=
    pairFor_error_iff fits
  refine ⟨failing, fun board small => List.getElem?_eq_none small, fun possible => ?_,
    fun enough couple named => route_couple (by omega) named⟩
  cases found : pairing.pairFor worker resources with
  | error fault => exact absurd (failing.mp ⟨fault, found⟩) possible
  | ok pair =>
      obtain ⟨first, second, different⟩ := pairFor_inside found
      refine ⟨pair, rfl, first, second, different, fun enough =>
        ⟨fun mode => arrange_eq_or_swap mode worker pair,
          arrange_totalOrder_lt (different.mpr enough), ?_⟩⟩
      rintro rule rival chosen - (rfl | rfl)
      · rfl
      · exact arrange_totalOrder_swap worker rival pair

/-- The last couple of all: where couples share its two workers take their pair from opposite
ends, but under total order as anybody takes it who came by it as a neighbour.  Where neighbours
share the last worker gets none. -/
theorem plan_well_formed_for_the_last_couple :
    (⟨wordMax⟩ : Worker).index ≤ wordMax ∧
    (∃ fault, Pairing.adjacent.pairFor ⟨wordMax⟩ 3 = .error fault) ∧
    Pairing.paired.pairFor ⟨wordMax⟩ 3 = .ok (⟨1⟩, ⟨2⟩) ∧
    Pairing.adjacent.pairFor ⟨1⟩ 3 = .ok (⟨1⟩, ⟨2⟩) ∧
    Mode.totalOrder.arrange ⟨1⟩ (⟨1⟩, ⟨2⟩) = Mode.totalOrder.arrange ⟨wordMax⟩ (⟨1⟩, ⟨2⟩) ∧
    ∃ pair, route .unordered .paired 3 ⟨2 * 9223372036854775807⟩ = .ok pair ∧
      route .unordered .paired 3 ⟨wordMax⟩ = .ok pair.swap := by
  have fits : (⟨wordMax⟩ : Worker).index ≤ wordMax := Nat.le_refl _
  have neighbour : Pairing.adjacent.pairFor ⟨1⟩ 3 = .ok (⟨1⟩, ⟨2⟩) := rfl
  obtain ⟨failing, _, _, _⟩ := plan_well_formed fits .adjacent 3
  obtain ⟨_, _, planned, couples⟩ := plan_well_formed fits .paired 3
  obtain ⟨pair, found, _, _, _, ordered⟩ := planned (by decide)
  have chosen : Pairing.paired.pairFor ⟨wordMax⟩ 3 = .ok (⟨1⟩, ⟨2⟩) := rfl
  rw [chosen] at found
  cases found
  obtain ⟨_, _, alike⟩ := ordered (by decide)
  exact ⟨fits, failing.mpr (by decide), chosen, neighbour,
    alike .adjacent ⟨1⟩ _ neighbour (.inl rfl),
    couples (by decide) 9223372036854775807 (by decide)⟩

end Contention
