import Contention.Proofs.Plan
import Mathlib.Data.Finset.Max

namespace Contention

/-! Which plans have workers that can come to wait in a circle: a ring is a row of
workers each of whom takes last what another of them takes first.  There is none under
total order.  Without it two workers that share a pair are one; where neighbours in
the ring of resources share, all workers take an even resource first, but for where
the ring is of odd length and closes. -/

variable {mode : Mode} {pairing : Pairing} {resources workers : Nat} {worker : Worker}
  {pair : Resource × Resource} {row : List Worker}

def Ring (mode : Mode) (pairing : Pairing) (resources : Nat) (row : List Worker) : Prop :=
  ∀ worker ∈ row, ∃ pair, route mode pairing resources worker = .ok pair ∧
    ∃ other ∈ row, other ≠ worker ∧
      ∃ next, route mode pairing resources other = .ok next ∧ next.1 = pair.2

/-- Two workers that take the same two resources, each first what the other takes last. -/
def Opposed (mode : Mode) (pairing : Pairing) (resources : Nat) (left right : Worker) : Prop :=
  ∃ pair, route mode pairing resources left = .ok pair ∧
    route mode pairing resources right = .ok pair.swap

theorem route_eq (mode : Mode) (pairing : Pairing) (sized : Sized resources workers)
    (member : worker.index < workers) :
    route mode pairing resources worker = .ok (mode.arrange worker
      (⟨pairing.base worker % resources⟩, ⟨(pairing.base worker + 1) % resources⟩)) := by
  have filled : resources ≠ 0 := fun none => by
    have enough := sized.enough
    omega
  have fits := Nat.lt_of_le_of_lt (pairing.base_le worker)
    (Nat.lt_of_lt_of_le member sized.workers_fit)
  rw [route, pairFor_eq filled fits]
  rfl

theorem routed_of_route (sized : Sized resources workers) (member : worker.index < workers)
    (found : route mode pairing resources worker = .ok pair) : Routed mode resources pair := by
  obtain ⟨same, again, routed⟩ := route_exists mode pairing sized member
  rw [found] at again
  cases again
  exact routed

def firstRank (mode : Mode) (pairing : Pairing) (resources : Nat) (worker : Worker) : Nat :=
  match route mode pairing resources worker with
  | .ok pair => pair.1.index
  | .error _ => 0

theorem firstRank_eq (found : route mode pairing resources worker = .ok pair) :
    firstRank mode pairing resources worker = pair.1.index := by
  rw [firstRank, found]

/-- Along a ring under total order the first resources would rise without end. -/
theorem Ring.unordered (ring : Ring mode pairing resources row) (sized : Sized resources workers)
    (members : ∀ worker ∈ row, worker.index < workers) (nonempty : row ≠ []) :
    mode = .unordered := by
  cases mode with
  | unordered => rfl
  | totalOrder =>
      have some : row.toFinset.Nonempty := List.toFinset_nonempty_iff row |>.mpr nonempty
      obtain ⟨top, member, most⟩ :=
        row.toFinset.exists_max_image (firstRank .totalOrder pairing resources) some
      rw [List.mem_toFinset] at member
      obtain ⟨pair, found, other, otherMember, _, next, otherFound, linked⟩ := ring top member
      have higher := (routed_of_route sized (members top member) found).ordered rfl
      have bound := most other (List.mem_toFinset.mpr otherMember)
      rw [firstRank_eq found, firstRank_eq otherFound, linked] at bound
      omega

theorem mod_parity {number modulus : Nat} (even : modulus % 2 = 0) :
    number % modulus % 2 = number % 2 :=
  Nat.mod_mod_of_dvd number (Nat.dvd_of_mod_eq_zero even)

/-- Where neighbours share, a worker takes an even resource first and an odd one last,
but for the one whose pair closes a ring of odd length. -/
theorem route_parity (sized : Sized resources workers) (member : worker.index < workers)
    (found : route .unordered .adjacent resources worker = .ok pair)
    (quiet : resources % 2 = 0 ∨ worker.index < resources) :
    pair.1.index % 2 = 0 ∧ (pair.2.index % 2 = 0 → worker.index + 1 = resources) := by
  have near : worker.index % resources % 2 = worker.index % 2 := by
    rcases quiet with even | small
    · exact mod_parity even
    · rw [Nat.mod_eq_of_lt small]
  have far : (worker.index + 1) % resources % 2 = (worker.index + 1) % 2 ∨
      worker.index + 1 = resources ∧ (worker.index + 1) % resources = 0 := by
    rcases quiet with even | small
    · exact .inl (mod_parity even)
    · by_cases last : worker.index + 1 = resources
      · exact .inr ⟨last, by rw [last, Nat.mod_self]⟩
      · have before : worker.index + 1 < resources := by omega
        rw [Nat.mod_eq_of_lt before]
        exact .inl rfl
  rw [route_eq .unordered .adjacent sized member] at found
  cases found
  simp only [Mode.arrange, Worker.isOdd, Pairing.base, beq_iff_eq]
  split <;> simp only <;> omega

theorem Ring.crowded (ring : Ring mode pairing resources row)
    (members : ∀ worker ∈ row, worker.index < workers) (nonempty : row ≠ []) : 2 ≤ workers := by
  obtain ⟨worker, member⟩ := List.exists_mem_of_ne_nil row nonempty
  obtain ⟨_, _, other, otherMember, apart, _⟩ := ring worker member
  have different : other.index ≠ worker.index := fun same => apart (congrArg Worker.mk same)
  have first := members worker member
  have second := members other otherMember
  omega

theorem Ring.odd (ring : Ring .unordered .adjacent resources row) (sized : Sized resources workers)
    (members : ∀ worker ∈ row, worker.index < workers) (nonempty : row ≠ []) :
    resources % 2 = 1 ∧ resources < workers := by
  by_contra quiet
  have calm : ∀ worker ∈ row, resources % 2 = 0 ∨ worker.index < resources := by
    intro worker member
    have small := members worker member
    omega
  have last : ∀ worker ∈ row, worker.index + 1 = resources := by
    intro worker member
    obtain ⟨pair, found, other, otherMember, _, next, otherFound, linked⟩ := ring worker member
    obtain ⟨even, _⟩ :=
      route_parity sized (members other otherMember) otherFound (calm other otherMember)
    obtain ⟨_, closes⟩ := route_parity sized (members worker member) found (calm worker member)
    exact closes (linked ▸ even)
  obtain ⟨worker, member⟩ := List.exists_mem_of_ne_nil row nonempty
  obtain ⟨_, _, other, otherMember, apart, _⟩ := ring worker member
  have same : other.index = worker.index := by
    have one := last worker member
    have two := last other otherMember
    omega
  exact apart (congrArg Worker.mk same)

def Hazardous (mode : Mode) (pairing : Pairing) (resources workers : Nat) : Prop :=
  mode = .unordered ∧ 2 ≤ workers ∧
    (pairing = .paired ∨ pairing = .adjacent ∧ resources % 2 = 1 ∧ resources < workers)

theorem Ring.hazardous (ring : Ring mode pairing resources row) (sized : Sized resources workers)
    (members : ∀ worker ∈ row, worker.index < workers) (nonempty : row ≠ []) :
    Hazardous mode pairing resources workers := by
  obtain rfl := ring.unordered sized members nonempty
  refine ⟨rfl, ring.crowded members nonempty, ?_⟩
  cases pairing with
  | paired => exact .inl rfl
  | adjacent => exact .inr ⟨rfl, ring.odd sized members nonempty⟩

theorem opposed_couple (sized : Sized resources workers) (couple : Nat)
    (member : 2 * couple + 1 < workers) :
    Opposed .unordered .paired resources ⟨2 * couple⟩ ⟨2 * couple + 1⟩ := by
  have enough := sized.enough
  have small := sized.workers_fit
  exact route_couple (by omega) (by omega)

/-- Around a ring of odd length the first worker and the one that comes after a whole
round take the same two resources, one of them as an even worker, the other as odd. -/
theorem opposed_round (sized : Sized resources workers) (odd : resources % 2 = 1)
    (member : resources < workers) :
    Opposed .unordered .adjacent resources ⟨0⟩ ⟨resources⟩ := by
  have small : (⟨0⟩ : Worker).index < workers := Nat.lt_of_le_of_lt (Nat.zero_le _) member
  have left := route_eq .unordered .adjacent sized small
  have right := route_eq .unordered .adjacent sized
    (show (⟨resources⟩ : Worker).index < workers from member)
  simp only [Pairing.base, Mode.arrange, Worker.isOdd, Nat.mod_self, odd, Nat.zero_mod,
    Nat.add_mod_left, Nat.zero_add] at left right
  refine ⟨_, left, right.trans ?_⟩
  simp

theorem Hazardous.opposed (hazardous : Hazardous mode pairing resources workers)
    (sized : Sized resources workers) :
    ∃ left right : Worker, left.index < right.index ∧ right.index < workers ∧
      Opposed mode pairing resources left right := by
  obtain ⟨rfl, crowded, rfl | ⟨rfl, odd, member⟩⟩ := hazardous
  · exact ⟨⟨0⟩, ⟨1⟩, Nat.zero_lt_one, crowded, opposed_couple sized 0 crowded⟩
  · have enough := sized.enough
    exact ⟨⟨0⟩, ⟨resources⟩, by simp only; omega, member, opposed_round sized odd member⟩

end Contention
