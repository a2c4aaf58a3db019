import Contention.Delay

namespace Contention

open Contention.Random

theorem Random.Generator.drawBelow_lt {count : Nat} (positive : 0 < count) (attempts : Nat)
    (generator : Generator) : (Generator.drawBelow count attempts generator).1 < count := by
  induction attempts generalizing generator with
  | zero => exact positive
  | succ attempts ih =>
      simp only [Generator.drawBelow]
      split
      · have word := (generator.next.1).toNat_lt
        refine Nat.div_lt_of_lt_mul ?_
        exact Nat.mul_lt_mul_of_pos_right word positive
      · exact ih _

theorem Random.Generator.drawUpTo_le (greatest : UInt64) (generator : Generator) :
    (generator.drawUpTo greatest).1 ≤ greatest := by
  have bound := greatest.toNat_lt
  unfold Generator.drawUpTo
  split
  · rename_i whole
    have word := (generator.next.1).toNat_lt
    exact UInt64.le_iff_toNat_le.mpr (by omega)
  · have drawn := Generator.drawBelow_lt (Nat.succ_pos greatest.toNat) Generator.period generator
    refine UInt64.le_iff_toNat_le.mpr ?_
    simp only
    rw [UInt64.toNat_ofNat_of_lt' (Nat.lt_of_lt_of_le drawn bound)]
    exact Nat.le_of_lt_succ drawn

namespace Span

variable {left right : Span}

theorem add_eq_ok (fits : left.nanos + right.nanos < spanLimit) :
    left.add right = .ok { nanos := left.nanos + right.nanos, fits } := by
  unfold add ofNanos?
  rw [dif_pos fits]

theorem sub_eq_ok (longer : right ≤ left) : left.sub right = .ok (left.monus right) :=
  if_pos longer

theorem nanosWord_toNat (span : Span) : span.nanosWord.toNat = min span.nanos wordMax :=
  UInt64.toNat_ofNat_of_lt' (Nat.lt_of_le_of_lt (Nat.min_le_right _ _) (by decide))

end Span

namespace Delay

section

variable {γ : Type} {numberUpTo : UInt64 → γ → UInt64 × γ} {range : Delay} {source : γ}

def answer (numberUpTo : UInt64 → γ → UInt64 × γ) (range : Delay) (source : γ) : UInt64 × γ :=
  numberUpTo (range.greatest.monus range.least).nanosWord source

theorem drawFrom_empty (empty : range.greatest ≤ range.least) :
    range.drawFrom numberUpTo source = .ok (range.least, source) := if_pos empty

/-- The number that is drawn fits between the ends of the range, so that the sum is no longer
than the longest span. -/
theorem drawFrom_proper (proper : range.least < range.greatest)
    (obeys : ∀ greatest, (numberUpTo greatest source).1 ≤ greatest) :
    ∃ delay, range.drawFrom numberUpTo source = .ok (delay, (range.answer numberUpTo source).2) ∧
      delay.nanos = range.least.nanos + (range.answer numberUpTo source).1.toNat ∧
      delay ≤ range.greatest := by
  have ordered : range.least ≤ range.greatest := Nat.le_of_lt proper
  have drawn : (range.answer numberUpTo source).1.toNat ≤
      (range.greatest.monus range.least).nanos := by
    have word := UInt64.le_iff_toNat_le.mp (obeys (range.greatest.monus range.least).nanosWord)
    rw [Span.nanosWord_toNat] at word
    exact Nat.le_trans word (Nat.min_le_left _ _)
  have inside : range.least.nanos + (range.answer numberUpTo source).1.toNat ≤
      range.greatest.nanos :=
    calc
      _ ≤ range.least.nanos + (range.greatest.monus range.least).nanos :=
        Nat.add_le_add_left drawn _
      _ = range.greatest.nanos := Nat.add_sub_of_le ordered
  have fits := Nat.lt_of_le_of_lt inside range.greatest.fits
  refine ⟨⟨_, fits⟩, ?_, rfl, inside⟩
  have added : range.least.add (.ofNanosWord (range.answer numberUpTo source).1) =
      .ok ⟨_, fits⟩ := Span.add_eq_ok fits
  have nonempty : ¬ range.greatest ≤ range.least := Nat.not_le_of_lt proper
  rw [drawFrom, if_neg nonempty, Span.sub_eq_ok ordered]
  exact congrArg (· >>= fun delay => .ok (delay, (range.answer numberUpTo source).2)) added

/-- Drawing a delay always succeeds, wherever the range lies and however wide it is.  A range
that is empty or reversed yields its least delay, and the source is not touched.  From any other
the source is asked once, for as many nanoseconds as the range is wide and a word can hold. -/
theorem draw_stays_in_range
    (obeys : ∀ greatest, (numberUpTo greatest source).1 ≤ greatest) :
    (range.greatest ≤ range.least →
      range.drawFrom numberUpTo source = .ok (range.least, source)) ∧
    (range.least < range.greatest →
      ∃ delay drawn rest width,
        range.drawFrom numberUpTo source = .ok (delay, rest) ∧
        numberUpTo width source = (drawn, rest) ∧
        width.toNat = min (range.greatest.nanos - range.least.nanos) wordMax ∧
        delay.nanos = range.least.nanos + drawn.toNat ∧
        range.least ≤ delay ∧ delay ≤ range.greatest ∧
        (delay.monus range.least).nanos ≤ wordMax) := by
  refine ⟨drawFrom_empty, fun proper => ?_⟩
  obtain ⟨delay, drew, sum, inside⟩ := drawFrom_proper proper obeys
  refine ⟨delay, _, _, _, drew, rfl, Span.nanosWord_toNat _, sum,
    Nat.le.intro sum.symm, inside, ?_⟩
  calc
    delay.nanos - range.least.nanos = (range.answer numberUpTo source).1.toNat := by omega
    _ ≤ wordMax := Nat.le_of_lt_succ (UInt64.toNat_lt _)

end

/-- Wider than a word of nanoseconds, and up to the longest span. -/
def boundless : Delay where
  least := .ofNanosWord 1
  greatest := .longest

def outermost : Delay where
  least := { nanos := spanLimit - 4 }
  greatest := .longest

theorem draw_stays_in_range_at_the_limits :
    (∃ delay rest, boundless.draw (.ofSeed 42 0) = .ok (delay, rest) ∧
      boundless.least ≤ delay ∧ (delay.monus boundless.least).nanos ≤ wordMax ∧
      wordMax < (boundless.greatest.monus boundless.least).nanos) ∧
    (∃ delay rest, outermost.draw (.ofSeed 42 0) = .ok (delay, rest) ∧
      outermost.least ≤ delay ∧ delay ≤ outermost.greatest) ∧
    draw { least := outermost.greatest, greatest := outermost.least } (.ofSeed 42 0) =
      .ok (outermost.greatest, .ofSeed 42 0) := by
  have obeys (greatest : UInt64) := Generator.drawUpTo_le greatest (.ofSeed 42 0)
  obtain ⟨delay, _, rest, _, drew, _, _, _, least, _, narrow⟩ :=
    (draw_stays_in_range obeys).2 (show boundless.least < boundless.greatest by decide)
  obtain ⟨last, _, final, _, drawn, _, _, _, after, before, _⟩ :=
    (draw_stays_in_range obeys).2 (show outermost.least < outermost.greatest by decide)
  exact ⟨⟨delay, rest, drew, least, narrow, by decide⟩, ⟨last, final, drawn, after, before⟩,
    (draw_stays_in_range obeys).1 (by decide)⟩

theorem draw_exists (range : Delay) (generator : Generator) :
    ∃ delay rest, range.draw generator = .ok (delay, rest) ∧ range.least ≤ delay ∧
      delay ≤ range.least.longer range.greatest := by
  unfold Span.longer
  split
  · rename_i ordered
    rcases Nat.eq_or_lt_of_le ordered with same | proper
    · exact ⟨range.least, generator, drawFrom_empty (Nat.le_of_eq same.symm), Nat.le_refl _,
        ordered⟩
    · obtain ⟨delay, drew, sum, inside⟩ :=
        drawFrom_proper proper fun greatest => Generator.drawUpTo_le greatest generator
      exact ⟨delay, _, drew, Nat.le.intro sum.symm, inside⟩
  · rename_i reversed
    exact ⟨range.least, generator, drawFrom_empty (Nat.le_of_not_le reversed), Nat.le_refl _,
      Nat.le_refl _⟩

def drawn (range : Delay) (generator : Generator) : Span × Generator :=
  (range.draw generator).toOption.getD (range.least, generator)

theorem draw_eq_ok (range : Delay) (generator : Generator) :
    range.draw generator = .ok (range.drawn generator) := by
  obtain ⟨delay, rest, drew, _⟩ := range.draw_exists generator
  rw [drawn, drew]
  rfl

end Delay

end Contention
