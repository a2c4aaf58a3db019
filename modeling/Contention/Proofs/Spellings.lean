import Contention.Mode

namespace Contention

/-! Which texts name a mode or a pairing.  The lower-case form of a text is that of all of Unicode,
and that of a foreign character may begin with a plain letter.  But such a letter is either followed
by a mark or a `k`, and no spelling has either. -/

namespace Text

/-- Nothing but the 128 plain characters. -/
def IsPlain (characters : List Char) : Prop := ∀ character ∈ characters, character.toNat < 128

/-- Letter by letter the same, but for the case of plain letters. -/
def SameLetters (left right : String) : Prop :=
  left.toList.map Char.toLower = right.toList.map Char.toLower

/-- A plain text that is one of the words in some letter case. -/
def Spells (text : String) (words : List String) : Prop :=
  IsPlain text.toList ∧ ∃ word ∈ words, SameLetters text word

variable {code : Nat} {character : Char} {words : List String}

theorem CaseRange.covers_iff {range : CaseRange} : range.covers code = true ↔
    range.first ≤ code ∧ code ≤ range.last ∧ (code - range.first) % range.stride = 0 := by
  simp only [CaseRange.covers, Bool.and_eq_true, decide_eq_true_eq, beq_iff_eq, and_assoc]

theorem lowerCode_plain (plain : character.toNat < 128) :
    Char.ofNat (lowerCode character.toNat) = character.toLower := by
  have listed : ∀ code < 128, Char.ofNat (lowerCode code) = (Char.ofNat code).toLower := by
    decide +kernel
  simpa only [Char.ofNat_toNat] using listed character.toNat plain

/-- Of all foreign characters only the sign of the kelvin becomes a plain one. -/
theorem lowerCode_foreign (foreign : 128 ≤ code) : 128 ≤ lowerCode code ∨ lowerCode code = 107 := by
  have listed : ∀ range ∈ lowerRanges, range.last < 128 ∨ 128 ≤ range.first + range.offset ∨
      range.first = range.last ∧ range.first + range.offset = 107 := by decide +kernel
  unfold lowerCode
  split
  · rename_i range found
    have covered := List.find?_some found
    obtain ⟨first, last, _⟩ := CaseRange.covers_iff.mp covered
    rcases listed range (List.mem_of_find?_eq_some found) with plain | lowered | kelvin <;> omega
  · exact .inl foreign

theorem lowerAt_plain (plain : character.toNat < 128) (before after : List Char) :
    lowerAt before character after = [character.toLower] := by
  have sigma : character ≠ 'Σ' := by
    rintro rfl
    contradiction
  have dotted : character ≠ 'İ' := by
    rintro rfl
    contradiction
  rw [lowerAt, if_neg sigma, if_neg dotted, lowerCode_plain plain]

theorem toNat_ofNat (code : Nat) :
    (Char.ofNat code).toNat = code ∨ (Char.ofNat code).toNat = 0 := by
  by_cases valid : code.isValidChar
  · rw [Char.ofNat, dif_pos valid]
    exact .inl rfl
  · rw [Char.ofNat, dif_neg valid]
    exact .inr rfl

theorem lowerAt_foreign (foreign : 128 ≤ character.toNat) (before after : List Char) :
    ∃ letter ∈ lowerAt before character after,
      128 ≤ letter.toNat ∨ letter.toNat = 'k'.toNat ∨ letter.toNat = 0 := by
  unfold lowerAt
  split
  · split
    · exact ⟨_, List.mem_singleton_self _, .inl (by decide)⟩
    · exact ⟨_, List.mem_singleton_self _, .inl (by decide)⟩
  · split
    · exact ⟨'\u0307', by decide, .inl (by decide)⟩
    · refine ⟨_, List.mem_singleton_self _, ?_⟩
      rcases lowerCode_foreign foreign with outside | kelvin
      · rcases toNat_ofNat (lowerCode character.toNat) with same | none
        · exact .inl (same.symm ▸ outside)
        · exact .inr (.inr none)
      · rw [kelvin]
        exact .inr (.inl rfl)

/-- Plain small letters and marks, and no `k`, which is the lower-case form of more than one
character. -/
def isSpelling (word : List Char) : Bool :=
  word.all fun letter => letter.toNat < 128 && letter.toNat != 'k'.toNat && letter.toNat != 0 &&
    letter.toLower.toNat == letter.toNat

theorem isSpelling_iff {word : List Char} : isSpelling word = true ↔
    ∀ letter ∈ word, letter.toNat < 128 ∧ letter.toNat ≠ 'k'.toNat ∧ letter.toNat ≠ 0 ∧
      letter.toLower = letter := by
  simp only [isSpelling, List.all_eq_true, Bool.and_eq_true, decide_eq_true_eq, bne_iff_ne,
    beq_iff_eq, Char.toNat_inj, and_assoc]

theorem lowerFrom_eq_iff {characters word : List Char} (spelling : isSpelling word = true)
    (before : List Char) : lowerFrom before characters = word ↔
      IsPlain characters ∧ characters.map Char.toLower = word := by
  induction characters generalizing before word with
  | nil => exact ⟨fun same => ⟨nofun, same⟩, fun same => same.2⟩
  | cons character after ih =>
      by_cases plain : character.toNat < 128
      · rw [lowerFrom, lowerAt_plain plain, List.map_cons, IsPlain, List.forall_mem_cons]
        cases word with
        | nil => exact ⟨nofun, fun same => nomatch same.2⟩
        | cons letter rest =>
            have others : isSpelling rest = true := List.all_eq_true.mpr fun other member =>
              List.all_eq_true.mp spelling other (List.mem_cons_of_mem _ member)
            rw [List.singleton_append, List.cons_eq_cons, ih others, List.cons_eq_cons, IsPlain]
            exact ⟨fun ⟨same, plainly, rest⟩ => ⟨⟨plain, plainly⟩, same, rest⟩,
              fun ⟨⟨_, plainly⟩, same, rest⟩ => ⟨same, plainly, rest⟩⟩
      · refine iff_of_false (fun same => ?_) fun same => plain (same.1 _ List.mem_cons_self)
        obtain ⟨letter, found, betrays⟩ :=
          lowerAt_foreign (Nat.not_lt.mp plain) before after
        have member : letter ∈ word := by
          rw [← same, lowerFrom]
          exact List.mem_append_left _ found
        obtain ⟨inside, other, proper, _⟩ := isSpelling_iff.mp spelling letter member
        rcases betrays with outside | kelvin | none
        · exact Nat.not_lt.mpr outside inside
        · exact other kelvin
        · exact proper none

theorem contains_lowercase_iff (text : String)
    (spellings : ∀ word ∈ words, isSpelling word.toList = true) :
    words.contains (lowercase text) = true ↔ Spells text words := by
  have one : ∀ word ∈ words, lowercase text = word ↔
      IsPlain text.toList ∧ SameLetters text word := by
    intro word member
    have spelling := spellings word member
    have small : word.toList.map Char.toLower = word.toList :=
      (List.map_congr_left fun letter found =>
        (isSpelling_iff.mp spelling letter found).2.2.2).trans (List.map_id _)
    rw [← String.toList_inj, lowercase, String.toList_ofList,
      lowerFrom_eq_iff spelling, SameLetters, small]
  rw [List.contains_iff_mem, Spells]
  constructor
  · intro member
    obtain ⟨plain, same⟩ := (one _ member).mp rfl
    exact ⟨plain, _, member, same⟩
  · rintro ⟨plain, word, member, same⟩
    exact (one word member).mpr ⟨plain, same⟩ ▸ member

/-- The sign of the kelvin is not plain, but its lower-case form is. -/
example : lowercase "\u212a" = "k" := by decide

end Text

theorem read_iff {α ε : Type} {first second : α} (failure : ε) (left right : List String)
    (text : String) (different : first ≠ second) (apart : ∀ word ∈ left, word ∉ right)
    (spellings : ∀ word ∈ left ++ right, Text.isSpelling word.toList = true) :
    let found : Except ε α :=
      if left.contains (Text.lowercase text) then .ok first
      else if right.contains (Text.lowercase text) then .ok second
      else .error failure
    (found = .ok first ↔ Text.Spells text left) ∧ (found = .ok second ↔ Text.Spells text right) ∧
      (found = .error failure ↔ ¬ Text.Spells text (left ++ right)) := by
  have early := Text.contains_lowercase_iff text fun word member =>
    spellings word (List.mem_append_left right member)
  have late := Text.contains_lowercase_iff text fun word member =>
    spellings word (List.mem_append_right left member)
  have either := Text.contains_lowercase_iff text spellings
  have exclusive : left.contains (Text.lowercase text) = true →
      right.contains (Text.lowercase text) = false := fun found =>
    Bool.eq_false_iff.mpr fun again =>
      apart _ (List.contains_iff_mem.mp found) (List.contains_iff_mem.mp again)
  rw [← early, ← late, ← either, List.contains_append]
  clear early late either
  generalize left.contains (Text.lowercase text) = inLeft at *
  generalize right.contains (Text.lowercase text) = inRight at *
  cases inLeft with
  | true =>
      rw [exclusive rfl]
      simp [different]
  | false => cases inRight <;> simp [different.symm]

/-- A mode or a pairing is read from the plain texts that are one of its words in some letter case,
and from no other; any other text is given back as it was. -/
theorem parsed_exactly (text : String) :
    (Mode.parse text = .ok .unordered ↔ Text.Spells text ["unordered", "unsafe"]) ∧
    (Mode.parse text = .ok .totalOrder ↔
      Text.Spells text ["total-order", "totalorder", "ordered", "safe"]) ∧
    (Mode.parse text = .error (.unknownMode text) ↔ ¬ Text.Spells text
      ["unordered", "unsafe", "total-order", "totalorder", "ordered", "safe"]) ∧
    (Pairing.parse text = .ok .paired ↔ Text.Spells text ["paired", "pairs"]) ∧
    (Pairing.parse text = .ok .adjacent ↔ Text.Spells text ["adjacent", "ring"]) ∧
    (Pairing.parse text = .error (.unknownPairing text) ↔ ¬ Text.Spells text
      ["paired", "pairs", "adjacent", "ring"]) := by
  obtain ⟨unordered, totalOrder, unknownMode⟩ := read_iff (SpellingError.unknownMode text)
    (Mode.spellings .unordered) (Mode.spellings .totalOrder) text
    (show Mode.unordered ≠ .totalOrder by nofun) (by decide) (by decide +kernel)
  obtain ⟨paired, adjacent, unknownPairing⟩ := read_iff (SpellingError.unknownPairing text)
    (Pairing.spellings .paired) (Pairing.spellings .adjacent) text
    (show Pairing.paired ≠ .adjacent by nofun) (by decide) (by decide +kernel)
  exact ⟨unordered, totalOrder, unknownMode, paired, adjacent, unknownPairing⟩

end Contention
