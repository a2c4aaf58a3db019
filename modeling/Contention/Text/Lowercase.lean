import Contention.Text.CaseTable

namespace Contention.Text

def CaseRange.covers (range : CaseRange) (code : Nat) : Bool :=
  range.first ≤ code && code ≤ range.last && (code - range.first) % range.stride == 0

def inRanges (ranges : List (Nat × Nat)) (code : Nat) : Bool :=
  ranges.any fun (first, last) => first ≤ code && code ≤ last

def isIgnorable (character : Char) : Bool := inRanges ignorableRanges character.toNat

def isCased (character : Char) : Bool := inRanges casedRanges character.toNat

def startsCased (characters : List Char) : Bool :=
  match characters.dropWhile isIgnorable with
  | [] => false
  | next :: _ => isCased next

def lowerCode (code : Nat) : Nat :=
  match lowerRanges.find? (·.covers code) with
  | some range => (code + range.offset).toNat
  | none => code

/-- The lower-case form of one character between its neighbours; `before` is
read backwards.  The capital I with a dot keeps its dot as a mark of its own. -/
def lowerAt (before : List Char) (character : Char) (after : List Char) : List Char :=
  if character = 'Σ' then
    if startsCased before && !startsCased after then ['ς'] else ['σ']
  else if character = 'İ' then ['i', '\u0307']
  else [Char.ofNat (lowerCode character.toNat)]

def lowerFrom (before : List Char) : List Char → List Char
  | [] => []
  | character :: after =>
      lowerAt before character after ++ lowerFrom (character :: before) after

def lowercase (text : String) : String := String.ofList (lowerFrom [] text.toList)

end Contention.Text
