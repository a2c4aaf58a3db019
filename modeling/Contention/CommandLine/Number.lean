import Contention.Word

namespace Contention.CommandLine

inductive NumberError where
  | empty
  | badDigit
  | tooLarge
deriving DecidableEq, Repr

def NumberError.message : NumberError → String
  | .empty => "cannot parse integer from empty string"
  | .badDigit => "invalid digit found in string"
  | .tooLarge => "number too large to fit in target type"

/-- Reads on from the value of the digits behind.  At each place a character that
is no digit is noticed before a value that is too large. -/
def readDigits : Nat → List Char → Except NumberError Nat
  | value, [] => .ok value
  | value, character :: rest =>
      if character.isDigit then
        let next := value * 10 + (character.toNat - '0'.toNat)
        if wordMax < next then .error .tooLarge else readDigits next rest
      else .error .badDigit

def readNumber (text : String) : Except NumberError Nat :=
  match text.toList with
  | [] => .error .empty
  | ['+'] => .error .badDigit
  | '+' :: digits => readDigits 0 digits
  | digits => readDigits 0 digits

end Contention.CommandLine
