import Contention.Decimal.Shortest

namespace Contention

inductive Json where
  | null
  | boolean (value : Bool)
  | natural (value : Nat)
  | real (value : Float)
  | text (value : String)
  | list (items : List Json)
  | object (fields : List (String × Json))

namespace Json

def hexDigit (value : Nat) : Char := (Nat.digitChar value)

def escape (character : Char) : String :=
  match character with
  | '"' => "\\\""
  | '\\' => "\\\\"
  | '\n' => "\\n"
  | '\r' => "\\r"
  | '\t' => "\\t"
  | other =>
      let code := other.toNat
      if code = 8 then "\\b"
      else if code = 12 then "\\f"
      else if code < 32 then
        "\\u00" ++ String.ofList [hexDigit (code / 16), hexDigit (code % 16)]
      else String.singleton other

def quote (value : String) : String :=
  "\"" ++ String.join (value.toList.map escape) ++ "\""

mutual

def render : Json → String
  | .null => "null"
  | .boolean value => if value then "true" else "false"
  | .natural value => toString value
  | .real value => Decimal.Layout.record.write value
  | .text value => quote value
  | .list items => "[" ++ ",".intercalate (renderItems items) ++ "]"
  | .object fields => "\x7b" ++ ",".intercalate (renderFields fields) ++ "\x7d"

def renderItems : List Json → List String
  | [] => []
  | item :: rest => render item :: renderItems rest

def renderFields : List (String × Json) → List String
  | [] => []
  | (name, item) :: rest => (quote name ++ ":" ++ render item) :: renderFields rest

end

def optional {α : Type} (encode : α → Json) : Option α → Json
  | none => .null
  | some value => encode value

end Json

end Contention
