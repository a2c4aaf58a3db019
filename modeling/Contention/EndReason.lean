namespace Contention

inductive EndReason where
  | deadline
  | stalled
  | operator
deriving DecidableEq, Repr, Inhabited

def EndReason.name : EndReason → String
  | .deadline => "deadline"
  | .stalled => "stalled"
  | .operator => "operator"

end Contention
