namespace Contention

inductive Level where
  | trace | debug | info | warn
deriving DecidableEq, Repr

def Level.name : Level → String
  | .trace => "TRACE"
  | .debug => "DEBUG"
  | .info => "INFO"
  | .warn => "WARN"

structure Event where
  level : Level
  message : String
  fields : List (String × String) := []
deriving DecidableEq, Repr

/-- One line: the level, the message, then each field as `name=value`. -/
def Event.line (event : Event) : String :=
  event.fields.foldl (fun text (name, value) => text ++ " " ++ name ++ "=" ++ value)
    (event.level.name ++ " " ++ event.message)

def optionalField : Option Nat → String
  | none => "None"
  | some number => s!"Some({number})"

end Contention
