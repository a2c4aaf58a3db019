namespace Contention

/-- A thread of a phase could not be started, which is the one thing that keeps a
phase from running at all. -/
structure SpawnError where
  role : String
  source : String
deriving DecidableEq, Repr

def SpawnError.message (error : SpawnError) : String :=
  "failed to spawn " ++ error.role ++ " thread: " ++ error.source

end Contention
