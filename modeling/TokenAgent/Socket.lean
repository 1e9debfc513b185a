import TokenAgent.Error

/-!
# The agent's socket

The agent listens on a socket file that only its owner can use.  A stale file in its place is
replaced, and the file goes when the agent does.
-/

namespace TokenAgent

namespace Socket

/-- What is at the path of the socket. -/
inductive Place where
  /-- The directory of the path is not there. -/
  | unreachable
  | vacant
  | occupied
  deriving DecidableEq, Repr

/-- A socket that is bound: its path and the permissions of its file. -/
structure Listener where
  path : String
  mode : Nat
  deriving DecidableEq, Repr

/-- Read and write for the owner, nothing for others. -/
def ownerOnly : Nat := 0o600

/-- Bind a socket at a path.  What is there gives way. -/
def bind (path : String) : Place → Except StreamError (Listener × Place)
  | .unreachable => .error .notFound
  | .vacant | .occupied => .ok (⟨path, ownerOnly⟩, .occupied)

/-- Give up a socket; its file is removed. -/
def release (_ : Listener) : Place := .vacant

end Socket

end TokenAgent
