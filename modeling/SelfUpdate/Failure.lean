/-!
# Kinds of failure

A coarse division of failures, by which a caller decides whether a later attempt can help.
-/

namespace SelfUpdate

inductive FailureKind where
  /-- Trouble with the network or the server. -/
  | transient
  /-- A missing or wrong checksum, an insecure address or an artifact that is too large. -/
  | integrity
  /-- A document that could not be understood. -/
  | malformedInput
  /-- Trouble with the file system or the platform. -/
  | «local»
  /-- The component gave no result. -/
  | shutDown
  deriving DecidableEq, Repr

/-- Only trouble with the network may pass by itself. -/
def FailureKind.isRetryable (kind : FailureKind) : Bool := kind == .transient

end SelfUpdate
