import Mathlib.Data.BitVec

/-! # Statuses, failures and addresses

The public status codes, in the order of the header, and the shape of a call that reports one: the
code returns the status and leaves a text for `dartplant_last_error`, which is a `Failure` here.
An address is a 64-bit word and `nullptr` is zero.
-/

namespace DartPlant

/-- The public status codes. -/
inductive DartPlantStatus where
  | ok
  | invalidArgument
  | notInitialized
  | hostApiUnavailable
  | metadataInvalid
  | moduleNotFound
  | methodNotFound
  | ambiguousMethod
  | buildIdMismatch
  | fingerprintMismatch
  | addressOutsideExecutable
  | unsupportedAddressKind
  | unsupportedAbi
  | profileMismatch
  | runtimeNotReady
  | invalidInvocationPhase
  | alreadyHooked
  | hookFailed
  | unhookFailed
  | vmBridgeUnavailable
  | vmIsolateMismatch
  | vmThreadMismatch
  | vmScopeRequired
  | vmAdapterBusy
  | objectHandleInvalid
  | objectCollected
  | sharedCodeEntry
  deriving DecidableEq, Repr

/-- A call that did not succeed: its status and the text it set as the last error. -/
structure Failure where
  status : DartPlantStatus
  message : String
  deriving DecidableEq, Repr

/-- The outcome of a call that reports a status. -/
abbrev Result (α : Type) := Except Failure α

/-- The status a caller sees. -/
def Result.status {α : Type} : Result α → DartPlantStatus
  | .ok _ => .ok
  | .error failure => failure.status

/-- A `uintptr_t`, and every pointer the model compares or stores. -/
abbrev Address := BitVec 64

/-- The null pointer. -/
abbrev nullptr : Address := 0#64

end DartPlant
