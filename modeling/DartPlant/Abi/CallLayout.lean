import DartPlant.Core.Status

/-! # Call layouts

Where the arguments and the result of a Dart call are at its entry, and how each is represented.  A
layout is only ever computed from proven evidence; `DartCallLayoutStatus` says why there is none.
-/

namespace DartPlant

inductive DartAbiRepresentation where
  | unknown
  | tagged
  | unboxedInt64
  | unboxedDouble
  | pairOfTagged
  deriving DecidableEq, Repr

inductive DartCallLayoutStatus where
  | ok
  | incompleteEvidence
  | conflictingEvidence
  | unsupportedRepresentation
  | optionalArgumentsUnsupported
  | invalidCallingConvention
  deriving DecidableEq, Repr

inductive DartAbiLocation where
  | unknown
  | gpRegister (index : Nat)
  | fpuRegister (index : Nat)
  | entryStack (offset : Int)
  deriving DecidableEq, Repr

/-- A value occupies no location, one, or the two of a pair. -/
structure DartParameterLayout where
  representation : DartAbiRepresentation := .unknown
  locations : List DartAbiLocation := []
  deriving DecidableEq, Repr

inductive DartClosureFormalKind where
  | implicit
  | requiredPositional
  | optionalPositional
  | named
  deriving DecidableEq, Repr

structure DartClosureFormalLayout where
  signatureIndex : Nat
  kind : DartClosureFormalKind
  isRequired : Bool
  name : String
  deriving DecidableEq, Repr

structure DartClosureSignatureLayout where
  implicitParameterCount : Nat
  fixedParameterCount : Nat
  optionalParameterCount : Nat
  typeParameterCount : Nat
  parentTypeArgumentCount : Nat
  hasNamedOptionalParameters : Bool
  formals : List DartClosureFormalLayout
  deriving DecidableEq, Repr

/-- What the registry of VM profiles says about one Dart version, as far as call evidence reads it:
the register of the arguments descriptor, and the key of its FunctionType layout. -/
structure RuntimeProfileRecord where
  profileVersion : BitVec 32
  argumentsDescriptorRegister : Nat
  functionTypeAbiKey : String
  deriving DecidableEq, Repr

structure DartCallLayout where
  vmCallProfile : Option RuntimeProfileRecord := none
  vmObjectProfile : Option RuntimeProfileRecord := none
  vmSemanticObservationReceipt : Bool := false
  parameters : List DartParameterLayout := []
  result : DartParameterLayout := {}
  stackWords : Nat := 0
  dartSpRegister : Nat := 0
  hasClosureReceiver : Bool := false
  closureReceiverLocation : DartAbiLocation := .unknown
  hasArgumentsDescriptor : Bool := false
  argumentsDescriptorLocation : DartAbiLocation := .unknown
  closureSignature : Option DartClosureSignatureLayout := none
  deriving DecidableEq, Repr

end DartPlant
