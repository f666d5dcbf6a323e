import QuoteProver.Text.Utf8

/-!
# Decoding failures

A `Failure` is a `Cause` with the names of the fields around the place where it arose, outermost
first.
-/

namespace QuoteProver.Codec

/-- Why a value cannot be decoded. -/
inductive Cause where
  /-- The bytes end inside a piece of `needed` bytes, `available` of which are there. -/
  | insufficientBytes (needed available : Nat)
  /-- A tag that stands for no variant of the type. -/
  | unknownVariant (type : String) (discriminant : Nat)
  /-- A tag of a variant whose contents are not read. -/
  | unsupportedVariant (type : String) (discriminant : Nat)
  /-- A string that is no UTF-8. -/
  | utf8 (fault : Text.Utf8.Fault)
  deriving Repr, DecidableEq

/-- The wording of a cause. -/
def Cause.message : Cause → String
  | .insufficientBytes needed available => s!"insufficient bytes: need {needed}, have {available}"
  | .unknownVariant type discriminant => s!"unknown {type} variant: {discriminant}"
  | .unsupportedVariant type discriminant => s!"unsupported {type} variant: {discriminant}"
  | .utf8 fault => "invalid utf-8: " ++ fault.message

/-- A cause and the path of field names to it. -/
structure Failure where
  path : List String
  cause : Cause
  deriving Repr, DecidableEq

namespace Failure

/-- The failure as seen from outside the field `name`. -/
def inField (name : String) (failure : Failure) : Failure :=
  { failure with path := name :: failure.path }

/-- The wording of a failure: the path, then the cause. -/
def message (failure : Failure) : String :=
  failure.path.foldr (fun name text => name ++ ": " ++ text) failure.cause.message

end Failure

end QuoteProver.Codec
