import LorePia.Domain.Text

namespace LorePia

/-!
# Errors of the core

`CoreError` as every layer passes it on.  The identifier of an operation is drawn at random
when an error is made; the model takes it as an argument.  A call that would panic in the
source ends in `Fault.panicked`, so that the absence of panics can be stated.
-/

inductive CoreErrorCode
  | invalidInput
  | unsupportedContent
  | unsafeArchive
  | notFound
  | permissionDenied
  | storageUnavailable
  | storageCorrupted
  | providerAuthFailed
  | providerRateLimited
  | providerUnavailable
  | networkUnavailable
  | cancelled
  | internal
deriving DecidableEq

/-- `CoreErrorCode::as_str`. -/
def CoreErrorCode.asStr : CoreErrorCode → String
  | .invalidInput => "invalid_input"
  | .unsupportedContent => "unsupported_content"
  | .unsafeArchive => "unsafe_archive"
  | .notFound => "not_found"
  | .permissionDenied => "permission_denied"
  | .storageUnavailable => "storage_unavailable"
  | .storageCorrupted => "storage_corrupted"
  | .providerAuthFailed => "provider_auth_failed"
  | .providerRateLimited => "provider_rate_limited"
  | .providerUnavailable => "provider_unavailable"
  | .networkUnavailable => "network_unavailable"
  | .cancelled => "cancelled"
  | .internal => "internal"

structure CoreError where
  code : CoreErrorCode
  message : String
  recoverable : Bool
  operationId : String
deriving DecidableEq

abbrev CoreResult := Except CoreError

/-- `CoreError::new`, with the identifier it draws. -/
def CoreError.new (operationId : String) (code : CoreErrorCode) (message : String)
    (recoverable : Bool) : CoreError :=
  { code, message, recoverable, operationId }

/-- How a computation of the core stops early. -/
inductive Fault
  | error (error : CoreError)
  | panicked

end LorePia
