/-
  LivekitClient/CApi.lean
  =======================
  **What a call of the C API returns** (`lk_status_t`, `Failure`, `Guard` and
  `SetError` in `src/capi/livekit.cpp`): a status, and the text that `lk_last_error`
  gives afterwards.
-/
import Mathlib.Tactic.Common

namespace LivekitClient.CApi

/-- `lk_status_t`. -/
inductive Status where
  | ok
  | invalidArgument
  | invalidState
  | operationFailed
  | exception
deriving DecidableEq

/-- A status with `last_error`, which `Guard` clears at the beginning of a call. -/
structure Result where
  status : Status
  lastError : String
deriving DecidableEq

namespace Result

def ok : Result := ⟨.ok, ""⟩

/-- `Failure`. -/
def failure (status : Status) (message : String) : Result := ⟨status, message⟩

@[simp] theorem status_ok : ok.status = .ok := rfl

@[simp] theorem status_failure (status : Status) (message : String) :
    (failure status message).status = status := rfl

end Result

end LivekitClient.CApi
