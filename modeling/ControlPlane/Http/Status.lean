/-!
# Status Codes

The three-digit code of a reply. A number outside the range of such codes is no
status, so the type holds codes in range only.

## Main definitions

* `Status`: A code from 100 to 999.
* `Status.ofNat?`: The status with a given code.
-/

namespace ControlPlane

namespace Http

/-- A status code from 100 to 999. -/
structure Status where
  code : Nat
  inRange : 100 ≤ code ∧ code ≤ 999 := by decide

deriving instance DecidableEq for Status

namespace Status

/-- The status with the given code, if the code is in range. -/
def ofNat? (code : Nat) : Option Status :=
  if h : 100 ≤ code ∧ code ≤ 999 then some ⟨code, h⟩ else none

/-- The request was served. -/
def ok : Status := ⟨200, by decide⟩

/-- The request makes no sense to the server. -/
def badRequest : Status := ⟨400, by decide⟩

/-- The peer may not use the server. -/
def forbidden : Status := ⟨403, by decide⟩

/-- Nothing is served under the request's target. -/
def notFound : Status := ⟨404, by decide⟩

/-- The body is longer than the server accepts. -/
def payloadTooLarge : Status := ⟨413, by decide⟩

/-- The server failed to serve the request. -/
def internalError : Status := ⟨500, by decide⟩

/-- The server is shutting down. -/
def unavailable : Status := ⟨503, by decide⟩

end Status

end Http

end ControlPlane
