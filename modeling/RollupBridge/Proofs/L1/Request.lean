import RollupBridge.L1.Action

namespace RollupBridge.Request

/-- True of requests that only read. -/
def isRead : Request → Bool
  | .sign _ => false
  | .send _ => false
  | .wait _ _ => false
  | _ => true

/-- True of requests for a signature. -/
def isSign : Request → Bool
  | .sign _ => true
  | _ => false

/-- True of requests that broadcast a transaction. -/
def isSend : Request → Bool
  | .send _ => true
  | _ => false

/-- True of calls of a function, whatever the contract and the arguments. -/
def calls (f : Abi.Function) : Request → Bool
  | .call _ data => data.take 4 == f.selector.bytes
  | _ => false

@[simp]
theorem calls_call (contract : Address) (f g : Abi.Function) (args : Abi.Args f.params) :
    (Request.call contract (f.call args)).calls g = (f.selector.bytes == g.selector.bytes) := by
  have hlength : f.selector.bytes.length = 4 := f.selector.length_eq
  rw [calls, Abi.Function.call, List.take_left' hlength]

theorem isSign_eq_false_of_isRead {request : Request} (hread : request.isRead = true) :
    request.isSign = false := by
  cases request <;> first | rfl | cases hread

theorem isSend_eq_false_of_isRead {request : Request} (hread : request.isRead = true) :
    request.isSend = false := by
  cases request <;> first | rfl | cases hread

theorem isSend_eq_false_of_isSign {request : Request} (hsign : request.isSign = true) :
    request.isSend = false := by
  cases request <;> first | rfl | cases hsign

end RollupBridge.Request
