import IssuanceClient.Json.Record

/-!
Results that say in which context they were computed: at which slot, and by which version of a node.
-/

namespace IssuanceClient.Rpc

open Json

/-- The context of a result. -/
def context : Reader Unit :=
  Reader.form "RpcResponseContext"
    [.required "slot" Reader.word.accept, (Slot.nullable "apiVersion" Reader.version).form]

/-- A result with its context, of which only the value is kept. -/
def inContext {α : Type} (value : Slot α) : Reader α :=
  Reader.record "Response" [Slot.required "context" context, value.form] value.get

end IssuanceClient.Rpc
