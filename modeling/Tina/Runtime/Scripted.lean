import Tina.Runtime.Operations

/-!
A host whose isolates follow a script, so that a whole run is a closed term. Messages,
isolates and stop results are numbers, nothing is captured or submitted to a backend, and
the transport takes every envelope.
-/

namespace Tina

abbrev scriptPayload : Payload where
  Message := Nat
  Isolate := Nat
  CallInput := Nat
  CallOutput := Nat
  StopResult := Nat

/-- What each isolate does with each message; `none` is a handler that panics. -/
abbrev Script := Nat → Nat → Option (ErasedEffect scriptPayload)

def Script.turn (script : Script) (isolate message : Nat) : Turn scriptPayload Unit where
  isolate
  shard := ()
  captured := false
  effect := script isolate message

/-- The host that runs `script` over the given transport. -/
abbrev Script.hostOver (script : Script) (Net : Type)
    (route : Net → ShardId → QueuedRemoteEnvelope scriptPayload →
      Except Panic (Except SendRejectedReason Unit × Net)) : Host where
  toPayload := scriptPayload
  Shard := Unit
  Driver := Unit
  Net
  typeId _ := 0
  outputFailed _ := false
  handle isolate message _ _ _ _ := script.turn isolate message
  handleCall isolate message _ _ _ _ _ := script.turn isolate message
  slotDropped _ _ := false
  clock reads := reads
  submit driver _ _ _ := (none, driver)
  advance driver _ := ([], driver)
  cancel driver _ := driver
  cancelPending driver := driver
  takeCancelledByClose driver := ([], driver)
  notifySignal driver _ := ([], driver)
  route

abbrev Script.host (script : Script) : Host :=
  script.hostOver Unit fun net _ _ => .ok (.ok (), net)

/-- The runtime of shard `shardId` of system 1 before anything happens. -/
def Script.runtime (script : Script) (shardId : ShardId) : Runtime script.host :=
  Runtime.new script.host 1 shardId () () ()

/-- A run of a script on given operations that ends as `p` says. -/
theorem Script.exists_reachable (script : Script) (shardId : ShardId)
    (operations : List (Operation script.host)) (p : Runtime script.host → Bool)
    (hrun : (runOperations operations (script.runtime shardId)).any p = true) :
    ∃ s : Runtime script.host, Reachable s ∧ p s = true := by
  cases hend : runOperations operations (script.runtime shardId) with
  | none => simp [hend] at hrun
  | some s =>
  have hnew : Reachable (script.runtime shardId) :=
    Reachable.new (h := script.host) 1 shardId () () ()
  exact ⟨s, hnew.runOperations hend, by simpa [hend] using hrun⟩

/-- The address of an isolate of system 1. -/
def scriptAddress (shard : ShardId) (isolate : IsolateId) : RegisteredAddress where
  system := 1
  shard
  isolate
  generation := 0

end Tina
