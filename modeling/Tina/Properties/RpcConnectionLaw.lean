import Tina.Lib.Runs
import Tina.Rpc.ConnectionBooks

/-!
The law of an open connection: what happens to every request that it reads, to every request that it
routes, and to the bytes that it writes.
-/

namespace Tina.Rpc.Connection

open Lib List Effect Http

variable {A : Type}

/-- What the runtime has been asked for and has not answered. -/
inductive Operation where
  | read
  | write (bytes : List UInt8)
  | closeStream
  | idle (snapshot : UInt64)

def Effect.operation? : Effect A → Option Operation
  | .read .. => some .read
  | .write _ bytes => some (.write bytes)
  | .closeStream _ => some .closeStream
  | .idleArm snapshot _ => some (.idle snapshot)
  | .route .. | .send .. | .stop | .refused .. | .resolved .. => none

def Effect.isStop : Effect A → Bool
  | .stop => true
  | _ => false

def Operation.bytes? : Operation → Option (List UInt8)
  | .write bytes => some bytes
  | _ => none

/-- Whether a message answers an operation. -/
def completes : ConnectionMsg → Operation → Bool
  | .read _, .read | .wrote _, .write _ | .streamClosed _, .closeStream => true
  | .idleTick snapshot, .idle snapshot' => snapshot = snapshot'
  | _, _ => false

/-- A connection, its peer, the runtime and the router, which has the calls that it has not
answered. -/
structure World (A : Type) where
  conn : Connection A
  received : List UInt8
  written : List UInt8
  history : List (Effect A)
  calls : List Call
  outstanding : List Operation
  stopped : Bool

namespace World

def initial (stream : StreamId) (router : A) (watcher : Option A) (config : ConnectionConfig) :
    World A where
  conn := .new stream router watcher config
  received := []
  written := []
  history := []
  calls := []
  outstanding := []
  stopped := false

/-- The requests among the bytes received, up to the first thing that is none. -/
def frames (w : World A) : List Frame :=
  (split w.conn.frameLimits isRequest w.received).1

/-- The runtime completes what it was asked for, with no more bytes than were asked for; the router
answers calls in any order. -/
def delivers (w : World A) (msg : ConnectionMsg) : Bool :=
  !w.stopped &&
    match msg with
    | .begin | .shutdown => true
    | .routed requestId service method _ => ⟨requestId, service, method⟩ ∈ w.calls
    | .read (.ok bytes) =>
      w.outstanding.any (completes msg) && bytes.length ≤ max w.conn.config.readChunk 1
    | .read (.error _) | .wrote _ | .streamClosed _ | .idleTick _ =>
      w.outstanding.any (completes msg)

def heard (w : World A) : ConnectionMsg → List UInt8
  | .read (.ok bytes) => if w.conn.closing.isSome || w.conn.closeDispatched then [] else bytes
  | _ => []

/-- The bytes that the peer got. -/
def accepted (w : World A) : ConnectionMsg → List UInt8
  | .wrote (.ok count) => (w.conn.writeInFlight.getD []).take count
  | _ => []

def unanswered (w : World A) : ConnectionMsg → List Call
  | .routed requestId service method _ => w.calls.erase ⟨requestId, service, method⟩
  | _ => w.calls

/-- The world after a message was handled. -/
def after (w : World A) (msg : ConnectionMsg) : World A :=
  let (conn, effects) := w.conn.handle msg
  { conn
    received := w.received ++ w.heard msg
    written := w.written ++ w.accepted msg
    history := w.history ++ effects
    calls := w.unanswered msg ++ effects.filterMap Effect.routed?
    outstanding := w.outstanding.eraseP (completes msg) ++ effects.filterMap Effect.operation?
    stopped := effects.any Effect.isStop }

def step (w : World A) (msg : ConnectionMsg) : Option (World A) :=
  if w.delivers msg then some (w.after msg) else none

/-- What holds while a connection is open. -/
structure Open (w : World A) : Prop where
  books : Books w.conn w.history w.frames w.calls w.written
  inbound : split w.conn.frameLimits isRequest w.received = (w.frames, some w.conn.inbound)
  writing : w.outstanding.filterMap Operation.bytes? = w.conn.writeInFlight.toList

end World

section

variable {conn : Connection A}

/-- A connection that is closing has asked for it. -/
def Asked (conn : Connection A) : Prop :=
  conn.closing.isSome → conn.closeDispatched = true

theorem beginClose_closes (hclosing : conn.Asked)
    (reason : CloseReason) : (conn.beginClose reason).1.closeDispatched = true := by
  unfold beginClose
  split
  · next hclosed =>
    rcases Bool.or_eq_true_iff.1 hclosed with hsome | hdispatched
    · exact hclosing hsome
    · exact hdispatched
  · rfl

theorem beginClose_of_closed (h : conn.closeDispatched = true) (reason : CloseReason) :
    conn.beginClose reason = (conn, []) := by
  rw [beginClose, h, Bool.or_true, if_pos rfl]

/-- A closed connection stays closed. -/
theorem handle_of_closed (h : conn.closeDispatched = true) (msg : ConnectionMsg) :
    (conn.handle msg).1.closeDispatched = true := by
  have hdead : (conn.closing.isSome || conn.closeDispatched) = true := by rw [h, Bool.or_true]
  cases msg with dsimp only [handle]
  | begin => unfold onBegin; rw [hdead, Bool.true_or, if_pos rfl]; exact h
  | read => unfold onRead; rw [if_pos hdead]; exact h
  | wrote => unfold onWrote; rw [if_pos h]; exact h
  | streamClosed => unfold finalizeClose; split <;> exact h
  | routed => unfold onRouted; rw [if_pos hdead]; exact h
  | idleTick => unfold onIdleTick; rw [if_pos hdead]; exact h
  | shutdown => rw [beginClose_of_closed h]; exact h

/-- The configuration stays, and a connection that is closing has asked for it. -/
structure Orderly (config : ConnectionConfig) (conn : Connection A) : Prop where
  config : conn.config = config
  closing : conn.Asked

namespace Orderly

variable {config : ConnectionConfig}

variable (h : Orderly config conn)

include h

theorem beginClose (reason : CloseReason) : Orderly config (conn.beginClose reason).1 := by
  refine ⟨?_, fun _ => beginClose_closes h.closing reason⟩
  unfold Connection.beginClose
  split <;> exact h.config

theorem maybeStartWrite : Orderly config conn.maybeStartWrite.1 := by
  unfold Connection.maybeStartWrite
  split
  · exact h
  · split <;> exact ⟨h.config, h.closing⟩

theorem finishRead (drained : Except DrainError (List (Effect A))) :
    Orderly config (conn.finishRead drained).1 := by
  unfold Connection.finishRead
  split
  · exact h.beginClose _
  · exact h.beginClose _
  · exact h.maybeStartWrite

theorem onRead (result : Except CallError (List UInt8)) :
    Orderly config (conn.onRead result).1 := by
  unfold Connection.onRead
  split
  · exact h
  split
  · exact h.beginClose _
  next bytes =>
  split
  · exact h.beginClose _
  have hsteady := drainInbound_steady (conn.extendInbound bytes)
    ((conn.extendInbound bytes).inbound.length + 1) []
  refine finishRead ⟨hsteady.config.trans h.config, ?_⟩ _
  rw [Asked, hsteady.closing, hsteady.closeDispatched]
  exact h.closing

theorem onWrote (result : Except CallError Nat) : Orderly config (conn.onWrote result).1 := by
  unfold Connection.onWrote
  split
  · exact h
  split
  · exact h.beginClose _
  dsimp only
  split
  · apply beginClose
    exact ⟨h.config, h.closing⟩
  split
  · apply beginClose
    exact ⟨h.config, h.closing⟩
  · apply maybeStartWrite
    split <;> split <;> exact ⟨h.config, h.closing⟩

theorem onRouted (requestId : UInt64) (service method : String)
    (outcome : CallOutcome RouterReply) :
    Orderly config (conn.onRouted requestId service method outcome).1 := by
  unfold Connection.onRouted
  split
  · exact h
  dsimp only
  split
  · exact ⟨h.config, h.closing⟩
  split
  · apply beginClose
    exact ⟨h.config, h.closing⟩
  split
  · apply beginClose
    exact ⟨h.config, h.closing⟩
  next henqueue =>
  unfold enqueueWrite at henqueue
  split at henqueue
  · cases henqueue
  cases henqueue
  apply maybeStartWrite
  exact ⟨h.config, h.closing⟩

theorem handle (msg : ConnectionMsg) : Orderly config (conn.handle msg).1 := by
  cases msg with
  | begin =>
    rw [Connection.handle, onBegin]
    split
    · exact h
    · exact ⟨h.config, h.closing⟩
  | read result => exact h.onRead result
  | wrote result => exact h.onWrote result
  | streamClosed =>
    rw [Connection.handle, finalizeClose]
    split <;> exact ⟨h.config, nofun⟩
  | routed requestId service method outcome => exact h.onRouted requestId service method outcome
  | idleTick =>
    rw [Connection.handle, onIdleTick]
    split
    · exact h
    split
    · exact h.beginClose _
    · exact h
  | shutdown => exact h.beginClose _

end Orderly

end

namespace World

variable {w : World A} {config : ConnectionConfig} {msg : ConnectionMsg}

section

variable {conn' : Connection A} {effects : List (Effect A)} {conn : Connection A}
  {result : Except CallError (List UInt8)} {requestId : UInt64} {service method : String}
  {outcome : CallOutcome RouterReply}

theorem after_eq (h : w.conn.handle msg = (conn', effects)) : w.after msg = {
      conn := conn'
      received := w.received ++ w.heard msg
      written := w.written ++ w.accepted msg
      history := w.history ++ effects
      calls := w.unanswered msg ++ effects.filterMap routed?
      outstanding := w.outstanding.eraseP (completes msg) ++ effects.filterMap operation?
      stopped := effects.any isStop } := by
  rw [after, h]

/-- The bytes of the writes among effects. -/
def writesIn (effects : List (Effect A)) : List (List UInt8) :=
  (effects.filterMap Effect.operation?).filterMap Operation.bytes?

/-- What has to be shown of a message. -/
theorem open_after {frames : List Frame} (hhandle : w.conn.handle msg = (conn', effects))
    (hsplit : split conn'.frameLimits isRequest (w.received ++ w.heard msg) =
      (frames, some conn'.inbound))
    (hbooks : Books conn' (w.history ++ effects) frames
      (w.unanswered msg ++ effects.filterMap routed?) (w.written ++ w.accepted msg))
    (hwriting : (w.outstanding.eraseP (completes msg)).filterMap Operation.bytes? ++
      writesIn effects = conn'.writeInFlight.toList) : (w.after msg).Open := by
  rw [after_eq hhandle]
  have hframes : (split conn'.frameLimits isRequest (w.received ++ w.heard msg)).1 = frames := by
    rw [hsplit]
  constructor
  · rw [World.frames, hframes]
    exact hbooks
  · rw [World.frames, hframes]
    exact hsplit
  · rw [filterMap_append]
    exact hwriting

/-- The writes that are left when a message is not the end of one. -/
theorem Open.writing_of_not_wrote (h : w.Open) (hmsg : ∀ result, msg ≠ .wrote result) :
    (w.outstanding.eraseP (completes msg)).filterMap Operation.bytes? =
      w.conn.writeInFlight.toList := by
  rw [filterMap_eraseP_of_none, h.writing]
  intro operation hcompletes
  cases operation with
  | write =>
    cases msg with
    | wrote result => exact absurd rfl (hmsg result)
    | _ => cases hcompletes
  | _ => rfl

theorem filterMap_routed_of_plain (hplain : ∀ effect ∈ effects, effect.isPlain = true) :
    effects.filterMap routed? = [] := by
  refine filterMap_eq_nil_iff.2 fun effect hmem => ?_
  have hthis := hplain effect hmem
  cases effect <;> first | rfl | cases hthis

/-- A message about the stream that changes nothing the books look at. -/
theorem Open.quiet {began closeDispatched readsDone : Bool} {closing : Option CloseReason}
    (h : w.Open) (hhandle : w.conn.handle msg =
      ({ w.conn with began, closing, closeDispatched, readsDone }, effects))
    (hmsg : ∀ result, msg ≠ .wrote result) (hheard : w.heard msg = [])
    (haccepted : w.accepted msg = []) (hcalls : w.unanswered msg = w.calls)
    (hplain : ∀ effect ∈ effects, effect.isPlain = true) (hwrites : writesIn effects = []) :
    (w.after msg).Open := by
  apply open_after hhandle
  · rw [hheard, append_nil]
    exact h.inbound
  · rw [haccepted, hcalls, filterMap_routed_of_plain hplain, append_nil, append_nil]
    refine Books.plainAll ?_ hplain
    exact { h.books with }
  · rw [h.writing_of_not_wrote hmsg, hwrites]
    exact append_nil _

/-- The write that starts, if one does, is the one that is in flight. -/
structure Started (conn conn' : Connection A) (write : List (Effect A)) : Prop where
  plain : ∀ effect ∈ write, effect.isPlain = true
  writing : conn.writeInFlight.toList ++ writesIn write = conn'.writeInFlight.toList
  config : conn'.config = conn.config
  inbound : conn'.inbound = conn.inbound
  books : ∀ {history : List (Effect A)} {frames : List Frame} {calls : List Call}
    {written : List UInt8}, Books conn history frames calls written →
    Books conn' history frames calls written

theorem Started.refl (conn : Connection A) : Started conn conn [] :=
  ⟨nofun, append_nil _, rfl, rfl, id⟩

theorem maybeStartWrite_started (conn : Connection A) :
    Started conn conn.maybeStartWrite.1 conn.maybeStartWrite.2 := by
  have hbooks : ∀ {history : List (Effect A)} {frames : List Frame} {calls : List Call}
      {written : List UInt8}, Books conn history frames calls written →
      Books conn.maybeStartWrite.1 history frames calls written := Books.startWrite
  unfold maybeStartWrite at hbooks ⊢
  split at hbooks
  · next hbusy =>
    rw [if_pos hbusy]
    exact .refl conn
  next hidle =>
  rw [if_neg hidle]
  rw [Option.not_isSome_iff_eq_none] at hidle
  cases hqueue : conn.writeQueue with
  | nil => exact .refl conn
  | cons =>
  rw [hqueue] at hbooks
  refine ⟨by simp [isPlain], ?_, rfl, rfl, hbooks⟩
  rw [hidle]
  rfl

theorem writesIn_append (effects effects' : List (Effect A)) :
    writesIn (effects ++ effects') = writesIn effects ++ writesIn effects' := by
  rw [writesIn, filterMap_append, filterMap_append]
  rfl

theorem writesIn_of_notes (hnotes : ∀ effect ∈ effects, effect.isPlain = false) :
    writesIn effects = [] := by
  have hnone : effects.filterMap operation? = [] := by
    refine filterMap_eq_nil_iff.2 fun effect hmem => ?_
    have hthis := hnotes effect hmem
    cases effect <;> first | rfl | cases hthis
  rw [writesIn, hnone]
  rfl

theorem nextRead_plain (conn : Connection A) : ∀ effect ∈ conn.nextRead, effect.isPlain = true := by
  unfold nextRead
  split <;> simp [readEffect, isPlain]

theorem writesIn_nextRead (conn : Connection A) : writesIn conn.nextRead = [] := by
  unfold nextRead
  split <;> rfl

theorem finishRead_closes (hclosing : conn.Asked) (error : DrainError) :
    (conn.finishRead (.error error)).1.closeDispatched = true := by
  cases error with
  | badPeer | localEncode => exact beginClose_closes hclosing _

/-- A read leaves the connection open only if it brings bytes and the loop ends well. -/
theorem onRead_open (hclosing : conn.Asked)
    (hopen : (conn.closing.isSome || conn.closeDispatched) = false)
    (hopen' : (conn.onRead result).1.closeDispatched = false) :
    ∃ bytes conn₁ emitted, result = .ok bytes ∧
      (conn.extendInbound bytes).drainInbound ((conn.inbound ++ bytes).length + 1) [] =
        (conn₁, .ok emitted) ∧
      conn.onRead result = conn₁.finishRead (.ok emitted) := by
  unfold onRead at hopen' ⊢
  rw [hopen, if_neg (by decide)] at hopen' ⊢
  cases result with
  | error =>
    rw [beginClose_closes hclosing] at hopen'
    cases hopen'
  | ok bytes =>
  dsimp only at hopen' ⊢
  by_cases hempty : bytes.isEmpty = true
  · rw [if_pos hempty, beginClose_closes hclosing] at hopen'
    cases hopen'
  rw [if_neg hempty] at hopen' ⊢
  have hsteady := drainInbound_steady (conn.extendInbound bytes)
    ((conn.inbound ++ bytes).length + 1) []
  cases hdrain : (conn.extendInbound bytes).drainInbound ((conn.inbound ++ bytes).length + 1) []
    with
  | mk conn₁ drained =>
    have hend : (conn.extendInbound bytes).drainInbound
        ((conn.extendInbound bytes).inbound.length + 1) [] = (conn₁, drained) := hdrain
    rw [hdrain] at hsteady
    rw [hend] at hopen' ⊢
    cases drained with
    | error =>
      have hclosing₁ : conn₁.Asked := by
        rw [Asked, hsteady.closing, hsteady.closeDispatched]
        exact hclosing
      rw [finishRead_closes hclosing₁] at hopen'
      cases hopen'
    | ok emitted => exact ⟨bytes, conn₁, emitted, rfl, hdrain, rfl⟩

/-- A read that leaves the connection open. -/
theorem Open.read (h : w.Open) (hclosing : w.conn.Asked)
    (hopen : (w.conn.closing.isSome || w.conn.closeDispatched) = false)
    (hopen' : (w.conn.onRead result).1.closeDispatched = false) :
    (w.after (.read result)).Open := by
  obtain ⟨bytes, conn₁, emitted, rfl, hdrain, hhandle⟩ := onRead_open hclosing hopen hopen'
  have hbooks : Books (w.conn.extendInbound bytes)
      (w.history ++ []) w.frames w.calls w.written := by
    rw [append_nil]
    exact { h.books with }
  obtain ⟨more, _, hsplit, rfl, hbooks₁, hsteady, hnotes⟩ :=
    drainInbound_books (Nat.lt_succ_self _) hbooks hdrain
  obtain ⟨hplain, hwriting, hconfig, hinbound, hstarted⟩ := maybeStartWrite_started conn₁
  have hlimits : conn₁.maybeStartWrite.1.frameLimits = w.conn.frameLimits := by
    rw [frameLimits, hconfig, hsteady.config]
    rfl
  have hheard : w.heard (.read (.ok bytes)) = bytes := if_neg (by rw [hopen]; decide)
  have hread := nextRead_plain conn₁.maybeStartWrite.1
  have hout : w.conn.handle (.read (.ok bytes)) = (conn₁.maybeStartWrite.1,
      emitted ++ conn₁.maybeStartWrite.2 ++ conn₁.maybeStartWrite.1.nextRead) := hhandle
  apply open_after hout
  · have hsplit' : split w.conn.frameLimits isRequest (w.conn.inbound ++ bytes) =
        (more, some conn₁.inbound) := hsplit
    rw [hheard, hlimits, split_append, h.inbound, hinbound]
    dsimp only
    rw [hsplit']
  · have hbooks₂ := ((hstarted hbooks₁).plainAll hplain).plainAll hread
    rw [filterMap_append, filterMap_append, filterMap_routed_of_plain hplain,
      filterMap_routed_of_plain hread, append_nil, append_nil, ← append_assoc,
      ← append_assoc]
    exact (append_nil w.written).symm ▸ hbooks₂
  · rw [h.writing_of_not_wrote (by simp), writesIn_append, writesIn_append, writesIn_nextRead,
      writesIn_of_notes hnotes, ← hwriting, hsteady.writeInFlight]
    exact congrArg _ (append_nil _)

/-- A write leaves the connection open only if it makes progress; what is left goes back to the
front of the queue. -/
theorem onWrote_open (hclosing : conn.Asked) (hopen : conn.closeDispatched = false)
    {result : Except CallError Nat} (hopen' : (conn.onWrote result).1.closeDispatched = false) :
    ∃ count activitySeq writeQueue, result = .ok count ∧ conn.onWrote result =
        { conn with writeInFlight := none, activitySeq, writeQueue }.maybeStartWrite ∧
      writeQueue.flatten = (conn.writeInFlight.getD []).drop count ++ conn.writeQueue.flatten := by
  unfold onWrote at hopen' ⊢
  rw [if_neg (by rw [hopen]; decide)] at hopen' ⊢
  cases result with
  | error =>
    rw [beginClose_closes hclosing] at hopen'
    cases hopen'
  | ok count =>
  have hasked : Asked { conn with writeInFlight := none } := hclosing
  dsimp only at hopen' ⊢
  split at hopen'
  · rw [beginClose_closes hasked] at hopen'
    cases hopen'
  next hmany =>
  rw [if_neg hmany]
  split at hopen'
  · rw [beginClose_closes hasked] at hopen'
    cases hopen'
  next hprogress =>
  rw [if_neg hprogress]
  split
  · split <;> exact ⟨count, _, _, rfl, rfl, rfl⟩
  next =>
  have hnone : (conn.writeInFlight.getD []).drop count = [] := drop_eq_nil_of_le (by omega)
  split <;> exact ⟨count, _, _, rfl, rfl, by rw [hnone, nil_append]⟩

/-- A write that leaves the connection open. -/
theorem Open.wrote (h : w.Open) (hclosing : w.conn.Asked) (hopen : w.conn.closeDispatched = false)
    {result : Except CallError Nat} (hopen' : (w.conn.onWrote result).1.closeDispatched = false) :
    (w.after (.wrote result)).Open := by
  obtain ⟨count, activitySeq, writeQueue, rfl, hhandle, hqueue⟩ :=
    onWrote_open hclosing hopen hopen'
  let conn₁ := { w.conn with writeInFlight := none, activitySeq, writeQueue }
  obtain ⟨hplain, hwriting, hconfig, hinbound, hstarted⟩ := maybeStartWrite_started conn₁
  have hlimits : conn₁.maybeStartWrite.1.frameLimits = w.conn.frameLimits := by
    rw [frameLimits, hconfig]
    rfl
  have hbooks : Books conn₁ w.history w.frames w.calls
      (w.written ++ (w.conn.writeInFlight.getD []).take count) := by
    have hbytes := h.books.bytes
    rw [← take_append_drop count (w.conn.writeInFlight.getD []), ← append_assoc,
      append_assoc _ (drop ..), ← hqueue] at hbytes
    exact { h.books with bytes := hbytes.trans (by simp [conn₁]) }
  have hout : w.conn.handle (.wrote (.ok count)) =
    (conn₁.maybeStartWrite.1, conn₁.maybeStartWrite.2) := hhandle
  apply open_after hout
  · rw [hlimits, hinbound]
    exact (congrArg _ (append_nil _)).trans h.inbound
  · rw [filterMap_routed_of_plain hplain, append_nil]
    exact (hstarted hbooks).plainAll hplain
  have hcompletes : ∀ operation : Operation,
      completes (.wrote (.ok count)) operation = operation.bytes?.isSome := by
    intro operation
    cases operation <;> rfl
  rw [filterMap_eraseP_of_isSome hcompletes, h.writing, ← hwriting]
  cases w.conn.writeInFlight <;> rfl

/-- An outcome leaves the connection open only if its answer, if it has one, fits and finds room in
the queue. -/
theorem onRouted_open (hclosing : conn.Asked)
    (hopen : (conn.closing.isSome || conn.closeDispatched) = false)
    (hopen' : (conn.onRouted requestId service method outcome).1.closeDispatched = false) :
    ∃ reply write, ∃ conn₁ conn₂ : Connection A, conn.onRouted requestId service method outcome =
        (conn₂, .resolved requestId service method outcome reply :: write) ∧
      Started conn₁ conn₂ write ∧
      reply = answerTo conn.frameLimits requestId service method outcome ∧
      (∀ frame, reply = some frame → fits conn.frameLimits frame = true) ∧
      conn₁.inFlightIds = conn.inFlightIds.erase requestId ∧ conn₁.inFlight = conn.inFlight - 1 ∧
      conn₁.config = conn.config ∧ conn₁.inbound = conn.inbound ∧
      conn₁.writeInFlight = conn.writeInFlight ∧
      conn₁.writeQueue = conn.writeQueue ++ reply.toList.map (wire conn.frameLimits) := by
  unfold onRouted at hopen' ⊢
  rw [hopen, if_neg (by decide)] at hopen' ⊢
  dsimp only at hopen' ⊢
  split at hopen'
  · next hnone =>
    refine ⟨none, [], _, _, rfl, .refl _, ?_, nofun, rfl, rfl, rfl, rfl, rfl, ?_⟩
    · rw [answerTo, hnone]
      rfl
    · exact (append_nil _).symm
  next frame hframe =>
  obtain ⟨hid, hservice, hmethod, -⟩ := frameToSend_names hframe
  have hasked : Asked { conn with
      inFlight := conn.inFlight - 1
      inFlightIds := conn.inFlightIds.erase requestId } := hclosing
  split at hopen'
  · rw [beginClose_closes hasked] at hopen'
    cases hopen'
  next reply bytes hfitting =>
  obtain ⟨hreply, hfits, hwire⟩ := fittingFrame_eq_some hfitting
  unfold enqueueWrite at hopen' ⊢
  split at hopen'
  · next =>
    rw [beginClose_closes hasked] at hopen'
    cases hopen'
  next _ henqueue =>
  split at henqueue
  · cases henqueue
  cases henqueue
  refine ⟨some reply, _, _, _, rfl, maybeStartWrite_started _, ?_, ?_, rfl, rfl, rfl, rfl, rfl, ?_⟩
  · rw [hreply, answerTo, hframe, hid, hservice, hmethod]
    rfl
  · intro other hother
    cases hother
    exact hfits
  · exact congrArg (fun bytes => conn.writeQueue ++ [bytes]) hwire.symm

/-- An outcome that leaves the connection open. -/
theorem Open.routed (h : w.Open) (hclosing : w.conn.Asked)
    (hopen : (w.conn.closing.isSome || w.conn.closeDispatched) = false)
    (hcall : ⟨requestId, service, method⟩ ∈ w.calls)
    (hopen' : (w.conn.onRouted requestId service method outcome).1.closeDispatched = false) :
    (w.after (.routed requestId service method outcome)).Open := by
  obtain ⟨reply, write, _, conn₂, hhandle, hstarted, hreply, hfits, hids, hcount, hconfig, hinbound,
    hinFlight, hqueue⟩ := onRouted_open hclosing hopen hopen'
  have hlimits : conn₂.frameLimits = w.conn.frameLimits := by
    rw [frameLimits, hstarted.config, hconfig]
    rfl
  have hbooks := hstarted.books
    (h.books.resolve hcall hreply hfits hids hcount hconfig hinFlight hqueue)
  have hout : w.conn.handle (.routed requestId service method outcome) =
    (conn₂, .resolved requestId service method outcome reply :: write) := hhandle
  apply open_after hout
  · rw [hlimits, hstarted.inbound, hinbound]
    exact (congrArg _ (append_nil _)).trans h.inbound
  · rw [filterMap_cons_toList, filterMap_routed_of_plain hstarted.plain, append_cons]
    have hcalls : w.unanswered (.routed requestId service method outcome) ++
        ((resolved requestId service method outcome reply : Effect A).routed?.toList ++ []) =
        w.calls.erase ⟨requestId, service, method⟩ := append_nil _
    rw [hcalls]
    exact (append_nil w.written).symm ▸ hbooks.plainAll hstarted.plain
  · rw [h.writing_of_not_wrote (by simp), ← hstarted.writing, hinFlight]
    rfl

theorem finalizeClose_spec (conn : Connection A) :
    ∃ effects, conn.finalizeClose = ({ conn with closing := none }, effects) ∧
      (∀ effect ∈ effects, effect.isPlain = true) ∧ writesIn effects = [] := by
  unfold finalizeClose
  split
  · exact ⟨_, rfl, by simp [isPlain], rfl⟩
  · exact ⟨_, rfl, by simp [isPlain], rfl⟩

/-- Whatever leaves the connection open keeps the law. -/
theorem Open.after (h : w.Open) (hclosing : w.conn.Asked)
    (hopen : w.conn.closeDispatched = false) (hdelivers : w.delivers msg = true)
    (hopen' : (w.after msg).conn.closeDispatched = false) : (w.after msg).Open := by
  have hcalm : (w.conn.closing.isSome || w.conn.closeDispatched) = false := by
    cases hsome : w.conn.closing.isSome with
    | false => exact hopen
    | true => exact absurd (hclosing hsome) (by rw [hopen]; decide)
  cases msg with
  | begin =>
    by_cases hbegan : w.conn.began = true
    · have hhandle : w.conn.handle .begin = (w.conn, []) := by
        rw [handle, onBegin, hbegan, Bool.or_true, if_pos rfl]
      exact h.quiet hhandle nofun rfl rfl rfl nofun rfl
    have hhandle : w.conn.handle .begin =
        ({ w.conn with began := true }, [w.conn.readEffect, w.conn.idleArmEffect]) := by
      rw [handle, onBegin, hcalm, Bool.false_or, if_neg hbegan]
      rfl
    exact h.quiet hhandle nofun rfl rfl rfl (by simp [readEffect, idleArmEffect, isPlain]) rfl
  | read => exact h.read hclosing hcalm hopen'
  | wrote => exact h.wrote hclosing hopen hopen'
  | streamClosed =>
    obtain ⟨_, hhandle, hplain, hwrites⟩ := finalizeClose_spec w.conn
    exact h.quiet hhandle nofun rfl rfl rfl hplain hwrites
  | routed =>
    simp only [delivers, Bool.and_eq_true, decide_eq_true_eq] at hdelivers
    exact h.routed hclosing hcalm hdelivers.2 hopen'
  | idleTick snapshot =>
    by_cases hidle : snapshot = w.conn.activitySeq
    · have hhandle : w.conn.handle (.idleTick snapshot) = w.conn.beginClose .idle := by
        rw [handle, onIdleTick, hcalm, if_neg (by decide), if_pos hidle]
      have hclosed : (w.after (.idleTick snapshot)).conn.closeDispatched = true := by
        rw [after_eq hhandle]
        exact beginClose_closes hclosing .idle
      exact absurd (hclosed.symm.trans hopen') (by decide)
    · have hhandle : w.conn.handle (.idleTick snapshot) = (w.conn, [w.conn.idleArmEffect]) := by
        rw [handle, onIdleTick, hcalm, if_neg (by decide), if_neg hidle]
      exact h.quiet hhandle nofun rfl rfl rfl (by simp [idleArmEffect, isPlain]) rfl
  | shutdown =>
    have hclosed : (w.after .shutdown).conn.closeDispatched = true := beginClose_closes hclosing _
    exact absurd (hclosed.symm.trans hopen') (by decide)

end

/-- What holds in every world. -/
structure Sound (config : ConnectionConfig) (w : World A) : Prop where
  orderly : Orderly config w.conn
  isOpen : w.conn.closeDispatched = false → w.Open

theorem Sound.step {w' : World A} (h : w.Sound config) (hstep : World.step w msg = some w') :
    w'.Sound config := by
  unfold World.step at hstep
  split at hstep
  · next hdelivers =>
    cases hstep
    refine ⟨h.orderly.handle msg, fun hopen' => ?_⟩
    have hopen : w.conn.closeDispatched = false := by
      cases hclosed : w.conn.closeDispatched with
      | false => rfl
      | true => exact absurd ((handle_of_closed hclosed msg).symm.trans hopen') (by decide)
    exact (h.isOpen hopen).after h.orderly.closing hopen hdelivers hopen'
  · cases hstep

theorem Sound.start (stream : StreamId) (router : A) (watcher : Option A)
    (config : ConnectionConfig) : Sound config (initial stream router watcher config) := by
  refine ⟨⟨rfl, nofun⟩,
    fun _ => ⟨⟨rfl, rfl, rfl, .nil, rfl, Nat.zero_le _, ?_, .nil, rfl⟩, ?_, rfl⟩⟩
  · intro before effect after hsplit
    cases before <;> cases hsplit
  · exact split_of_short rfl

end World

end Tina.Rpc.Connection
