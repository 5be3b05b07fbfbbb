import Tina.Http2.Client.Input
import Tina.Http2.HeaderFacts
import Tina.Lib.Checks

/-!
The status of a unary gRPC call. A stream that keeps compact facts merges the code and the message
of head and trailers one by one; a stream that keeps header maps takes both from one block. The two
report the same status exactly when the parts of the status stand together.
-/

namespace Tina.Http2.Client

open Option Lib GrpcStatusCode
open Http (Bytes trim)

section

variable (crates : Crates)

/-- The status that `decode_unary` reads from an outcome, before it falls back to the HTTP
status. -/
def unaryStatus : Http2ClientOutcome → Option GrpcStatus
  | .replied response =>
    (grpcStatusFromHeaderMap crates response.trailers).or
      (grpcStatusFromHeaderMap crates response.headers)
  | .grpcUnaryReplied _ status message _ =>
    status.map (grpcStatusFromCompact crates · message)
  | _ => none

/-- A stream that receives the header list of a response and, if there are any, its trailers. -/
def readResponse (maxHeaderBytes : Nat) (stream : ActiveClientStream)
    (head : List (Bytes × Bytes)) (trailers : Option (List (Bytes × Bytes))) :
    Except Http2ProtocolError ActiveClientStream := do
  let block ← readFields crates (!stream.grpcUnary) maxHeaderBytes {} head
  let stream ← applyHead stream block
  match trailers with
  | none => .ok stream
  | some fields =>
    let block ← readFields crates (!stream.grpcUnary) maxHeaderBytes {} fields
    applyTrailers stream true block

/-- What a header list says about the status: the first values of its two fields. -/
structure StatusFields where
  status : Option Text := none
  message : Option Text := none

def statusFields (fields : List (Bytes × Bytes)) : StatusFields where
  status := firstValue crates grpcStatusName fields
  message := firstValue crates grpcMessageName fields

/-- The code that a block carries, visible or not. -/
def StatusFields.code (block : StatusFields) : Option Nat :=
  block.status.bind fun value => parseU16 (trim value)

/-- The fields as `to_str` shows them. -/
def StatusFields.shown (block : StatusFields) : StatusFields where
  status := block.status.bind crates.toStr
  message := block.message.bind crates.toStr

/-- The later message is the one that stands in a block, as far as it is shown. -/
def MessageFrom (head trailers block : StatusFields) : Prop :=
  (trailers.message.or head.message).bind (percentDecodeGrpcMessage crates) =
    (block.shown crates).message.bind (percentDecodeGrpcMessage crates)

/-- Code and message come from one block, and the code is shown: the trailers if they carry a code,
otherwise the head. Trailers with a code that is not shown do no harm when the head repeats it. -/
def StatusTogether (head trailers : StatusFields) : Prop :=
  (trailers.code = none → head.code ≠ none →
    (head.shown crates).code = head.code ∧ MessageFrom crates head trailers head) ∧
  (trailers.code ≠ none →
    if (trailers.shown crates).code = trailers.code then MessageFrom crates head trailers trailers
    else
      (head.shown crates).code.map fromU16 = trailers.code.map fromU16 ∧
        MessageFrom crates head trailers head)

instance (head trailers block : StatusFields) :
    Decidable (MessageFrom crates head trailers block) :=
  inferInstanceAs (Decidable (_ = _))

instance (head trailers : StatusFields) : Decidable (StatusTogether crates head trailers) :=
  inferInstanceAs (Decidable (_ ∧ _))

end

section

variable (crates : Crates)

/-- The status of the compact reading. -/
def compactStatus (head trailers : StatusFields) : Option GrpcStatus :=
  (trailers.code.or head.code).map fun code =>
    grpcStatusFromCompact crates code (trailers.message.or head.message)

/-- The status that one block shows. -/
def blockStatus (block : StatusFields) : Option GrpcStatus :=
  (block.shown crates).code.map fun code =>
    grpcStatusFromCompact crates code (block.shown crates).message

/-- A value is shown as it is, or not at all. -/
theorem StatusFields.shown_code (block : StatusFields) :
    (block.shown crates).code = block.code ∨ (block.shown crates).code = none := by
  cases hstatus : block.status with
  | none => simp [shown, code, hstatus]
  | some value =>
  cases hshown : crates.toStr value with
  | none => simp [shown, code, hstatus, hshown]
  | some =>
    obtain rfl := crates.toStr_eq hshown
    simp [shown, code, hstatus, hshown]

theorem compactStatus_eq_iff (head trailers : StatusFields) : compactStatus crates head trailers =
        (blockStatus crates trailers).or (blockStatus crates head) ↔
      StatusTogether crates head trailers := by
  have htrailers := StatusFields.shown_code crates trailers
  have hhead := StatusFields.shown_code crates head
  unfold compactStatus blockStatus StatusTogether MessageFrom
  cases ht : trailers.code with
  | none =>
    have htshown : (trailers.shown crates).code = none := by simpa [ht] using htrailers
    cases hh : head.code with
    | none =>
      have hhshown : (head.shown crates).code = none := by simpa [hh] using hhead
      simp [htshown, hhshown]
    | some =>
    rcases hhead with hshown | hshown
    · simp [htshown, hshown, hh, grpcStatusFromCompact]
    · simp [htshown, hshown]
  | some =>
  rcases htrailers with hshown | hshown
  · simp [hshown, ht, grpcStatusFromCompact]
  cases (head.shown crates).code with
  | none => simp [hshown]
  | some => simp [hshown, grpcStatusFromCompact, eq_comm]

end

section

variable {crates : Crates} {maxHeaderBytes : Nat} {block : HeaderBlock}
  {stream : ActiveClientStream} {head trailers : StatusFields}

theorem grpcStatusFromHeaderMap_eq (headers : HeaderMap) : grpcStatusFromHeaderMap crates headers =
      blockStatus crates ⟨headers.get grpcStatusName, headers.get grpcMessageName⟩ := by
  unfold grpcStatusFromHeaderMap blockStatus StatusFields.shown StatusFields.code
  cases hstatus : (headers.get grpcStatusName).bind crates.toStr with
  | none => simp
  | some value =>
  cases hcode : parseU16 (trim value) with
  | none => simp [hcode]
  | some => simp [hcode, grpcStatusFromCompact]

/-- The blocks that a list is read into, with and without a map. -/
theorem readFields_statusFields {fields : List (Bytes × Bytes)}
    (h : readFields crates true maxHeaderBytes {} fields = .ok block) :
    readFields crates false maxHeaderBytes {} fields = .ok block.compact ∧
      (⟨block.headers.get grpcStatusName, block.headers.get grpcMessageName⟩ : StatusFields) =
        statusFields crates fields ∧
      block.grpcStatus = (statusFields crates fields).code ∧
      block.grpcMessage = (statusFields crates fields).message := by
  have hempty : HeaderBlock.Reported {} := ⟨rfl, rfl, rfl⟩
  obtain ⟨hreported, hget⟩ := readFields_reported h hempty
  have hstatus := hget grpcStatusName (by decide)
  have hmessage := hget grpcMessageName (by decide)
  rw [show HeaderMap.get [] grpcStatusName = none from rfl, none_or] at hstatus
  rw [show HeaderMap.get [] grpcMessageName = none from rfl, none_or] at hmessage
  refine ⟨readFields_compact h, ?_, ?_, ?_⟩
  · rw [hstatus, hmessage]
    rfl
  · rw [hreported.status, hstatus]
    rfl
  · rw [hreported.message, hmessage]
    rfl

/-- A head that one stream takes, the other takes too. -/
theorem applyHead_compact {headed : ActiveClientStream} (hunary : stream.grpcUnary = false)
    (h : applyHead stream block = .ok headed) :
    (∃ status, block.status = some status) ∧
      headed = { applyResponseHeaders stream block with responseHeadersSeen := true } ∧
      applyHead { stream with grpcUnary := true } block.compact =
        .ok { applyGrpcResponseHead { stream with grpcUnary := true } block with
          responseHeadersSeen := true } := by
  have hsame : validateResponseHeaders block.compact = validateResponseHeaders block := rfl
  unfold applyHead at h ⊢
  rw [hsame]
  cases hvalid : validateResponseHeaders block with
  | error => simp [hvalid] at h
  | ok =>
  rw [hvalid] at h
  simp only [hunary, Bool.false_eq_true, if_false, Except.ok.injEq] at h
  refine ⟨?_, h.symm, rfl⟩
  cases hstatus : block.status with
  | none => simp [validateResponseHeaders, hstatus] at hvalid
  | some status => exact ⟨status, rfl⟩

theorem applyTrailers_compact {trailed : ActiveClientStream}
    (hunary : stream.grpcUnary = false) (h : applyTrailers stream true block = .ok trailed) :
    trailed = applyResponseTrailers stream block ∧
      ∀ other : ActiveClientStream, other.grpcUnary = true →
        applyTrailers other true block.compact = .ok (applyGrpcResponseTrailers other block) := by
  have hsame : validateTrailerBlock block.compact = validateTrailerBlock block := rfl
  simp only [applyTrailers, Bool.not_true, Bool.false_eq_true, if_false, hsame] at h ⊢
  cases hvalid : validateTrailerBlock block with
  | error => simp [hvalid] at h
  | ok =>
  simp only [hvalid, hunary, Bool.false_eq_true, if_false, Except.ok.injEq] at h
  refine ⟨h.symm, fun other hother => ?_⟩
  simp only [hother, if_true]
  rfl

theorem unaryStatus_of_compact (hunary : stream.grpcUnary = true)
    (hstatus : ∃ status, stream.responseStatus = some status)
    (hcode : stream.grpcStatus = trailers.code.or head.code)
    (hmessage : stream.grpcMessage = trailers.message.or head.message) :
    unaryStatus crates (completedOutcome stream) = compactStatus crates head trailers := by
  obtain ⟨_, hstatus⟩ := hstatus
  simp only [completedOutcome, hstatus, hunary, if_true, unaryStatus, hcode, hmessage]
  rfl

theorem unaryStatus_of_stored (hunary : stream.grpcUnary = false)
    (hstatus : ∃ status, stream.responseStatus = some status)
    (hhead : (⟨stream.responseHeaders.get grpcStatusName,
      stream.responseHeaders.get grpcMessageName⟩ : StatusFields) = head)
    (htrailers : (⟨stream.responseTrailers.get grpcStatusName,
      stream.responseTrailers.get grpcMessageName⟩ : StatusFields) = trailers) :
    unaryStatus crates (completedOutcome stream) =
      (blockStatus crates trailers).or (blockStatus crates head) := by
  obtain ⟨_, hstatus⟩ := hstatus
  simp only [completedOutcome, hstatus, hunary, Bool.false_eq_true, if_false, unaryStatus,
    grpcStatusFromHeaderMap_eq, hhead, htrailers]

/-- The facts of a later block go before those of an earlier one. -/
theorem ite_isSome_eq_or {α : Type} (later earlier : Option α) :
    (if later.isSome then later else earlier) = later.or earlier := by
  cases later <;> rfl

/-- When a response decodes into header maps, it decodes into compact facts as well, and the two
statuses are the same exactly when code and message stand together. The head and the trailers may
hold any fields, repeated and in any order, and the crates may decode them in any way. -/
theorem unary_status_agrees_iff (crates : Crates) (maxHeaderBytes id : Nat)
    (recvWindow sendWindow : Int) (waiter : Waiter) (body : OutboundBody)
    (head : List (Bytes × Bytes)) (trailers : Option (List (Bytes × Bytes)))
    {stored : ActiveClientStream}
    (hstored : readResponse crates maxHeaderBytes (.new id recvWindow sendWindow waiter body) head
      trailers = .ok stored) :
    ∃ compact, readResponse crates maxHeaderBytes
        { ActiveClientStream.new id recvWindow sendWindow waiter body with grpcUnary := true } head
        trailers = .ok compact ∧
      (unaryStatus crates (completedOutcome compact) =
          unaryStatus crates (completedOutcome stored) ↔
        StatusTogether crates (statusFields crates head)
          ((trailers.map (statusFields crates)).getD {})) := by
  obtain ⟨block, hblock, hrest⟩ := bind_eq_ok_iff.1 hstored
  obtain ⟨_, hhead, hrest⟩ := bind_eq_ok_iff.1 hrest
  obtain ⟨hcompact, hfields, hcode, hmessage⟩ := readFields_statusFields hblock
  obtain ⟨hstatus, rfl, happly⟩ := applyHead_compact rfl hhead
  rw [← compactStatus_eq_iff]
  cases trailers with
  | none =>
    cases hrest
    refine ⟨_, bind_eq_ok_iff.2 ⟨_, hcompact, bind_eq_ok_iff.2 ⟨_, happly, rfl⟩⟩,
      Eq.congr (unaryStatus_of_compact rfl hstatus ?_ ?_)
        (unaryStatus_of_stored rfl hstatus hfields rfl)⟩
    · rw [← hcode]
      exact (ite_isSome_eq_or _ _).trans or_none
    · rw [← hmessage]
      exact (ite_isSome_eq_or _ _).trans or_none
  | some =>
  obtain ⟨_, htrailer, happlied⟩ := bind_eq_ok_iff.1 hrest
  obtain ⟨htrailerCompact, htrailerFields, htrailerCode, htrailerMessage⟩ :=
    readFields_statusFields htrailer
  obtain ⟨rfl, happlyTrailers⟩ := applyTrailers_compact rfl happlied
  refine ⟨_, bind_eq_ok_iff.2 ⟨_, hcompact, bind_eq_ok_iff.2 ⟨_, happly,
    bind_eq_ok_iff.2 ⟨_, htrailerCompact, happlyTrailers _ rfl⟩⟩⟩,
    Eq.congr (unaryStatus_of_compact rfl hstatus ?_ ?_)
      (unaryStatus_of_stored rfl hstatus hfields htrailerFields)⟩
  · rw [map_some, getD_some, ← hcode, ← htrailerCode]
    refine (ite_isSome_eq_or _ _).trans ?_
    rw [show (applyGrpcResponseHead _ block).grpcStatus = block.grpcStatus from
      (ite_isSome_eq_or _ _).trans or_none]
  · rw [map_some, getD_some, ← hmessage, ← htrailerMessage]
    refine (ite_isSome_eq_or _ _).trans ?_
    rw [show (applyGrpcResponseHead _ block).grpcMessage = block.grpcMessage from
      (ite_isSome_eq_or _ _).trans or_none]

end

/-- A header list in ASCII. -/
def asciiFields (fields : List (String × String)) : List (Bytes × Bytes) :=
  fields.map fun field => (Tina.Http.ascii field.1, Tina.Http.ascii field.2)

def unaryStream : ActiveClientStream :=
  .new 1 65535 65535 0 (.owned [] 0)

/-- The status that a stream ends with, if its header lists are taken. -/
def finalStatus (stream : ActiveClientStream) (head trailers : List (String × String)) :
    Option GrpcStatus :=
  (readResponse asciiCrates 4096 stream (asciiFields head)
    (some (asciiFields trailers))).toOption.bind
    fun stream => unaryStatus asciiCrates (completedOutcome stream)

/-- A message in the head and a code in the trailers: the compact reading puts them together, the
other one does not. -/
theorem split_status_differs : finalStatus { unaryStream with grpcUnary := true }
        [(":status", "200"), ("grpc-message", "late")] [("grpc-status", "5")] =
      some ⟨.notFound, some "late".toList⟩ ∧
    finalStatus unaryStream [(":status", "200"), ("grpc-message", "late")] [("grpc-status", "5")] =
      some ⟨.notFound, none⟩ := by
  decide +kernel

theorem unary_status_agrees_in_trailers :
    ∃ stored compact, readResponse asciiCrates 4096 unaryStream (asciiFields [(":status", "200")])
        (some (asciiFields [("grpc-status", "5"), ("grpc-message", "not%20found")])) = .ok stored ∧
      readResponse asciiCrates 4096 { unaryStream with grpcUnary := true }
        (asciiFields [(":status", "200")])
        (some (asciiFields [("grpc-status", "5"), ("grpc-message", "not%20found")])) = .ok compact ∧
      unaryStatus asciiCrates (completedOutcome compact) =
        unaryStatus asciiCrates (completedOutcome stored) := by
  have hok : (readResponse asciiCrates 4096 unaryStream (asciiFields [(":status", "200")])
      (some (asciiFields [("grpc-status", "5"), ("grpc-message", "not%20found")]))).isOk =
        true := by
    decide +kernel
  cases hstored : readResponse asciiCrates 4096 unaryStream (asciiFields [(":status", "200")])
      (some (asciiFields [("grpc-status", "5"), ("grpc-message", "not%20found")])) with
  | error => simp [hstored, Except.isOk, Except.toBool] at hok
  | ok stored =>
    obtain ⟨compact, hcompact, hiff⟩ := unary_status_agrees_iff _ _ _ _ _ _ _ _ _ hstored
    exact ⟨stored, compact, rfl, hcompact, hiff.2 (by decide +kernel)⟩

end Tina.Http2.Client
