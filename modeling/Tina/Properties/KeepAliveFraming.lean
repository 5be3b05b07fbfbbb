import Tina.Http.Steps

/-!
Keep-alive framing: the requests that a connection dispatches are those of its stream, read message
by message, and no byte behind a message is lost, as long as no body is cut short.
-/

namespace Tina.Http

open List Move Lib RawProgress

variable {crates : Crates} {limits : HttpLimits} {link : Link}

/-- The connection reads for a request, or waits for the byte that its monitor has asked for. -/
def Link.awaitsRequest (link : Link) : Bool :=
  !link.stopped && (link.reading.any (·.1 = .head) || link.conn.waitingForMonitorAfterResponse)

open Link

/-- Where a request is awaited, every byte belongs to a message that was dispatched or is kept for
the next one. -/
theorem Framed.accounts (h : Framed crates limits link) (hawaits : link.awaitsRequest = true) :
    ∃ parsed, crates.Messages limits parsed link.dispatched ∧
      link.received = parsed ++ (link.conn.readBuf ++ link.inTransit) := by
  simp only [awaitsRequest, Bool.and_eq_true, Bool.not_eq_true', Bool.or_eq_true] at hawaits
  obtain ⟨hstopped, hawaits⟩ := hawaits
  -- a lane that serves nobody else's head
  have hlane : ∀ {reader bound}, reader ≠ .head → link.LaneFree ∨ link.Lane reader bound →
      link.reading.any (·.1 = .head) = false := by
    rintro reader bound hreader (hfree | ⟨want, hreading, -⟩ | ⟨reply, hreading, -⟩)
    · simp [hfree.1]
    · simp [hreading, hreader]
    · simp [hreading]
  cases h with
  | reading h => exact ⟨_, h.messages, h.received⟩
  | waiting h => exact ⟨_, h.messages, by simpa [h.readBuf] using h.received⟩
  | inFlight h =>
    cases h with
    | buffered _ h | sized _ _ _ _ h | decoding _ _ _ _ _ _ h =>
      simp [h.waiting, hlane (by simp) (h.lane.imp_right And.right)] at hawaits
    | broken _ _ _ _ _ _ h =>
      simp [h.waiting, h.lane.1] at hawaits
  | ended _ h =>
    rcases hawaits with hreading | hwaiting
    · obtain ⟨⟨reader, want⟩, hsome, hhead⟩ := Option.any_eq_true _ _ |>.1 hreading
      simp only [decide_eq_true_eq] at hhead
      exact absurd (hhead ▸ hsome) (h.reading want)
    · simp [h.waiting] at hwaiting
  | stopped _ h => simp [hstopped] at h

/-- In every run whose moves are all clean, what was dispatched is a beginning of what the stream
holds, and where a request is awaited no byte is missing. The peer may send any bytes in any pieces,
and reads, writes and the service may answer in any order; a move is clean unless it cuts a body
short or drops what was read behind one. -/
theorem dispatched_of_clean_moves {transport : HttpTransport} {delivery : ServiceDelivery}
    {metrics monitors : Bool}
    (hrun : LinkRun crates (fun link charged => charged.2.Clean crates link)
      (.withDeliveryAndMetrics transport delivery limits metrics monitors) link) :
    link.dispatched <+: crates.requests limits link.received ∧
      (link.awaitsRequest = true → ∃ parsed, crates.Messages limits parsed link.dispatched ∧
        link.received = parsed ++ (link.conn.readBuf ++ link.inTransit)) := by
  have hframed : Framed crates limits link :=
    Run.invariant (I := Framed crates limits)
      (Framed.start rfl ⟨rfl, rfl, rfl, rfl, rfl⟩ ⟨rfl, rfl, rfl, rfl, rfl, rfl⟩)
      (fun _ _ _ h hclean hstep => h.step hclean hstep) hrun
  exact ⟨hframed.dispatched_prefix, hframed.accounts⟩

/-- Where a head ends, behind its empty line. -/
def headEnd : Bytes → Option Nat
  | [] => none
  | byte :: rest =>
    if (byte :: rest).take 4 = ascii "\r\n\r\n" then some 4 else (headEnd rest).map (· + 1)

theorem headEnd_append {bytes : Bytes} {n : Nat} (more : Bytes) (hend : headEnd bytes = some n) :
    4 ≤ n ∧ n ≤ bytes.length ∧ headEnd (bytes ++ more) = some n ∧
      headEnd (bytes.take n) = some n := by
  induction bytes generalizing n with
  | nil => cases hend
  | cons byte rest ih =>
  have hfour : (ascii "\r\n\r\n").length = 4 := rfl
  rw [headEnd] at hend
  split at hend
  · rename_i htake
    cases hend
    have hlength : 4 ≤ (byte :: rest).length := by
      have hlen := congrArg length htake
      rw [length_take, hfour] at hlen
      omega
    refine ⟨le_rfl, hlength, ?_, ?_⟩
    · rw [cons_append, headEnd, if_pos]
      rw [← cons_append, take_append_of_le_length hlength, htake]
    · rw [take_succ_cons, headEnd, if_pos]
      rw [← take_succ_cons, take_take, min_self, htake]
  rename_i htake
  obtain ⟨_, hm, rfl⟩ := Option.map_eq_some_iff.1 hend
  obtain ⟨_, _, happend, hhead⟩ := ih hm
  have hlength : 4 ≤ (byte :: rest).length := by
    rw [length_cons]
    omega
  refine ⟨by omega, by rw [length_cons]; omega, ?_, ?_⟩
  · rw [cons_append, headEnd, if_neg, happend]
    · rfl
    · rwa [← cons_append, take_append_of_le_length hlength]
  · rw [take_succ_cons, headEnd, if_neg, hhead]
    · rfl
    · rwa [← take_succ_cons, take_take, min_eq_left (by omega)]

/-- A head with one blank between the parts of its first line and behind each colon. -/
def plainHead (head : Bytes) : RawRequest :=
  let lines := (head.splitOn 10).map fun line => line.filter (· ≠ 13)
  let parts := (lines.headD []).splitOn 32
  { method := parts[0]?
    path := parts[1]?
    version := if parts[2]? = some (ascii "HTTP/1.1") then some 1 else none
    headers := (lines.tail.filter (· ≠ [])).map fun line =>
      (line.takeWhile (· ≠ 58), (line.dropWhile (· ≠ 58)).drop 2) }

theorem headEnd_of_complete {buffer : Bytes} {request : RawRequest} {headLen : Nat}
    (hparse : (match headEnd buffer with
      | none => .incomplete
      | some headLen => .complete (plainHead (buffer.take headLen)) headLen) =
        complete request headLen) :
    headEnd buffer = some headLen ∧ plainHead (buffer.take headLen) = request := by
  split at hparse
  · cases hparse
  rename_i hend
  obtain ⟨hrequest, rfl⟩ := complete.inj hparse
  exact ⟨hend, hrequest⟩

/-- A plain parser in the place of the crates, with the reason phrases of the statuses the server
answers with on its own. -/
def plainCrates : Crates where
  parseRequest _ buffer :=
    match headEnd buffer with
    | none => .incomplete
    | some headLen => .complete (plainHead (buffer.take headLen)) headLen
  methodFromBytes := some
  headerNameFromBytes := some
  headerValueFromBytes := some
  fromUtf8 bytes := some (bytes.map (Char.ofNat ·.toNat))
  canonicalReason
    | 200 => some (ascii "OK")
    | 202 => some (ascii "Accepted")
    | 400 => some (ascii "Bad Request")
    | 408 => some (ascii "Request Timeout")
    | 413 => some (ascii "Payload Too Large")
    | 429 => some (ascii "Too Many Requests")
    | 431 => some (ascii "Request Header Fields Too Large")
    | 500 => some (ascii "Internal Server Error")
    | 501 => some (ascii "Not Implemented")
    | 503 => some (ascii "Service Unavailable")
    | 504 => some (ascii "Gateway Timeout")
    | 505 => some (ascii "HTTP Version Not Supported")
    | _ => none
  headLen_pos hparse :=
    Nat.lt_of_lt_of_le (by decide) (headEnd_append [] (headEnd_of_complete hparse).1).1
  headLen_le hparse := (headEnd_append [] (headEnd_of_complete hparse).1).2.1
  parseRequest_append more hparse := by
    obtain ⟨hend, rfl⟩ := headEnd_of_complete hparse
    obtain ⟨-, hle, happend, -⟩ := headEnd_append more hend
    simp only [happend, List.take_append_of_le_length hle]
  parseRequest_take hparse := by
    obtain ⟨hend, rfl⟩ := headEnd_of_complete hparse
    obtain ⟨-, -, -, htake⟩ := headEnd_append [] hend
    simp only [htake, List.take_take, min_self]

/-- Limits under which bodies are streamed and connections stay open. -/
def streamingLimits : HttpLimits where
  maxHeaderBytes := 8192
  maxBodyBytes := 8192
  maxHeaders := 16
  headerReadTimeout := 1000
  inboundStreamChunkSize := some 1024
  keepaliveIdleTimeout := some 1000

def streamingConnection : HttpConnection :=
  .withDeliveryAndMetrics .tcp .call streamingLimits false false

/-- Moves under which the shared counters admit every charge. -/
def admitted (moves : List Move) : List (Charges × Move) :=
  moves.map fun move => (⟨true, true⟩, move)

/-- A service that replies before it has pulled the body: the body is read as the next request. And
a body that came with the beginning of the next request: that beginning is dropped. -/
theorem bodies_cut_short : (∃ link, LinkRun plainCrates (fun _ _ => True) streamingConnection link ∧
      decide (link.dispatched <+: plainCrates.requests streamingLimits link.received) = false) ∧
    ∃ link, LinkRun plainCrates (fun _ _ => True) streamingConnection link ∧
      (link.awaitsRequest && link.conn.readBuf = [] && link.arrived = [] &&
        link.dispatched.length = 1 &&
        (plainCrates.requests streamingLimits link.received).length = 2) = true := by
  constructor
  · obtain ⟨link, hrun, hlink⟩ := exists_run (step plainCrates) (fun _ _ => True)
      (start streamingConnection)
      (admitted [.bytesArrive (ascii "POST / HTTP/1.1\r\ncontent-length: 19\r\n\r\n"),
        .readHandled 0, .serviceReturns (.replied (.withStatus 200)), .wrote 38,
        .bytesArrive (ascii "GET /x HTTP/1.1\r\n\r\n"), .readHandled 0])
      (fun link =>
        !decide (link.dispatched <+: plainCrates.requests streamingLimits link.received))
      (by decide +kernel)
    exact ⟨link, hrun, by simpa using hlink⟩
  · exact exists_run (step plainCrates) (fun _ _ => True) (start streamingConnection)
      (admitted [.bytesArrive (ascii
          "POST / HTTP/1.1\r\ncontent-length: 1\r\n\r\nXGET /b HTTP/1.1\r\n\r\n"), .readHandled 0,
        .serviceReturns (.replied (.withStatus 200)), .wrote 38])
      (fun link => link.awaitsRequest && link.conn.readBuf = [] && link.arrived = [] &&
        link.dispatched.length = 1 &&
        (plainCrates.requests streamingLimits link.received).length = 2)
      (by decide +kernel)

instance (crates : Crates) (conn : HttpConnection) : Decidable (conn.EndsClean crates) :=
  inferInstanceAs (Decidable (_ ∧ _))

instance (crates : Crates) (link : Link) (move : Move) : Decidable (move.Clean crates link) :=
  match move with
  | .readHandled index =>
    match h : link.arrived[index]? with
    | some (.head, .ok bytes) =>
      decidable_of_iff (link.conn.parsedHead = none →
        FitsBody crates link.conn.limits (link.conn.readBuf ++ bytes)) (by simp [Clean, h])
    | some (.monitor, .ok bytes) =>
      decidable_of_iff (link.conn.waitingForMonitorAfterResponse = true →
        FitsBody crates link.conn.limits (link.conn.serviceReadAhead ++ bytes))
        (by simp [Clean, h])
    | some (.head, .error _) => .isTrue (by simp [Clean, h])
    | some (.monitor, .error _) => .isTrue (by simp [Clean, h])
    | some (.body, _) => .isTrue (by simp [Clean, h])
    | none => .isTrue (by simp [Clean, h])
  | .wrote written => inferInstanceAs (Decidable (∀ bytes ∈ link.writing,
      link.conn.endsAfterWrite bytes written = true → link.conn.EndsClean crates))
  | .chunkReturns outcome => inferInstanceAs (Decidable
      (link.conn.endsAfterChunk outcome = true → link.conn.EndsClean crates))
  | .bodyNextSent => inferInstanceAs (Decidable (_ ∧ _))
  | .bytesArrive _ | .readEnds | .readFails _ | .monitorSpawns _ | .monitorReads | .spawnHandled
  | .headerDeadline _ | .serviceReturns _ | .eventAdmitted _ | .writeFails _ | .wroteClose _ _
  | .writeCloseFails _ | .bodyNextCalled | .closed => .isTrue trivial

/-- Two requests in one segment, the first with a streamed body that the service pulls: both are
dispatched. -/
theorem dispatched_of_clean_pipeline :
    ∃ link, LinkRun plainCrates (fun link charged => charged.2.Clean plainCrates link)
        streamingConnection link ∧
      (link.awaitsRequest && link.dispatched.length = 2) = true ∧
      (link.dispatched <+: plainCrates.requests streamingLimits link.received ∧
        (link.awaitsRequest = true →
          ∃ parsed, plainCrates.Messages streamingLimits parsed link.dispatched ∧
            link.received = parsed ++ (link.conn.readBuf ++ link.inTransit))) := by
  obtain ⟨link, hrun, hlink⟩ := exists_run (step plainCrates)
    (fun link charged => charged.2.Clean plainCrates link) (start streamingConnection)
    (admitted [.bytesArrive
      (ascii "GET /a HTTP/1.1\r\n\r\nPOST /b HTTP/1.1\r\ncontent-length: 2\r\n\r\n"),
      .readHandled 0, .serviceReturns (.replied (.withStatus 200)), .wrote 38,
      .bodyNextCalled, .bytesArrive (ascii "ab"), .readHandled 0,
      .serviceReturns (.replied (.withStatus 200)), .wrote 38])
    (fun link => link.awaitsRequest && link.dispatched.length = 2) (by decide +kernel)
  exact ⟨link, hrun, hlink, dispatched_of_clean_moves hrun⟩

end Tina.Http
