import Tina.Lib.Framing
import Tina.Lib.ListUpdate
import Tina.Rpc.Connection

/-!
What an open connection has routed, refused and answered, against its own counters and queue.
-/

namespace Tina.Rpc.Connection

open Lib List Option Effect

variable {A : Type}

/-- A call to the router, as its outcome names it. -/
structure Call where
  requestId : UInt64
  service : String
  method : String
deriving DecidableEq

def isRequest (frame : Frame) : Bool :=
  frame.kind = .request

namespace Effect

/-- The request that an effect routes or refuses. -/
def verdict? : Effect A → Option RouterRequest
  | .route _ request _ | .refused request _ => some request
  | _ => none

def routed? : Effect A → Option Call
  | .route _ request _ => some ⟨request.requestId, request.service, request.method⟩
  | _ => none

def resolved? : Effect A → Option Call
  | .resolved requestId service method _ _ => some ⟨requestId, service, method⟩
  | _ => none

/-- The frame that was put into the write queue. -/
def outgoing? : Effect A → Option Frame
  | .refused _ reply => some reply
  | .resolved _ _ _ _ reply => reply
  | _ => none

/-- An effect that is about the stream and not about a request. -/
def isPlain : Effect A → Bool
  | .route .. | .refused .. | .resolved .. => false
  | .read .. | .write .. | .closeStream _ | .idleArm .. | .send .. | .stop => true

/-- The ids in flight after an effect. -/
def track (ids : Finset UInt64) : Effect A → Finset UInt64
  | .route _ request _ => insert request.requestId ids
  | .resolved requestId _ _ _ _ => ids.erase requestId
  | _ => ids

end Effect

/-- The ids that have been routed and not resolved. -/
def inFlightAfter (history : List (Effect A)) : Finset UInt64 :=
  history.foldl Effect.track ∅

def fits (limits : FrameLimits) (frame : Frame) : Bool :=
  (encode frame limits).isOk

/-- The bytes of a frame that fits. -/
def wire (limits : FrameLimits) (frame : Frame) : List UInt8 :=
  match encode frame limits with
  | .ok bytes => bytes
  | .error _ => []

/-- The frame that answers a routed request: the one for the outcome, or an internal error if that
does not fit. -/
def answerTo (limits : FrameLimits) (requestId : UInt64) (service method : String)
    (outcome : CallOutcome RouterReply) : Option Frame :=
  (frameToSend requestId service method outcome).map fun frame =>
    if fits limits frame then frame else .ofError requestId service method .internal []

/-- Why an effect is right when these ids are in flight. -/
def Justified (config : ConnectionConfig) (ids : Finset UInt64) : Effect A → Prop
  | .route _ request _ => request.requestId ∉ ids ∧ ids.card < config.maxInFlight
  | .refused request reply =>
    fits ⟨config.maxFrameSize⟩ reply = true ∧ (request.requestId ∈ ids ∧
          reply = .ofError request.requestId request.service request.method .protocol
            duplicateText ∨
        request.requestId ∉ ids ∧ config.maxInFlight ≤ ids.card ∧
          reply = .ofError request.requestId request.service request.method .full [])
  | .resolved requestId service method outcome reply =>
    requestId ∈ ids ∧ reply = answerTo ⟨config.maxFrameSize⟩ requestId service method outcome ∧
      ∀ frame, reply = some frame → fits ⟨config.maxFrameSize⟩ frame = true
  | _ => True

/-- Everything that was done was right at its time. -/
def Lawful (config : ConnectionConfig) (history : List (Effect A)) : Prop :=
  ∀ before effect after, history = before ++ effect :: after →
    Justified config (inFlightAfter before) effect

/-- The counters and the queue of an open connection against what it has done. -/
structure Books (conn : Connection A) (history : List (Effect A)) (frames : List Frame)
    (calls : List Call) (written : List UInt8) : Prop where
  verdicts : history.filterMap Effect.verdict? = frames.map requestOf
  ids : conn.inFlightIds = inFlightAfter history
  pending : conn.inFlightIds = (calls.map Call.requestId).toFinset
  distinct : (calls.map Call.requestId).Nodup
  count : conn.inFlight = conn.inFlightIds.card
  bound : conn.inFlight ≤ conn.config.maxInFlight
  lawful : Lawful conn.config history
  once : (history.filterMap Effect.routed?).Perm (history.filterMap Effect.resolved? ++ calls)
  bytes : (history.filterMap Effect.outgoing?).flatMap (wire conn.frameLimits) =
    written ++ conn.writeInFlight.getD [] ++ conn.writeQueue.flatten

variable {frame : Frame} {effect : Effect A} {history : List (Effect A)} {payload : List UInt8}
  {code : FrameError} {outcome : CallOutcome RouterReply} {service method : String}
  {requestId : UInt64}

section

variable {config : ConnectionConfig} {conn : Connection A} {bytes : List UInt8}

theorem inFlightAfter_concat (history : List (Effect A)) (effect : Effect A) :
    inFlightAfter (history ++ [effect]) = effect.track (inFlightAfter history) :=
  foldl_concat _ _ _ _

theorem Lawful.concat (h : Lawful config history)
    (heffect : Justified config (inFlightAfter history) effect) :
    Lawful config (history ++ [effect]) := by
  intro before other after hsplit
  rcases eq_nil_or_concat after with rfl | ⟨after, _, rfl⟩
  · obtain ⟨rfl, hlast⟩ := append_inj' hsplit rfl
    cases hlast
    exact heffect
  · rw [concat_eq_append, ← cons_append, ← append_assoc] at hsplit
    exact h before other after (append_inj' hsplit rfl).1

theorem encodeFrame_eq : conn.encodeFrame frame =
    if fits conn.frameLimits frame then some (wire conn.frameLimits frame) else none := by
  unfold encodeFrame fits wire
  cases encode frame conn.frameLimits <;> rfl

theorem refuseRequest_eq {conn' : Connection A}
    (h : conn.refuseRequest frame code payload = .ok (conn', effect)) :
    ∃ reply, reply = Frame.ofError frame.requestId frame.service frame.method code payload ∧
      fits conn.frameLimits reply = true ∧ effect = .refused (requestOf frame) reply ∧
      conn' = { conn with writeQueue := conn.writeQueue ++ [wire conn.frameLimits reply] } := by
  refine ⟨_, rfl, ?_⟩
  unfold refuseRequest enqueueWrite at h
  dsimp only at h
  rw [encodeFrame_eq] at h
  split at h
  · cases h
  next hencode =>
  obtain ⟨hfits, hbytes⟩ := ite_none_right_eq_some.1 hencode
  cases hbytes
  split at h
  · cases h
  next henqueue =>
  split at henqueue
  · cases henqueue
  cases henqueue
  cases h
  exact ⟨hfits, rfl, rfl⟩

/-- The frame that is sent is the one that answers. -/
theorem fittingFrame_eq_some {reply : Frame} (h : conn.fittingFrame frame = some (reply, bytes)) :
    (reply = if fits conn.frameLimits frame then frame else
        .ofError frame.requestId frame.service frame.method .internal []) ∧
      fits conn.frameLimits reply = true ∧ wire conn.frameLimits reply = bytes := by
  unfold fittingFrame encodeInternalError at h
  rw [encodeFrame_eq, encodeFrame_eq] at h
  by_cases hfits : fits conn.frameLimits frame = true
  · rw [if_pos hfits] at h
    cases h
    exact ⟨(if_pos hfits).symm, hfits, rfl⟩
  rw [if_neg hfits] at h
  obtain ⟨_, hinternal, hpair⟩ := map_eq_some_iff.1 h
  cases hpair
  obtain ⟨hsmall, hwire⟩ := ite_none_right_eq_some.1 hinternal
  exact ⟨(if_neg hfits).symm, hsmall, some.inj hwire⟩

/-- The frame for an outcome is about the request. -/
theorem frameToSend_names (h : frameToSend requestId service method outcome = some frame) :
    frame.requestId = requestId ∧ frame.service = service ∧ frame.method = method ∧
      (frame.kind = .reply ∨ frame.kind = .error) := by
  unfold frameToSend at h
  split at h <;> cases h
  · exact ⟨rfl, rfl, rfl, .inl rfl⟩
  all_goals exact ⟨rfl, rfl, rfl, .inr rfl⟩

end

section

variable {limits : FrameLimits} {accepts : Frame → Bool} {sent : List Frame}

/-- A frame that a peer can send. -/
structure WellFormed (limits : FrameLimits) (accepts : Frame → Bool) (frame : Frame) : Prop where
  version : frame.version = FRAME_VERSION_V1
  accepted : accepts frame = true
  fit : fits limits frame = true

theorem WellFormed.cut (h : WellFormed limits accepts frame) (more : List UInt8) :
    cutFrame limits (wire limits frame ++ more) = .whole (.ok frame) more := by
  have hfit := h.fit
  unfold fits at hfit
  unfold wire
  cases hencode : encode frame limits with
  | error =>
    rw [hencode] at hfit
    cases hfit
  | ok => exact cutFrame_encode h.version hencode more

/-- The beginning of a frame is not a frame. -/
theorem WellFormed.short (h : WellFormed limits accepts frame) {torn rest : List UInt8}
    (htorn : wire limits frame = torn ++ rest) (hrest : rest ≠ []) :
    cutFrame limits torn = .short := by
  have hwhole := h.cut []
  rw [append_nil, htorn] at hwhole
  cases hcut : cutFrame limits torn with
  | short => rfl
  | badLength =>
    rw [cutFrame_append_of_badLength hcut rest] at hwhole
    cases hwhole
  | whole =>
    rw [cutFrame_append_of_whole hcut rest, Cut.whole.injEq] at hwhole
    exact absurd (append_eq_nil_iff.1 hwhole.2).2 hrest

variable (h : ∀ frame ∈ sent, WellFormed limits accepts frame)

include h

end

namespace Books

variable {conn conn' : Connection A} {frames : List Frame} {calls : List Call}
  {written : List UInt8} (h : Books conn history frames calls written)

include h

/-- An effect on the stream. -/
theorem plain (hplain : effect.isPlain = true) :
    Books conn (history ++ [effect]) frames calls written := by
  obtain ⟨hverdict, hrouted, hresolved, houtgoing, htrack⟩ :
      effect.verdict? = none ∧ effect.routed? = none ∧ effect.resolved? = none ∧
        effect.outgoing? = none ∧ ∀ ids, effect.track ids = ids := by
    cases effect <;> first | exact ⟨rfl, rfl, rfl, rfl, fun _ => rfl⟩ | cases hplain
  have hjustified : Justified conn.config (inFlightAfter history) effect := by
    cases effect <;> trivial
  exact
    { h with
      verdicts := by simpa [filterMap_concat, hverdict] using h.verdicts
      ids := by rw [inFlightAfter_concat, htrack, h.ids]
      lawful := h.lawful.concat hjustified
      once := by simpa [filterMap_concat, hrouted, hresolved] using h.once
      bytes := by simpa [filterMap_concat, houtgoing] using h.bytes }

theorem plainAll {effects : List (Effect A)} (hplain : ∀ effect ∈ effects, effect.isPlain = true) :
    Books conn (history ++ effects) frames calls written := by
  induction effects generalizing history with
  | nil => rwa [append_nil]
  | cons effect _ ih =>
  rw [append_cons]
  exact ih (h.plain (hplain effect mem_cons_self)) fun other hmem =>
    hplain other (mem_cons_of_mem _ hmem)

theorem startWrite : Books conn.maybeStartWrite.1 history frames calls written := by
  unfold maybeStartWrite
  split
  · exact h
  next hidle =>
  rw [not_isSome_iff_eq_none] at hidle
  split
  · exact h
  next bytes _ hqueue =>
  have hbytes := h.bytes
  rw [hidle, hqueue, getD_none, flatten_cons, append_nil, ← append_assoc] at hbytes
  exact { h with bytes := hbytes }

/-- A request is routed. -/
theorem route (hfree : frame.requestId ∉ conn.inFlightIds)
    (hroom : conn.inFlight < conn.config.maxInFlight) :
    Books (conn.routeRequest frame).1 (history ++ [(conn.routeRequest frame).2]) (frames ++ [frame])
      (calls ++ [⟨frame.requestId, frame.service, frame.method⟩]) written where
  verdicts := by
    rw [filterMap_concat, h.verdicts, map_append]
    rfl
  ids := by rw [inFlightAfter_concat, ← h.ids]; rfl
  pending := by
    rw [map_append, toFinset_append, ← h.pending, Finset.union_comm]
    rfl
  distinct := by
    rw [map_append, nodup_append']
    refine ⟨h.distinct, nodup_singleton _, ?_⟩
    rw [h.pending, List.mem_toFinset] at hfree
    simpa using hfree
  count := by
    have hcard := Finset.card_insert_of_notMem hfree
    have hcount := h.count
    show conn.inFlight + 1 = (insert frame.requestId conn.inFlightIds).card
    omega
  bound := hroom
  lawful := h.lawful.concat (by
    rw [← h.ids]
    exact ⟨hfree, h.count ▸ hroom⟩)
  once := by
    have hresolved : (conn.routeRequest frame).2.resolved? = none := rfl
    rw [filterMap_concat, filterMap_concat, hresolved, toList_none, append_nil, ← append_assoc]
    exact h.once.append_right _
  bytes := by
    rw [filterMap_concat, flatMap_append]
    exact (append_nil _).trans h.bytes

/-- A frame goes into the queue. -/
theorem refuse (hrefused : conn.refuseRequest frame code payload = .ok (conn', effect))
    (hreason : ∀ reply, reply = Frame.ofError frame.requestId frame.service frame.method code
      payload → fits conn.frameLimits reply = true →
      Justified conn.config conn.inFlightIds (.refused (requestOf frame) reply : Effect A)) :
    Books conn' (history ++ [effect]) (frames ++ [frame]) (calls ++ effect.routed?.toList)
      written := by
  obtain ⟨reply, hreply, hfits, rfl, rfl⟩ := refuseRequest_eq hrefused
  have hnone : calls ++ toList (routed? (A := A) (.refused (requestOf frame) reply)) = calls :=
    append_nil calls
  rw [hnone]
  refine ⟨?_, ?_, h.pending, h.distinct, h.count, h.bound, ?_, ?_, ?_⟩
  · rw [filterMap_concat, h.verdicts, map_append]
    rfl
  · rw [inFlightAfter_concat, ← h.ids]
    rfl
  · exact h.lawful.concat (h.ids ▸ hreason reply hreply hfits)
  · rw [filterMap_concat, filterMap_concat]
    simpa [routed?, resolved?] using h.once
  · rw [filterMap_concat, flatMap_append, flatten_append, ← append_assoc]
    exact congrArg₂ (· ++ ·) h.bytes rfl

/-- Every frame that leaves the connection open is routed, or refused for a reason. -/
theorem takeFrame (htake : conn.takeFrame frame = .ok (conn', effect)) : isRequest frame = true ∧
      Books conn' (history ++ [effect]) (frames ++ [frame]) (calls ++ effect.routed?.toList)
        written := by
  unfold Connection.takeFrame at htake
  split at htake
  · next hkind =>
    refine ⟨decide_eq_true hkind, ?_⟩
    split at htake
    · next hbusy =>
      refine h.refuse htake fun reply hreply hfits => ?_
      exact ⟨hfits, .inl ⟨hbusy, hreply⟩⟩
    next hfree =>
    split at htake
    · next hfull =>
      refine h.refuse htake fun reply hreply hfits => ?_
      exact ⟨hfits, .inr ⟨hfree, h.count ▸ hfull, hreply⟩⟩
    · next hroom =>
      cases htake
      exact h.route hfree (Nat.lt_of_not_le hroom)
  · cases htake
  · cases htake

/-- A routed request is resolved. Its answer goes into the queue. -/
theorem resolve (hcall : ⟨requestId, service, method⟩ ∈ calls) {reply : Option Frame}
    (hreply : reply = answerTo conn.frameLimits requestId service method outcome)
    (hfits : ∀ frame, reply = some frame → fits conn.frameLimits frame = true)
    (hids : conn'.inFlightIds = conn.inFlightIds.erase requestId)
    (hcount : conn'.inFlight = conn.inFlight - 1) (hconfig : conn'.config = conn.config)
    (hinFlight : conn'.writeInFlight = conn.writeInFlight)
    (hqueue : conn'.writeQueue = conn.writeQueue ++ reply.toList.map (wire conn.frameLimits)) :
    Books conn' (history ++ [.resolved requestId service method outcome reply]) frames
      (calls.erase ⟨requestId, service, method⟩) written := by
  have hperm := perm_cons_erase hcall
  have hidsPerm := hperm.map Call.requestId
  rw [map_cons] at hidsPerm
  obtain ⟨_, hdistinct⟩ := nodup_cons.1 (hidsPerm.nodup_iff.1 h.distinct)
  have hrest : conn.inFlightIds.erase requestId =
      ((calls.erase ⟨requestId, service, method⟩).map Call.requestId).toFinset := by
    rw [h.pending, toFinset_eq_of_perm _ _ hidsPerm, toFinset_cons]
    exact Finset.erase_insert (by rwa [List.mem_toFinset])
  have hmem : requestId ∈ conn.inFlightIds := by
    rw [h.pending, List.mem_toFinset]
    exact mem_map_of_mem hcall
  have hcard := Finset.card_erase_of_mem hmem
  have hlimits : conn'.frameLimits = conn.frameLimits := by
    rw [frameLimits, hconfig]
    rfl
  refine ⟨?_, ?_, hids.trans hrest, hdistinct, ?_, ?_, ?_, ?_, ?_⟩
  · rw [filterMap_concat, h.verdicts]
    exact append_nil _
  · rw [inFlightAfter_concat, ← h.ids, hids]
    rfl
  · rw [hcount, hids, hcard, h.count]
  · have := h.bound
    rw [hcount, hconfig]
    omega
  · rw [hconfig]
    exact h.lawful.concat (h.ids ▸ ⟨hmem, hreply, hfits⟩)
  · rw [filterMap_concat, filterMap_concat, append_assoc]
    exact (append_nil _).symm ▸ h.once.trans (hperm.append_left _)
  · rw [filterMap_concat, flatMap_append, hlimits, hinFlight, hqueue, flatten_append,
      ← append_assoc, h.bytes, append_cancel_left_eq]
    exact flatMap_def

end Books

section

variable {conn conn' conn'' : Connection A}

/-- What taking frames off the buffer leaves alone. -/
structure Steady (conn conn' : Connection A) : Prop where
  config : conn'.config = conn.config
  writeInFlight : conn'.writeInFlight = conn.writeInFlight
  closing : conn'.closing = conn.closing
  closeDispatched : conn'.closeDispatched = conn.closeDispatched

theorem Steady.trans (h : Steady conn conn') (h' : Steady conn' conn'') : Steady conn conn'' :=
  ⟨h'.config.trans h.config, h'.writeInFlight.trans h.writeInFlight, h'.closing.trans h.closing,
    h'.closeDispatched.trans h.closeDispatched⟩

theorem refuseRequest_steady (h : conn.refuseRequest frame code payload = .ok (conn', effect)) :
    Steady conn conn' ∧ conn'.inbound = conn.inbound ∧ effect.isPlain = false := by
  obtain ⟨_, -, -, rfl, rfl⟩ := refuseRequest_eq h
  exact ⟨⟨rfl, rfl, rfl, rfl⟩, rfl, rfl⟩

theorem takeFrame_steady (h : conn.takeFrame frame = .ok (conn', effect)) :
    Steady conn conn' ∧ conn'.inbound = conn.inbound ∧ effect.isPlain = false := by
  unfold takeFrame at h
  split at h
  · split at h
    · exact refuseRequest_steady h
    split at h
    · exact refuseRequest_steady h
    · cases h
      exact ⟨⟨rfl, rfl, rfl, rfl⟩, rfl, rfl⟩
  · cases h
  · cases h

/-- Taking frames off the buffer does not close. -/
theorem drainInbound_steady (conn : Connection A) (fuel : Nat) (emitted : List (Effect A)) :
    Steady conn (conn.drainInbound fuel emitted).1 := by
  induction fuel generalizing conn emitted with
  | zero => exact ⟨rfl, rfl, rfl, rfl⟩
  | succ _ ih =>
  rw [drainInbound]
  split
  · exact ⟨rfl, rfl, rfl, rfl⟩
  · exact ⟨rfl, rfl, rfl, rfl⟩
  dsimp only
  split
  · exact ⟨rfl, rfl, rfl, rfl⟩
  split
  · exact ⟨rfl, rfl, rfl, rfl⟩
  next conn₁ effect htake =>
  obtain ⟨hsteady, -, -⟩ := takeFrame_steady htake
  exact Steady.trans { hsteady with } (ih conn₁ (emitted ++ [effect]))

/-- A loop that ends well has taken every whole frame off the buffer. -/
theorem drainInbound_books {emitted effects : List (Effect A)} {frames : List Frame}
    {calls : List Call} {written : List UInt8} {fuel : Nat} (hfuel : conn.inbound.length < fuel)
    (h : Books conn (history ++ emitted) frames calls written)
    (hdrain : conn.drainInbound fuel emitted = (conn', .ok effects)) :
    ∃ more new, split conn.frameLimits isRequest conn.inbound = (more, some conn'.inbound) ∧
      effects = emitted ++ new ∧
      Books conn' (history ++ effects) (frames ++ more) (calls ++ new.filterMap routed?) written ∧
      Steady conn conn' ∧ ∀ effect ∈ new, effect.isPlain = false := by
  induction fuel generalizing conn emitted frames calls with
  | zero => omega
  | succ fuel ih =>
  rw [drainInbound] at hdrain
  cases hcut : cutFrame conn.frameLimits conn.inbound with
  | short =>
    rw [hcut] at hdrain
    cases hdrain
    refine ⟨[], [], split_of_short hcut, (append_nil _).symm, ?_, ⟨rfl, rfl, rfl, rfl⟩, nofun⟩
    simpa using h
  | badLength =>
    rw [hcut] at hdrain
    cases hdrain
  | whole result rest =>
  rw [hcut] at hdrain
  cases result with
  | error => cases hdrain
  | ok frame =>
  dsimp only at hdrain
  have hlength := length_of_cutFrame_whole hcut
  split at hdrain
  · cases hdrain
  next conn₁ effect htake =>
  have hcongr : Books { conn with inbound := rest } (history ++ emitted) frames calls written :=
    { h with }
  obtain ⟨hrequest, hbooks⟩ := hcongr.takeFrame htake
  obtain ⟨hsteady, hinbound, hnote⟩ := takeFrame_steady htake
  rw [append_assoc] at hbooks
  have hfuel₁ : conn₁.inbound.length < fuel := by
    rw [hinbound]
    dsimp only
    omega
  obtain ⟨more, new, hsplit, rfl, hend, hsteady', hnotes⟩ := ih hfuel₁ hbooks hdrain
  have hlimits : conn₁.frameLimits = conn.frameLimits := by
    rw [frameLimits, hsteady.config]
    rfl
  rw [hlimits, hinbound] at hsplit
  refine ⟨frame :: more, effect :: new, ?_, ?_, ?_, ?_, ?_⟩
  · rw [split_of_whole hcut hrequest, hsplit]
  · rw [append_assoc]
    rfl
  · rw [filterMap_cons_toList, ← append_assoc calls, append_cons frames]
    exact hend
  · exact Steady.trans { hsteady with } hsteady'
  · exact forall_mem_cons.2 ⟨hnote, hnotes⟩

end

end Tina.Rpc.Connection
