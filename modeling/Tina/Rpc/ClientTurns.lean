import Tina.Lib.ListUpdate
import Tina.Rpc.Client

/-!
What handling one message can do to the requests in flight, and which results it sends.
-/

namespace Tina.Rpc.Client

open Lib List Option Effect AList

variable {A : Type}

structure Notice (A : Type) where
  replyTo : A
  correlator : UInt64
  result : ClientResult

def Effect.notice? : Effect A → Option (Notice A)
  | .notify replyTo correlator result => some ⟨replyTo, correlator, result⟩
  | _ => none

def notices (effects : List (Effect A)) : List (Notice A) :=
  effects.filterMap Effect.notice?

def noticeOf (result : ClientResult) (entry : InFlight A) : Notice A :=
  ⟨entry.replyTo, entry.correlator, result⟩

/-- The same result for every request in flight. -/
def noticesOf (result : ClientResult) (inFlight : AList fun _ : UInt64 => InFlight A) :
    List (Notice A) :=
  inFlight.entries.map (noticeOf result ·.2)

/-- The server sends replies and errors. -/
def isAnswer (frame : Frame) : Bool :=
  frame.kind ≠ .request

/-- The frames settle the requests that they name, one after the other. -/
def serve (inFlight : AList fun _ : UInt64 => InFlight A) :
    List Frame → (AList fun _ : UInt64 => InFlight A) × List (Notice A)
  | [] => (inFlight, [])
  | frame :: rest =>
    match inFlight.lookup frame.requestId with
    | none => serve inFlight rest
    | some entry =>
      ((serve (inFlight.erase frame.requestId) rest).1,
        noticeOf (serverResult frame) entry :: (serve (inFlight.erase frame.requestId) rest).2)

/-- The bytes that a message brings to an open client. -/
def hears (client : Client A) (msg : ClientMsg A) : List UInt8 :=
  match msg with
  | .read (.ok bytes) => if client.isClosing then [] else bytes
  | _ => []

/-- Why a request is refused on the spot. -/
def refusal (client : Client A) (req : ClientRequest A) : Option ClientResult :=
  if client.isClosing then some .connectionClosed
  else if client.config.maxInFlight ≤ client.inFlight.keys.length then some .full
  else
    match client.allocateRequestId.2 with
    | none => some .full
    | some requestId =>
      match encode (.request requestId req.service req.method req.payload) client.frameLimits with
      | .error _ => some .localEncodeFailed
      | .ok _ =>
        if client.config.writeQueueCap ≤ client.writeQueue.length then some (.ioError .io) else none

@[simp]
theorem notices_cons (effect : Effect A) (effects : List (Effect A)) :
    notices (effect :: effects) = effect.notice?.toList ++ notices effects :=
  filterMap_cons_toList _ effect effects

@[simp]
theorem notices_append (effects effects' : List (Effect A)) :
    notices (effects ++ effects') = notices effects ++ notices effects' :=
  filterMap_append

theorem notices_notify (result : ClientResult) (inFlight : AList fun _ : UInt64 => InFlight A) :
    notices (inFlight.entries.map (notify ·.2 result)) = noticesOf result inFlight := by
  unfold notices noticesOf
  rw [filterMap_map]
  exact congrFun filterMap_eq_map inFlight.entries

/-- A read needs a stream, and only a closing client ends. -/
def Effect.Granted (client : Client A) : Effect A → Prop
  | .read .. => client.stream.isSome
  | .closeStream _ | .stop => client.closeDispatched = true
  | .notify .. | .connect _ | .write .. | .idleArm .. | .deadlineArm .. => True

/-- A client that is closing has asked for it. -/
def Asked (client : Client A) : Prop :=
  client.closing.isSome → client.closeDispatched = true

/-- A stream is never given up. -/
structure Onward (client client' : Client A) (effects : List (Effect A)) : Prop where
  config : client'.config = client.config
  stream : client.stream.isSome → client'.stream.isSome
  granted : ∀ effect ∈ effects, effect.Granted client'
  closing : client'.Asked

/-- Nothing happens to the requests. -/
structure Calm (client client' : Client A) : Prop where
  inbound : client'.inbound = client.inbound
  inFlight : client'.inFlight = client.inFlight
  nextRequestId : client'.nextRequestId = client.nextRequestId
  closing : client'.closing = client.closing ∨ client'.closing = none
  closeDispatched : client'.closeDispatched = client.closeDispatched

/-- The client closes. -/
structure Closes (client client' : Client A) (reason : ClientResult) : Prop where
  isOpen : client.closeDispatched = false
  inFlight : client'.inFlight = ∅
  nextRequestId : client'.nextRequestId = client.nextRequestId
  closing : client'.closing = some reason
  closeDispatched : client'.closeDispatched = true

/-- What a message can do. -/
inductive Turn (client : Client A) : ClientMsg A → Client A → List (Effect A) → Prop
  | quiet {msg client' effects} (hrequest : ∀ req, msg ≠ .request req)
      (hhears : client.hears msg = [])
      (hspent : ∀ requestId, msg = .deadlineFired requestId →
        client.isClosing = true ∨ requestId ∉ client.inFlight)
      (hcalm : Calm client client') (hnotices : notices effects = []) :
      Turn client msg client' effects
  | closed {msg client' effects} (reason : ClientResult) (hrequest : ∀ req, msg ≠ .request req)
      (hhears : client.hears msg = []) (hcloses : Closes client client' reason)
      (hnotices : notices effects = noticesOf reason client.inFlight) :
      Turn client msg client' effects
  | refused {req client' effects} (result : ClientResult)
      (hrefusal : client.refusal req = some result)
      (hcalm : Calm { client with nextRequestId := client'.nextRequestId } client')
      (hnext : client'.nextRequestId = client.nextRequestId ∨
        client'.nextRequestId = client.allocateRequestId.1.nextRequestId)
      (hnotices : notices effects = [⟨req.replyTo, req.correlator, result⟩]) :
      Turn client (.request req) client' effects
  | overflowed {req client' effects} (hrefusal : client.refusal req = some (.ioError .io))
      (hcloses : Closes { client with nextRequestId := client'.nextRequestId } client'
        (.ioError .io))
      (hnext : client'.nextRequestId = client.allocateRequestId.1.nextRequestId)
      (hnotices : notices effects =
        ⟨req.replyTo, req.correlator, .ioError .io⟩ :: noticesOf (.ioError .io) client.inFlight) :
      Turn client (.request req) client' effects
  | opened {req client' effects} (requestId : UInt64) (hrefusal : client.refusal req = none)
      (hid : client.allocateRequestId.2 = some requestId)
      (hcalm : Calm
        { client with
          nextRequestId := client.allocateRequestId.1.nextRequestId
          inFlight := client.inFlight.insert requestId ⟨req.correlator, req.replyTo⟩ } client')
      (harms : .deadlineArm requestId req.deadline ∈ effects) (hnotices : notices effects = []) :
      Turn client (.request req) client' effects
  | drained {bytes client' effects} (frames : List Frame) (rest : List UInt8)
      (hopen : client.isClosing = false)
      (hsplit : split client.frameLimits isAnswer (client.inbound ++ bytes) = (frames, some rest))
      (hcalm : Calm
        { client with inbound := rest, inFlight := (serve client.inFlight frames).1 } client')
      (hnotices : notices effects = (serve client.inFlight frames).2) :
      Turn client (.read (.ok bytes)) client' effects
  | spoiled {bytes client' effects} (frames : List Frame) (hopen : client.isClosing = false)
      (hsplit : split client.frameLimits isAnswer (client.inbound ++ bytes) = (frames, none))
      (hcloses : Closes client client' .connectionClosed)
      (hnotices : notices effects = noticesOf .connectionClosed (serve client.inFlight frames).1) :
      Turn client (.read (.ok bytes)) client' effects
  | expired {requestId client' effects} (entry : InFlight A) (hopen : client.isClosing = false)
      (hlookup : client.inFlight.lookup requestId = some entry)
      (hcalm : Calm { client with inFlight := client.inFlight.erase requestId } client')
      (hnotices : notices effects = [noticeOf .timeout entry]) :
      Turn client (.deadlineFired requestId) client' effects

variable {inFlight : AList fun _ : UInt64 => InFlight A}

section

variable {client client' client'' : Client A} {effects : List (Effect A)} {frame : Frame}

theorem Calm.refl (client : Client A) : Calm client client :=
  ⟨rfl, rfl, rfl, .inl rfl, rfl⟩

theorem Calm.trans (h : Calm client client') (h' : Calm client' client'') :
    Calm client client'' where
  inbound := h'.inbound.trans h.inbound
  inFlight := h'.inFlight.trans h.inFlight
  nextRequestId := h'.nextRequestId.trans h.nextRequestId
  closing := by
    rcases h'.closing with hsame | hnone
    · rw [hsame]
      exact h.closing
    · exact .inr hnone
  closeDispatched := h'.closeDispatched.trans h.closeDispatched

theorem beginClose_of_closed (h : client.closeDispatched = true) (reason : ClientResult) :
    client.beginClose reason = (client, []) := by
  rw [beginClose, if_pos h]

theorem beginClose_of_open (client : Client A) (h : client.closeDispatched = false)
    (reason : ClientResult) :
    Closes client (client.beginClose reason).1 reason ∧
      notices (client.beginClose reason).2 = noticesOf reason client.inFlight ∧
      Onward client (client.beginClose reason).1 (client.beginClose reason).2 := by
  unfold beginClose
  rw [if_neg (by rw [h]; decide)]
  split
  all_goals
    refine ⟨⟨h, rfl, rfl, rfl, rfl⟩, ?_, rfl, id, fun effect hmem => ?_, fun _ => rfl⟩
    · rw [notices_append, notices_notify]
      exact append_nil _
    rcases mem_append.1 hmem with hnotice | hend
    · obtain ⟨_, -, rfl⟩ := mem_map.1 hnotice
      trivial
    · rw [mem_singleton.1 hend]
      rfl

/-- Starting a write does nothing to the requests. -/
theorem maybeStartWrite_spec (client : Client A) :
    Calm client client.maybeStartWrite.1 ∧ notices client.maybeStartWrite.2 = [] ∧
      client.maybeStartWrite.1.config = client.config ∧
      client.maybeStartWrite.1.stream = client.stream ∧
      ∀ effect ∈ client.maybeStartWrite.2, ∀ other, effect.Granted other := by
  unfold maybeStartWrite
  split
  · exact ⟨.refl client, rfl, rfl, rfl, by simp⟩
  split
  · exact ⟨⟨rfl, rfl, rfl, .inl rfl, rfl⟩, rfl, rfl, rfl, by simp [Granted]⟩
  · exact ⟨.refl client, rfl, rfl, rfl, by simp⟩

/-- Looking for an id changes nothing but the next id. -/
theorem probeRequestId_fst (tries : Nat) (client : Client A) : (probeRequestId tries client).1 =
      { client with nextRequestId := (probeRequestId tries client).1.nextRequestId } := by
  induction tries generalizing client with
  | zero => rfl
  | succ _ ih =>
  unfold probeRequestId
  dsimp only
  split
  · exact ih client.bumpRequestId
  · rfl

/-- The id that is found is not in flight. -/
theorem not_mem_of_probeRequestId (client : Client A) {tries : Nat} {requestId : UInt64}
    (h : (probeRequestId tries client).2 = some requestId) : requestId ∉ client.inFlight := by
  induction tries generalizing client with
  | zero => cases h
  | succ _ ih =>
  unfold probeRequestId at h
  dsimp only at h
  split at h
  · exact ih client.bumpRequestId h
  next hfree =>
  cases h
  exact hfree

@[simp]
theorem serve_cons_of_none (h : inFlight.lookup frame.requestId = none) (frames : List Frame) :
    serve inFlight (frame :: frames) = serve inFlight frames := by
  rw [serve, h]

theorem serve_cons_of_some {entry : InFlight A} (h : inFlight.lookup frame.requestId = some entry)
    (frames : List Frame) :
    serve inFlight (frame :: frames) = ((serve (inFlight.erase frame.requestId) frames).1,
        noticeOf (serverResult frame) entry ::
          (serve (inFlight.erase frame.requestId) frames).2) := by
  rw [serve, h]

/-- A next id that is not in flight is taken. -/
theorem allocateRequestId_of_free (h : client.nextRequestId ∉ client.inFlight) :
    client.allocateRequestId = (client.bumpRequestId, some client.nextRequestId) := by
  rw [allocateRequestId, probeRequestId]
  exact if_neg h

theorem toNat_bumpRequestId {n : Nat} (hnext : client.nextRequestId.toNat = n)
    (hlt : n + 1 < 2 ^ 64) : client.bumpRequestId.nextRequestId.toNat = n + 1 := by
  have hadd : (client.nextRequestId + 1).toNat = n + 1 := by
    rw [UInt64.toNat_add, hnext]
    exact Nat.mod_eq_of_lt hlt
  have hne : client.nextRequestId + 1 ≠ 0 := by
    intro hzero
    rw [hzero] at hadd
    cases hadd
  rw [bumpRequestId]
  rw [if_neg hne, hadd]

/-- The loop cuts the frames off the buffer and serves them. -/
theorem drainInbound_spec (client : Client A) (effects : List (Effect A)) {fuel : Nat}
    (hfuel : client.inbound.length < fuel) :
    ∃ frames last rest result, split client.frameLimits isAnswer client.inbound = (frames, last) ∧
      client.drainInbound fuel effects =
        ({ client with inbound := rest, inFlight := (serve client.inFlight frames).1 }, result) ∧
      ((last = some rest ∧ ∃ more, result = .ok (effects ++ more) ∧
          notices more = (serve client.inFlight frames).2 ∧
          ∀ effect ∈ more, ∀ other, effect.Granted other) ∨
        last = none ∧ ∃ error, result = .error error) := by
  induction fuel generalizing client effects with
  | zero => omega
  | succ _ ih =>
  rw [drainInbound]
  cases hcut : cutFrame client.frameLimits client.inbound with
  | short =>
    exact ⟨[], _, client.inbound, _, split_of_short hcut, rfl,
      .inl ⟨rfl, [], by rw [append_nil], rfl, by simp⟩⟩
  | badLength error =>
    exact ⟨[], _, client.inbound, _, split_of_badLength hcut, rfl, .inr ⟨rfl, error, rfl⟩⟩
  | whole result rest =>
  cases result with
  | error error =>
    exact ⟨[], _, rest, _, split_of_undecodable hcut, rfl, .inr ⟨rfl, error, rfl⟩⟩
  | ok frame =>
  dsimp only
  by_cases hkind : frame.kind = .request
  · rw [if_pos hkind]
    exact ⟨[], _, rest, _, split_of_refused hcut (by simp [isAnswer, hkind]), rfl,
      .inr ⟨rfl, _, rfl⟩⟩
  have hlength := length_of_cutFrame_whole hcut
  have hwhole := split_of_whole hcut (show isAnswer frame = true by simpa [isAnswer] using hkind)
  rw [if_neg hkind, takeInFlight]
  cases hlookup : client.inFlight.lookup frame.requestId with
  | none =>
    obtain ⟨frames, last, rest', result, hsplit, hdrain, hend⟩ :=
      ih { client with inbound := rest } effects (by dsimp only; omega)
    dsimp only [frameLimits] at hsplit
    refine ⟨frame :: frames, last, rest', result, by rw [hwhole, frameLimits, hsplit], ?_⟩
    rw [serve_cons_of_none hlookup]
    exact ⟨hdrain, hend⟩
  | some entry =>
  obtain ⟨frames, last, rest', result, hsplit, hdrain, hend⟩ := ih
    { client with inbound := rest, inFlight := client.inFlight.erase frame.requestId }
    (effects ++ [notify entry (serverResult frame)]) (by dsimp only; omega)
  dsimp only [frameLimits] at hsplit
  refine ⟨frame :: frames, last, rest', result, by rw [hwhole, frameLimits, hsplit], ?_⟩
  rw [serve_cons_of_some hlookup]
  refine ⟨hdrain, hend.imp_left ?_⟩
  rintro ⟨hlast, more, hresult, hmore, hgranted⟩
  refine ⟨hlast, notify entry (serverResult frame) :: more, ?_, ?_, ?_⟩
  · rw [hresult, append_assoc]
    rfl
  · rw [notices_cons, hmore]
    rfl
  · simpa [notify, Granted] using hgranted

end

section

variable {client : Client A} {out : Client A × List (Effect A)} {msg : ClientMsg A}
  {client' : Client A} {requestId : UInt64} {frames : List Frame} {effects : List (Effect A)}

structure Turned (client : Client A) (msg : ClientMsg A) (out : Client A × List (Effect A)) :
    Prop where
  turn : Turn client msg out.1 out.2
  onward : Onward client out.1 out.2

theorem isClosing_eq (hclosing : client.Asked) : client.isClosing = client.closeDispatched := by
  unfold isClosing
  cases hsome : client.closing.isSome with
  | false => rfl
  | true =>
    rw [hclosing hsome]
    rfl

theorem Calm.closes_of_closing (hcalm : Calm client client') (hclosing : client.Asked) :
    client'.Asked := by
  intro hsome
  rw [hcalm.closeDispatched]
  rcases hcalm.closing with hsame | hnone
  · exact hclosing (hsame ▸ hsome)
  · rw [hnone] at hsome
    cases hsome

/-- A message that is neither a request nor brings bytes may close the client. -/
theorem turned_beginClose (hrequest : ∀ req, msg ≠ .request req) (hhears : client.hears msg = [])
    (hopen : client.closeDispatched = false) (reason : ClientResult) :
    Turned client msg (client.beginClose reason) := by
  obtain ⟨hcloses, hnotices, honward⟩ := beginClose_of_open client hopen reason
  exact ⟨.closed reason hrequest hhears hcloses hnotices, honward⟩

section

variable (hclosing : client.Asked)

include hclosing

/-- A message may go by. -/
theorem turned_same (hrequest : ∀ req, msg ≠ .request req) (hhears : client.hears msg = [])
    (hspent : ∀ requestId, msg = .deadlineFired requestId →
      client.isClosing = true ∨ requestId ∉ client.inFlight) :
    Turned client msg (client, []) :=
  ⟨.quiet hrequest hhears hspent (.refl client) rfl, rfl, id, nofun, hclosing⟩

theorem onBegin_turned (h : client.onBegin = some out) : Turned client .begin out := by
  unfold onBegin at h
  split at h
  · cases h
    exact turned_same hclosing nofun rfl nofun
  next hbusy =>
  split at h
  · next hstream =>
    obtain ⟨_, hstream⟩ := isSome_iff_exists.1 hstream
    simp only [readEffect, hstream, map_some, some.injEq] at h
    subst h
    exact ⟨.quiet nofun rfl nofun ⟨rfl, rfl, rfl, .inl rfl, rfl⟩ rfl, rfl, fun _ => rfl,
      by simp [Granted, idleArmEffect], hclosing⟩
  split at h
  · cases h
    have hopen : client.isClosing = false := by
      cases hclosed : client.isClosing with
      | false => rfl
      | true => simp [hclosed] at hbusy
    rw [isClosing_eq hclosing] at hopen
    exact turned_beginClose (by nofun) rfl hopen _
  · cases h
    exact ⟨.quiet nofun rfl nofun ⟨rfl, rfl, rfl, .inl rfl, rfl⟩ rfl, rfl, id, by simp [Granted],
      hclosing⟩

theorem onConnected_turned {result : Except Http.CallError StreamId}
    (h : client.onConnected result = some out) : Turned client (.connected result) out := by
  unfold onConnected at h
  split at h
  · cases h
    exact turned_same hclosing nofun rfl nofun
  next hopen =>
  split at h
  · next stream =>
    simp only [readEffect, map_some, some.injEq] at h
    subst h
    obtain ⟨hcalm, hnotices, hconfig, hstream, hgranted⟩ :=
      maybeStartWrite_spec { client with stream := some stream, readStarted := true }
    have hcalm' : Calm client
        (maybeStartWrite { client with stream := some stream, readStarted := true }).1 :=
      { hcalm with }
    refine ⟨.quiet nofun rfl nofun hcalm' ?_, hconfig, fun _ => by rw [hstream]; rfl,
      fun effect hmem => ?_, hcalm'.closes_of_closing hclosing⟩
    · rw [notices_append, hnotices]
      rfl
    rcases mem_append.1 hmem with hfirst | hwrite
    · rcases mem_pair.1 hfirst with rfl | rfl
      · exact congrArg isSome hstream
      · trivial
    · exact hgranted effect hwrite _
  · cases h
    rw [isClosing_eq hclosing, Bool.not_eq_true] at hopen
    exact turned_beginClose (by nofun) rfl hopen _

theorem onWrote_turned (result : Except Http.CallError Nat) :
    Turned client (.wrote result) (client.onWrote result) := by
  unfold onWrote
  split
  · exact turned_same hclosing nofun rfl nofun
  next hopen =>
  rw [Bool.not_eq_true] at hopen
  cases result with
  | error => exact turned_beginClose (by nofun) rfl hopen _
  | ok count =>
  have hfail : Turned client (.wrote (.ok count))
      (beginClose { client with writeInFlight := none } (.ioError .io)) := by
    obtain ⟨hcloses, hnotices, honward⟩ :=
      beginClose_of_open { client with writeInFlight := none } hopen (.ioError .io)
    exact ⟨.closed _ nofun rfl { hcloses with } hnotices, { honward with }⟩
  dsimp only
  split
  · exact hfail
  split
  · exact hfail
  -- Only the write queue and the activity count change before the next write starts.
  have hstart : ∀ client₁ : Client A, Calm client client₁ → client₁.config = client.config →
      client₁.stream = client.stream →
      Turned client (.wrote (.ok count)) client₁.maybeStartWrite := by
    intro client₁ hcalm₁ hconfig₁ hstream₁
    obtain ⟨hcalm, hnotices, hconfig, hstream, hgranted⟩ := maybeStartWrite_spec client₁
    have hboth := hcalm₁.trans hcalm
    exact ⟨.quiet nofun rfl nofun hboth hnotices, hconfig.trans hconfig₁,
      fun hsome => by rwa [hstream, hstream₁], fun effect hmem => hgranted effect hmem _,
      hboth.closes_of_closing hclosing⟩
  apply hstart <;> split <;> split <;> first | rfl | exact ⟨rfl, rfl, rfl, .inl rfl, rfl⟩

theorem onDeadline_turned (requestId : UInt64) :
    Turned client (.deadlineFired requestId) (client.onDeadline requestId) := by
  unfold onDeadline
  split
  · next hclosed => exact turned_same hclosing nofun rfl fun _ _ => .inl hclosed
  next hopen =>
  rw [Bool.not_eq_true] at hopen
  rw [takeInFlight]
  cases hlookup : client.inFlight.lookup requestId with
  | none =>
    refine turned_same hclosing nofun rfl fun other hother => .inr ?_
    cases hother
    exact lookup_eq_none.1 hlookup
  | some entry =>
    exact ⟨.expired entry hopen hlookup ⟨rfl, rfl, rfl, .inl rfl, rfl⟩ rfl, rfl, id,
      by simp [notify, Granted], hclosing⟩

theorem onIdle_turned (snapshot : UInt64) :
    Turned client (.idleTick snapshot) (client.onIdle snapshot) := by
  unfold onIdle
  split
  · exact turned_same hclosing nofun rfl nofun
  · next hopen =>
    split
    · rw [isClosing_eq hclosing, Bool.not_eq_true] at hopen
      exact turned_beginClose (by nofun) rfl hopen _
    · exact ⟨.quiet nofun rfl nofun (.refl client) rfl, rfl, id,
        by simp [idleArmEffect, Granted], hclosing⟩

theorem onShutdown_turned : Turned client .shutdown client.onShutdown := by
  unfold onShutdown
  cases hopen : client.closeDispatched with
  | false => exact turned_beginClose (by nofun) rfl hopen _
  | true =>
    rw [beginClose_of_closed hopen]
    exact turned_same hclosing nofun rfl nofun

theorem onRead_turned {result : Except Http.CallError (List UInt8)}
    (h : client.onRead result = some out) : Turned client (.read result) out := by
  unfold onRead at h
  split at h
  · next hclosed =>
    cases h
    refine turned_same hclosing nofun ?_ nofun
    cases result with
    | error => rfl
    | ok => exact if_pos hclosed
  · next hopen =>
    rw [Bool.not_eq_true] at hopen
    have hdispatched := isClosing_eq hclosing ▸ hopen
    cases result with
    | error =>
      cases h
      exact turned_beginClose (by nofun) rfl hdispatched _
    | ok bytes =>
    dsimp only at h
    split at h
    · next hempty =>
      cases h
      refine turned_beginClose (by nofun) ?_ hdispatched _
      rw [hears, isEmpty_iff.1 hempty]
      exact ite_self []
    obtain ⟨frames, _, rest, drained, hsplit, hdrain, hend⟩ := drainInbound_spec
      { client with
        activitySeq := client.activitySeq + 1
        inbound := client.inbound ++ bytes } [] (Nat.lt_succ_self _)
    rw [hdrain] at h
    rcases hend with ⟨rfl, _, rfl, hnotices, hgranted⟩ | ⟨rfl, _, rfl⟩
    · dsimp only at h
      split at h
      · cases h
        exact ⟨.drained frames rest hopen hsplit ⟨rfl, rfl, rfl, .inl rfl, rfl⟩ hnotices, rfl, id,
          fun effect hmem => hgranted effect hmem _, hclosing⟩
      rw [readEffect, Option.map_map] at h
      obtain ⟨stream, hstream, rfl⟩ := map_eq_some_iff.1 h
      refine ⟨.drained frames rest hopen hsplit ⟨rfl, rfl, rfl, .inl rfl, rfl⟩ ?_, rfl, id,
        fun effect hmem => ?_, hclosing⟩
      · dsimp only [Function.comp]
        rw [notices_append, nil_append, hnotices]
        exact append_nil _
      rcases mem_append.1 hmem with hserved | hread
      · exact hgranted effect hserved _
      · rw [mem_singleton.1 hread]
        exact isSome_iff_exists.2 ⟨stream, hstream⟩
    · cases h
      obtain ⟨hcloses, hnotices, honward⟩ := beginClose_of_open
        { client with
          activitySeq := client.activitySeq + 1
          inbound := rest
          inFlight := (serve client.inFlight frames).1 } hdispatched .connectionClosed
      exact ⟨.spoiled frames hopen hsplit { hcloses with } hnotices, { honward with }⟩

end

/-- Looking for an id changes nothing but the next id. -/
theorem allocateRequestId_fst (client : Client A) : client.allocateRequestId.1 =
      { client with nextRequestId := client.allocateRequestId.1.nextRequestId } :=
  probeRequestId_fst _ client

/-- A request with an id goes into the map, or is refused and may take the connection with it. -/
theorem dispatchRequest_turned (hclosing : client.Asked) (req : ClientRequest A)
    (hopen : client.isClosing = false)
    (hroom : client.inFlight.keys.length < client.config.maxInFlight)
    (hid : client.allocateRequestId.2 = some requestId) :
    Turned client (.request req) (client.allocateRequestId.1.dispatchRequest req requestId) := by
  have hrefusal : client.refusal req =
      match encode (.request requestId req.service req.method req.payload) client.frameLimits with
      | .error _ => some .localEncodeFailed
      | .ok _ =>
        if client.config.writeQueueCap ≤ client.writeQueue.length then some (.ioError .io)
        else none := by
    rw [refusal, hopen, if_neg (by decide), if_neg (by omega), hid]
  rw [dispatchRequest, allocateRequestId_fst client]
  dsimp only [frameLimits] at hrefusal ⊢
  cases hencode : encode (.request requestId req.service req.method req.payload)
      ⟨client.config.maxFrameSize⟩ with
  | error =>
    rw [hencode] at hrefusal
    exact ⟨.refused _ hrefusal ⟨rfl, rfl, rfl, .inl rfl, rfl⟩ (.inr rfl) rfl, rfl, id,
      by simp [Granted], hclosing⟩
  | ok bytes =>
    rw [hencode] at hrefusal
    dsimp only at hrefusal ⊢
    split at hrefusal
    · next hfull =>
      rw [if_pos hfull]
      have hdispatched := isClosing_eq hclosing ▸ hopen
      obtain ⟨hcloses, hnotices, honward⟩ := beginClose_of_open
        { client with nextRequestId := client.allocateRequestId.1.nextRequestId } hdispatched
        (.ioError .io)
      refine ⟨.overflowed hrefusal { hcloses with nextRequestId := rfl } hcloses.nextRequestId ?_,
        { honward with granted := forall_mem_cons.2 ⟨trivial, honward.granted⟩ }⟩
      rw [notices_cons, hnotices]
      rfl
    next hfull =>
    rw [if_neg hfull]
    obtain ⟨hcalm, hnotices, hconfig, hstream, hgranted⟩ := maybeStartWrite_spec
      { client with
        nextRequestId := client.allocateRequestId.1.nextRequestId
        inFlight := client.inFlight.insert requestId ⟨req.correlator, req.replyTo⟩
        writeQueue := client.writeQueue ++ [(some requestId, bytes)] }
    refine ⟨.opened requestId hrefusal hid { hcalm with } (by simp) ?_, hconfig,
      fun hsome => by rwa [hstream], fun effect hmem => ?_, hcalm.closes_of_closing hclosing⟩
    · rw [notices_append, hnotices]
      rfl
    rcases mem_append.1 hmem with hwrite | harm
    · exact hgranted effect hwrite _
    · rw [mem_singleton.1 harm]
      trivial

/-- What the request meets once it has an id. -/
theorem onRequest_eq (req : ClientRequest A) (hopen : client.isClosing = false)
    (hroom : client.inFlight.keys.length < client.config.maxInFlight) :
    client.onRequest req = match client.allocateRequestId.2 with
      | none => (client.allocateRequestId.1, [.notify req.replyTo req.correlator .full])
      | some requestId => client.allocateRequestId.1.dispatchRequest req requestId := by
  rw [onRequest, hopen, if_neg (by decide), if_neg (by omega)]
  rcases client.allocateRequestId with ⟨_, _ | _⟩ <;> rfl

theorem onRequest_turned (hclosing : client.Asked) (req : ClientRequest A)
    : Turned client (.request req) (client.onRequest req) := by
  by_cases hopen : client.isClosing = true
  · have hrefusal : client.refusal req = some .connectionClosed := if_pos hopen
    rw [onRequest, if_pos hopen]
    exact ⟨.refused _ hrefusal (.refl client) (.inl rfl) rfl, rfl, id, by simp [Granted], hclosing⟩
  rw [Bool.not_eq_true] at hopen
  by_cases hroom : client.inFlight.keys.length < client.config.maxInFlight
  · rw [onRequest_eq req hopen hroom]
    cases hid : client.allocateRequestId.2 with
    | none =>
      have hrefusal : client.refusal req = some .full := by
        rw [refusal, hopen, if_neg (by decide), if_neg (by omega), hid]
      rw [allocateRequestId_fst client]
      exact ⟨.refused _ hrefusal ⟨rfl, rfl, rfl, .inl rfl, rfl⟩ (.inr rfl) rfl, rfl, id,
        by simp [Granted], hclosing⟩
    | some => exact dispatchRequest_turned hclosing req hopen hroom hid
  · have hrefusal : client.refusal req = some .full := by
      rw [refusal, hopen, if_neg (by decide), if_pos (by omega)]
    rw [onRequest, hopen, if_neg (by decide), if_pos (by omega)]
    exact ⟨.refused _ hrefusal (.refl client) (.inl rfl) rfl, rfl, id, by simp [Granted],
    hclosing⟩

/-- Every message does what a turn can do, if a stream is only closed for a client that closes. -/
theorem handle_turned (hclosing : client.Asked)
    (hends : ∀ result, msg = .streamClosed result → client.closeDispatched = true)
    (h : client.handle msg = some out) : Turned client msg out := by
  cases msg with try cases h
  | begin => exact onBegin_turned hclosing h
  | connected => exact onConnected_turned hclosing h
  | request req => exact onRequest_turned hclosing req
  | read => exact onRead_turned hclosing h
  | wrote result => exact onWrote_turned hclosing result
  | streamClosed result =>
    have hdispatched := hends result rfl
    exact ⟨.quiet nofun rfl nofun ⟨rfl, rfl, rfl, .inr rfl, rfl⟩ rfl, rfl, id,
      by simpa [onStreamClosed, finalizeClose, Granted] using hdispatched, nofun⟩
  | deadlineFired requestId => exact onDeadline_turned hclosing requestId
  | idleTick snapshot => exact onIdle_turned hclosing snapshot
  | shutdown => exact onShutdown_turned hclosing

/-- What no frame answers stays. -/
theorem mem_serve_iff : requestId ∈ (serve inFlight frames).1 ↔
    requestId ∈ inFlight ∧ ∀ frame ∈ frames, frame.requestId ≠ requestId := by
  induction frames generalizing inFlight with
  | nil => simp [serve]
  | cons frame _ ih =>
  rw [forall_mem_cons]
  cases hlookup : inFlight.lookup frame.requestId with
  | none =>
    rw [serve_cons_of_none hlookup, ih]
    refine and_congr_right fun hmem => (and_iff_right ?_).symm
    rintro rfl
    exact lookup_eq_none.1 hlookup hmem
  | some =>
    rw [serve_cons_of_some hlookup, ih, mem_erase, ne_comm, and_assoc, and_left_comm]

/-- Frames for none of the requests in flight change nothing. -/
theorem serve_of_forall_not_mem (h : ∀ frame ∈ frames, frame.requestId ∉ inFlight) :
    serve inFlight frames = (inFlight, []) := by
  induction frames with
  | nil => rfl
  | cons frame _ ih =>
    rw [serve_cons_of_none (lookup_eq_none.2 (h frame mem_cons_self))]
    exact ih fun other hother => h other (mem_cons_of_mem _ hother)

section

variable (h : Turn client msg client' effects)

include h

/-- A client closes once. -/
theorem Turn.closing : (client'.closing = client.closing ∨ client'.closing = none) ∧
        client'.closeDispatched = client.closeDispatched ∨
      client.closeDispatched = false ∧ client'.closing.isSome ∧ client'.closeDispatched = true := by
  cases h with
  | quiet _ _ _ hcalm | refused _ _ hcalm | opened _ _ _ hcalm | drained _ _ _ _ hcalm
  | expired _ _ _ hcalm => exact .inl ⟨hcalm.closing, hcalm.closeDispatched⟩
  | closed _ _ _ hcloses | overflowed _ hcloses | spoiled _ _ _ hcloses =>
    exact .inr ⟨hcloses.isOpen, by rw [hcloses.closing]; rfl, hcloses.closeDispatched⟩

/-- A closed client stays closed. -/
theorem Turn.closeDispatched (hclosed : client.closeDispatched = true) :
    client'.closeDispatched = true := by
  rcases h.closing with ⟨-, hsame⟩ | ⟨-, -, hdispatched⟩
  · exact hsame.trans hclosed
  · exact hdispatched

/-- Nothing is in flight at a closed client. -/
theorem Turn.empty (hclosing : client.Asked)
    (hempty : client.closeDispatched = true → client.inFlight = ∅)
    (hclosed : client'.closeDispatched = true) : client'.inFlight = ∅ := by
  have hopen : client.isClosing = false → client.closeDispatched = true → False := by
    intro hfalse htrue
    rw [isClosing_eq hclosing, htrue] at hfalse
    cases hfalse
  cases h with
  | quiet _ _ _ hcalm | refused _ _ hcalm =>
    rw [hcalm.closeDispatched] at hclosed
    exact hcalm.inFlight.trans (hempty hclosed)
  | closed _ _ _ hcloses | overflowed _ hcloses | spoiled _ _ _ hcloses => exact hcloses.inFlight
  | opened _ hrefusal _ hcalm =>
    rw [hcalm.closeDispatched] at hclosed
    rw [refusal, isClosing_eq hclosing, if_pos hclosed] at hrefusal
    cases hrefusal
  | drained _ _ hnot _ hcalm | expired _ hnot _ hcalm =>
    rw [hcalm.closeDispatched] at hclosed
    exact (hopen hnot hclosed).elim

/-- A request is in the map because it was there, and its timer did not just fire, or because its
timer has just been armed. -/
theorem Turn.mem_inFlight (hempty : client.isClosing = true → client.inFlight = ∅)
    (hmem : requestId ∈ client'.inFlight) :
    requestId ∈ client.inFlight ∧ msg ≠ .deadlineFired requestId ∨
      ∃ req, msg = .request req ∧ .deadlineArm requestId req.deadline ∈ effects := by
  cases h with
  | quiet _ _ hspent hcalm =>
    rw [hcalm.inFlight] at hmem
    refine .inl ⟨hmem, fun hmsg => ?_⟩
    rcases hspent requestId hmsg with hclosing | hfree
    · rw [hempty hclosing] at hmem
      exact notMem_empty _ hmem
    · exact hfree hmem
  | closed _ _ _ hcloses | overflowed _ hcloses | spoiled _ _ _ hcloses =>
    rw [hcloses.inFlight] at hmem
    exact absurd hmem (notMem_empty _)
  | refused _ _ hcalm =>
    rw [hcalm.inFlight] at hmem
    exact .inl ⟨hmem, nofun⟩
  | opened _ _ _ hcalm harms =>
    rw [hcalm.inFlight] at hmem
    rcases (mem_insert _).1 hmem with rfl | hold
    · exact .inr ⟨_, rfl, harms⟩
    · exact .inl ⟨hold, nofun⟩
  | drained _ _ _ _ hcalm =>
    rw [hcalm.inFlight] at hmem
    exact .inl ⟨(mem_serve_iff.1 hmem).1, nofun⟩
  | expired _ _ _ hcalm =>
  rw [hcalm.inFlight] at hmem
  obtain ⟨hne, hold⟩ := mem_erase.1 hmem
  refine .inl ⟨hold, fun hmsg => ?_⟩
  cases hmsg
  exact hne rfl

end

/-- Only a read without a stream would panic. -/
theorem handle_isSome (msg : ClientMsg A)
    (h : ∀ result, msg = .read result → client.stream.isSome) : (client.handle msg).isSome := by
  cases msg with
  | begin =>
    rw [handle, onBegin]
    dsimp only [readEffect]
    split
    · rfl
    split
    · next hstream => simpa using hstream
    · split <;> rfl
  | connected =>
    rw [handle]
    unfold onConnected
    split
    · rfl
    · split <;> rfl
  | read result =>
    obtain ⟨_, hstream⟩ := isSome_iff_exists.1 (h result rfl)
    rw [handle]
    unfold onRead
    split
    · rfl
    split
    · rfl
    next bytes =>
    split
    · rfl
    obtain ⟨_, _, _, drained, -, hdrain, -⟩ := drainInbound_spec
      { client with
        activitySeq := client.activitySeq + 1
        inbound := client.inbound ++ bytes } [] (Nat.lt_succ_self _)
    dsimp only
    rw [hdrain]
    cases drained with
    | error => rfl
    | ok =>
    dsimp only [readEffect]
    rw [hstream]
    split <;> rfl
  | request | wrote | streamClosed | deadlineFired | idleTick | shutdown => rfl

end

end Tina.Rpc.Client
