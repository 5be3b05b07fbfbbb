import Tina.Lib.Runs
import Tina.Rpc.ClientBooks

/-!
Every request that a client takes up gets one result. A reply that is read together with a later
frame the client cannot use is the exception: its request has left the map, and its result is
dropped with the other effects of the read.
-/

namespace Tina.Rpc.Client

open Lib List Option AList Nat

variable {A : Type} {card : Card A} {requestId : UInt64}

/-- What the runtime has been asked for and has not answered. -/
inductive Operation where
  | connect
  | read
  | write
  | closeStream
  | idle (snapshot : UInt64)
  | deadline (requestId : UInt64)
deriving DecidableEq

def Effect.operation? : Effect A → Option Operation
  | .connect _ => some .connect
  | .read .. => some .read
  | .write .. => some .write
  | .closeStream _ => some .closeStream
  | .idleArm snapshot _ => some (.idle snapshot)
  | .deadlineArm requestId _ => some (.deadline requestId)
  | .notify .. | .stop => none

def Effect.isStop : Effect A → Bool
  | .stop => true
  | _ => false

/-- The operation that a message of the runtime completes. -/
def completes : ClientMsg A → Option Operation
  | .connected _ => some .connect
  | .read _ => some .read
  | .wrote _ => some .write
  | .streamClosed _ => some .closeStream
  | .idleTick snapshot => some (.idle snapshot)
  | .deadlineFired requestId => some (.deadline requestId)
  | .begin | .request _ | .shutdown => none

/-- A client, its callers and the runtime. `closed` is the result it closed with. -/
structure World (A : Type) where
  client : Client (Ticket A)
  cards : List (Card A)
  answers : List (Answer A)
  received : List UInt8
  outstanding : List Operation
  fired : List UInt64
  closed : Option ClientResult
  stopped : Bool

namespace World

def initial (stream : ClientStream) (config : ClientConfig) : World A where
  client := .new stream config
  cards := []
  answers := []
  received := []
  outstanding := []
  fired := []
  closed := none
  stopped := false

/-- The answers of the server among the bytes received, up to the first thing that is none. -/
def frames (w : World A) : List Frame :=
  (split w.client.frameLimits isAnswer w.received).1

/-- The callers send at any time, and number their requests; the runtime completes what it was asked
for. -/
def delivers (w : World A) (msg : ClientMsg (Ticket A)) : Bool :=
  !w.stopped && (completes msg).all (· ∈ w.outstanding) &&
    match msg with
    | .request req => req.replyTo.number = w.cards.length
    | _ => true

def takenUp (w : World A) : ClientMsg (Ticket A) → List (Card A)
  | .request req => [⟨req, w.client, w.frames.length⟩]
  | _ => []

def firedBy : ClientMsg (Ticket A) → List UInt64
  | .deadlineFired requestId => [requestId]
  | _ => []

/-- The world after a message was handled. -/
def after (w : World A) (msg : ClientMsg (Ticket A)) (client : Client (Ticket A))
    (effects : List (Effect (Ticket A))) : World A :=
  let received := w.received ++ w.client.hears msg
  let heard := (split w.client.frameLimits isAnswer received).1.length
  { client
    cards := w.cards ++ w.takenUp msg
    answers := w.answers ++ (notices effects).map fun notice => ⟨notice, heard⟩
    received
    outstanding := (completes msg).elim w.outstanding w.outstanding.erase ++
      effects.filterMap Effect.operation?
    fired := w.fired ++ firedBy msg
    closed := w.closed <|> client.closing
    stopped := effects.any Effect.isStop }

/-- `none` if the message is not delivered, or the client panics. -/
def step (w : World A) (msg : ClientMsg (Ticket A)) : Option (World A) :=
  if w.delivers msg then (w.client.handle msg).map fun out => w.after msg out.1 out.2 else none

/-- A read that ends in a frame the client cannot use has no answer in it to a request in flight. -/
def Spares (w : World A) (msg : ClientMsg (Ticket A)) : Prop :=
  let ahead := split w.client.frameLimits isAnswer (w.client.inbound ++ w.client.hears msg)
  ahead.2 = none → ∀ frame ∈ ahead.1, frame.requestId ∉ w.client.inFlight

instance (w : World A) : DecidablePred w.Spares := fun _ =>
  inferInstanceAs (Decidable (_ → ∀ frame ∈ (split _ _ _).1, _ ∉ _))

/-- The client still owes the request its result, and has a timer for it. -/
structure Owes (w : World A) (card : Card A) (requestId : UInt64) : Prop where
  unanswered : answersTo w.answers card.number = []
  admitted : card.refusal = none
  id : card.requestId = some requestId
  unheard : card.first w.frames = none
  armed : w.delivers (.deadlineFired requestId) = true
  isOpen : w.client.isClosing = false

/-- The client has sent the request its result, and nothing else. -/
structure Paid (w : World A) (card : Card A) (answer : Answer A) : Prop where
  once : answersTo w.answers card.number = [answer]
  replyTo : answer.notice.replyTo = card.request.replyTo
  correlator : answer.notice.correlator = card.request.correlator
  due : Due w.frames w.fired w.closed card answer

end World

/-- What holds in every world. -/
structure World.Sound (config : ClientConfig) (w : World A) : Prop where
  config : w.client.config = config
  books : Books w.cards w.frames w.client.inFlight w.answers w.fired w.closed
  closing : w.client.Asked
  closed : w.closed.isSome = w.client.closeDispatched
  empty : w.client.closeDispatched = true → w.client.inFlight = ∅
  inbound : w.client.closeDispatched = false →
    split w.client.frameLimits isAnswer w.received = (w.frames, some w.client.inbound)
  reading : .read ∈ w.outstanding → w.client.stream.isSome
  ending : .closeStream ∈ w.outstanding → w.client.closeDispatched = true
  stopping : w.stopped = true → w.client.closeDispatched = true
  armed : ∀ requestId ∈ w.client.inFlight, .deadline requestId ∈ w.outstanding

namespace World

variable {w : World A} {config : ClientConfig} {msg : ClientMsg (Ticket A)}
  {client' : Client (Ticket A)} {effects : List (Effect (Ticket A))}

theorem takenUp_eq_nil (hrequest : ∀ req, msg ≠ .request req) : w.takenUp msg = [] := by
  cases msg <;> first | rfl | exact absurd rfl (hrequest _)

theorem frames_after (hconfig : client'.config = w.client.config) :
    (w.after msg client' effects).frames =
      (split w.client.frameLimits isAnswer (w.received ++ w.client.hears msg)).1 := by
  unfold frames after frameLimits
  rw [hconfig]

namespace Sound

variable {operation : Operation} {w' : World A}

section

variable (h : w.Sound config)

include h

theorem isClosing : w.client.isClosing = w.client.closeDispatched :=
  isClosing_eq h.closing

theorem closed_eq_none (hopen : w.client.closeDispatched = false) : w.closed = none :=
  isSome_eq_false_iff.1 (h.closed.trans hopen) |> isNone_iff_eq_none.1

/-- A message that does not close the client does not change what it closed with. -/
theorem closed_of_calm (hclosing : client'.closing = w.client.closing ∨ client'.closing = none) :
    (w.closed <|> client'.closing) = w.closed := by
  cases hclosed : w.closed with
  | some => rfl
  | none =>
  have hnone : w.client.closing = none := by
    cases hsome : w.client.closing with
    | none => rfl
    | some =>
    have hdispatched := h.closing (by rw [hsome]; rfl)
    rw [← h.closed, hclosed] at hdispatched
    cases hdispatched
  rcases hclosing with hsame | hgone
  · rw [hsame, hnone]
    rfl
  · rw [hgone]
    rfl

theorem fire (msg : ClientMsg (Ticket A)) :
    Books w.cards w.frames w.client.inFlight w.answers (w.fired ++ firedBy msg) w.closed := by
  have hfired := h.books.extend [] (firedBy msg) fun card _ _ hwaits => by
    simpa using hwaits.unheard
  rwa [append_nil] at hfired

/-- What an open client has received splits into the frames so far and those of the new bytes. -/
theorem split_received (hopen : w.client.closeDispatched = false)
    {bytes : List UInt8} {frames : List Frame} {last : Option (List UInt8)}
    (hsplit : split w.client.frameLimits isAnswer (w.client.inbound ++ bytes) = (frames, last)) :
    split w.client.frameLimits isAnswer (w.received ++ bytes) = (w.frames ++ frames, last) := by
  rw [split_append, h.inbound hopen]
  dsimp only
  rw [hsplit]

end

theorem card_number {req : ClientRequest (Ticket A)} (hdelivers : w.delivers (.request req) = true)
    (since : Nat) : (⟨req, w.client, since⟩ : Card A).number = w.cards.length := by
  simp only [delivers, Bool.and_eq_true, decide_eq_true_eq] at hdelivers
  exact hdelivers.2

theorem hears_of_open (hopen : w.client.isClosing = false) (bytes : List UInt8) :
    w.client.hears (.read (.ok bytes)) = bytes :=
  if_neg (by rw [hopen]; decide)

/-- The books after a message. -/
theorem books_after (h : w.Sound config) (hspares : w.Spares msg)
    (hdelivers : w.delivers msg = true)
    (hturn : Turn w.client msg client' effects) (honward : Onward w.client client' effects) :
    Books (w.after msg client' effects).cards (w.after msg client' effects).frames client'.inFlight
      (w.after msg client' effects).answers (w.after msg client' effects).fired
      (w.after msg client' effects).closed := by
  rw [frames_after honward.config]
  dsimp only [after]
  have hfired := h.fire msg
  cases hturn with
  | quiet hrequest hhears _ hcalm hnotices =>
    rw [takenUp_eq_nil hrequest, hhears, hcalm.inFlight, hnotices, h.closed_of_calm hcalm.closing]
    simpa [frames] using hfired
  | closed reason hrequest hhears hcloses hnotices =>
    rw [h.closed_eq_none hcloses.isOpen] at hfired ⊢
    rw [takenUp_eq_nil hrequest, hhears, hcloses.inFlight, hnotices, hcloses.closing]
    simpa [frames] using (hfired.shut reason).closeAll
  | refused _ hrefusal hcalm _ hnotices =>
    rw [hcalm.inFlight, hnotices, h.closed_of_calm hcalm.closing]
    have hrefused := hfired.refuse (card_number hdelivers w.frames.length) le_rfl
      w.frames.length hrefusal
    simpa [frames, hears, takenUp, noticeOf, Card.entry] using hrefused
  | overflowed hrefusal hcloses _ hnotices =>
    rw [h.closed_eq_none hcloses.isOpen] at hfired ⊢
    rw [hcloses.inFlight, hnotices, hcloses.closing]
    have hrefused := hfired.refuse (card_number hdelivers w.frames.length) le_rfl
      w.frames.length hrefusal
    simpa [frames, hears, takenUp, noticeOf, Card.entry] using (hrefused.shut _).closeAll
  | opened _ hrefusal hid hcalm _ hnotices =>
    rw [hcalm.inFlight, hnotices, h.closed_of_calm hcalm.closing]
    have hopened := hfired.openRequest (card_number hdelivers w.frames.length) rfl hrefusal hid
      (not_mem_of_probeRequestId _ hid)
    simpa [frames, hears, takenUp, noticeOf, Card.entry] using hopened
  | @drained bytes _ _ frames rest hopen hsplit hcalm hnotices =>
    rw [hears_of_open hopen, h.split_received (h.isClosing ▸ hopen) hsplit, hcalm.inFlight,
      hnotices, h.closed_of_calm hcalm.closing]
    simpa [takenUp] using hfired.hearAll frames (w.frames ++ frames).length
  | @spoiled bytes _ _ frames hopen hsplit hcloses hnotices =>
    have hserve : serve w.client.inFlight frames = (w.client.inFlight, []) := by
      apply serve_of_forall_not_mem
      unfold Spares at hspares
      rw [hears_of_open hopen, hsplit] at hspares
      exact hspares rfl
    have hheard := hfired.hearAll frames (w.frames ++ frames).length
    rw [hears_of_open hopen, h.split_received (h.isClosing ▸ hopen) hsplit, hcloses.inFlight,
      hnotices, hcloses.closing]
    rw [h.closed_eq_none hcloses.isOpen] at hheard ⊢
    rw [hserve] at hheard ⊢
    simpa [takenUp] using (hheard.shut .connectionClosed).closeAll
  | @expired requestId _ _ entry hopen hlookup hcalm hnotices =>
  rw [hcalm.inFlight, hnotices, h.closed_of_calm hcalm.closing]
  have hsettled := h.books.settle [] [requestId] ⟨noticeOf .timeout entry, w.frames.length⟩
    hlookup rfl rfl
    (fun card _ hwaits => .expired requestId hwaits.admitted (by simp)
      (by simpa using hwaits.unheard) hwaits.id (by simp) rfl)
    fun card _ _ _ hwaits => by simpa using hwaits.unheard
  simpa [frames, hears, takenUp, firedBy] using hsettled

section

variable (h : w.Sound config) (hturn : Turn w.client msg client' effects)

include h hturn

theorem closed_after : (w.after msg client' effects).closed.isSome = client'.closeDispatched := by
  dsimp only [after]
  rcases hturn.closing with ⟨hclosing, hsame⟩ | ⟨hopen, hsome, hdispatched⟩
  · rw [h.closed_of_calm hclosing, hsame, h.closed]
  · rw [h.closed_eq_none hopen, hdispatched]
    exact hsome

theorem inbound_after (hopen : client'.closeDispatched = false) :
    (split w.client.frameLimits isAnswer (w.received ++ w.client.hears msg)).2 =
      some client'.inbound := by
  have hsame : w.client.hears msg = [] → client'.inbound = w.client.inbound →
      client'.closeDispatched = w.client.closeDispatched →
      (split w.client.frameLimits isAnswer (w.received ++ w.client.hears msg)).2 =
        some client'.inbound := by
    intro hhears hinbound hdispatched
    rw [hhears, append_nil, hinbound, h.inbound (hdispatched ▸ hopen)]
  cases hturn with
  | quiet _ hhears _ hcalm => exact hsame hhears hcalm.inbound hcalm.closeDispatched
  | refused _ _ hcalm | opened _ _ _ hcalm | expired _ _ _ hcalm =>
    exact hsame rfl hcalm.inbound hcalm.closeDispatched
  | closed _ _ _ hcloses | overflowed _ hcloses | spoiled _ _ _ hcloses =>
    rw [hcloses.closeDispatched] at hopen
    cases hopen
  | drained _ _ hnot hsplit hcalm =>
    rw [hears_of_open hnot, h.split_received (h.isClosing ▸ hnot) hsplit, hcalm.inbound]

end

/-- An operation is outstanding because it was, or because it was just asked for. -/
theorem mem_outstanding_after (hmem : operation ∈ (w.after msg client' effects).outstanding) :
    operation ∈ w.outstanding ∨ ∃ effect ∈ effects, effect.operation? = some operation := by
  rcases mem_append.1 hmem with hold | hnew
  · refine .inl ?_
    cases hcompletes : completes msg with
    | none => rwa [hcompletes] at hold
    | some =>
      rw [hcompletes] at hold
      exact mem_of_mem_erase hold
  · exact .inr (mem_filterMap.1 hnew)

/-- What a message does not complete stays outstanding. -/
theorem mem_outstanding_of_ne (hmem : operation ∈ w.outstanding)
    (hne : completes msg ≠ some operation) :
    operation ∈ (w.after msg client' effects).outstanding := by
  apply mem_append_left
  cases hcompletes : completes msg with
  | none => exact hmem
  | some =>
  refine (mem_erase_of_ne ?_).2 hmem
  rintro rfl
  exact hne hcompletes

theorem armed_after (h : w.Sound config) (hturn : Turn w.client msg client' effects)
    (hmem : requestId ∈ client'.inFlight) :
    .deadline requestId ∈ (w.after msg client' effects).outstanding := by
  rcases hturn.mem_inFlight (h.isClosing ▸ h.empty) hmem with ⟨hold, hmsg⟩ | ⟨_, -, harms⟩
  · apply mem_outstanding_of_ne (h.armed requestId hold)
    intro hcompletes
    cases msg <;> cases hcompletes
    exact hmsg rfl
  · exact mem_append_right _ (mem_filterMap.2 ⟨_, harms, rfl⟩)

theorem mem_outstanding_of_delivers (hdelivers : w.delivers msg = true)
    (hcompletes : completes msg = some operation) : operation ∈ w.outstanding := by
  simp only [delivers, hcompletes, all_some, Bool.and_eq_true, decide_eq_true_eq] at hdelivers
  exact hdelivers.1.2

/-- A step is a turn of the client. -/
theorem turn (h : w.Sound config) (hstep : step w msg = some w') :
    ∃ client' effects, w.delivers msg = true ∧ Turn w.client msg client' effects ∧
      Onward w.client client' effects ∧ w' = w.after msg client' effects := by
  unfold step at hstep
  split at hstep
  · next hdelivers =>
    obtain ⟨⟨client', effects⟩, hhandle, rfl⟩ := map_eq_some_iff.1 hstep
    have hends : ∀ result, msg = .streamClosed result → w.client.closeDispatched = true := by
      rintro _ rfl
      exact h.ending (mem_outstanding_of_delivers hdelivers rfl)
    obtain ⟨hturn, honward⟩ := handle_turned h.closing hends hhandle
    exact ⟨client', effects, hdelivers, hturn, honward, rfl⟩
  · cases hstep

/-- What holds goes on holding. -/
theorem step (h : w.Sound config) (hspares : w.Spares msg) (hstep : step w msg = some w') :
    w'.Sound config := by
  obtain ⟨client', _, hdelivers, hturn, honward, rfl⟩ := h.turn hstep
  refine ⟨honward.config.trans h.config, h.books_after hspares hdelivers hturn honward,
    honward.closing, h.closed_after hturn, hturn.empty h.closing h.empty, fun hopen => ?_,
    fun hread => ?_, fun hclose => ?_, fun hstop => ?_, fun requestId hmem =>
      h.armed_after hturn hmem⟩
  · have hlimits : client'.frameLimits = w.client.frameLimits := by
      unfold frameLimits
      rw [honward.config]
    rw [frames_after honward.config]
    exact (congrArg (split · isAnswer _) hlimits).trans (Prod.ext rfl (h.inbound_after hturn hopen))
  · rcases mem_outstanding_after hread with hold | ⟨effect, hmem, hasked⟩
    · exact honward.stream (h.reading hold)
    · cases effect <;> cases hasked
      exact honward.granted _ hmem
  · rcases mem_outstanding_after hclose with hold | ⟨effect, hmem, hasked⟩
    · exact hturn.closeDispatched (h.ending hold)
    · cases effect <;> cases hasked
      exact honward.granted _ hmem
  · obtain ⟨effect, hmem, hisStop⟩ := any_eq_true.1 hstop
    cases effect <;> cases hisStop
    exact honward.granted _ hmem

theorem start (stream : ClientStream) (config : ClientConfig) :
    Sound config (initial stream config : World A) where
  config := rfl
  books := by
    refine ⟨by simp [initial], by simp [initial], by simp [initial],
      fun requestId entry hlookup => ?_, by simp [initial]⟩
    cases (lookup_empty requestId).symm.trans hlookup
  closing := nofun
  closed := rfl
  empty := fun _ => rfl
  inbound := fun _ => split_of_short rfl
  reading := by simp [initial]
  ending := by simp [initial]
  stopping := by simp [initial]
  armed := fun requestId hmem => absurd hmem (notMem_empty requestId)

/-- Nothing that is delivered makes the client panic. -/
theorem step_isSome (h : w.Sound config) (hdelivers : w.delivers msg = true) :
    (World.step w msg).isSome := by
  rw [World.step, if_pos hdelivers, isSome_map]
  apply handle_isSome
  rintro _ rfl
  exact h.reading (mem_outstanding_of_delivers hdelivers rfl)

/-- A request is owed its result, or has it. -/
theorem owes_or_paid (h : w.Sound config) (hcard : card ∈ w.cards) :
    (∃ requestId, w.Owes card requestId) ∨ ∃ answer, w.Paid card answer := by
  refine (h.books.standing card hcard).imp ?_ ?_
  · rintro ⟨requestId, hwaits⟩
    have hmem : requestId ∈ w.client.inFlight :=
      lookup_isSome.1 (isSome_iff_exists.2 ⟨_, hwaits.held⟩)
    have hopen : w.client.closeDispatched = false := by
      cases hclosed : w.client.closeDispatched with
      | false => rfl
      | true =>
        rw [h.empty hclosed] at hmem
        exact absurd hmem (notMem_empty _)
    have hrunning : w.stopped = false := by
      cases hstopped : w.stopped with
      | false => rfl
      | true => exact absurd (h.stopping hstopped) (by rw [hopen]; decide)
    have harmed : w.delivers (.deadlineFired requestId) = true := by
      simp [delivers, completes, hrunning, h.armed requestId hmem]
    exact ⟨requestId, hwaits.unanswered, hwaits.admitted, hwaits.id, hwaits.unheard, harmed,
      h.isClosing.trans hopen⟩
  · rintro ⟨answer, hsettled⟩
    exact ⟨answer, hsettled.once, hsettled.replyTo, hsettled.correlator, hsettled.due⟩

end Sound

end World

section

variable {w w' : World A} {config : ClientConfig} {msg : ClientMsg (Ticket A)} {k : Nat}

/-- After `k` ids the next one is new. -/
structure World.Numbered (w : World A) (k : Nat) : Prop where
  count : k ≤ w.cards.length
  next : k + 1 < 2 ^ 64 → w.client.nextRequestId.toNat = k + 1
  bounded : ∀ card ∈ w.cards, card.refusal = none → ∀ requestId, card.requestId = some requestId →
    requestId.toNat ≤ k
  distinct : w.cards.Pairwise fun card card' =>
    card.refusal = none → card'.refusal = none → card.requestId ≠ card'.requestId

namespace World.Numbered

section

variable (h : w.Numbered k)

include h

theorem keep (hcards : w'.cards = w.cards)
    (hnext : w'.client.nextRequestId = w.client.nextRequestId) : w'.Numbered k := by
  constructor <;> simp only [hcards, hnext]
  exacts [h.count, h.next, h.bounded, h.distinct]

/-- One more card, under the next id or refused. -/
theorem concat {k' : Nat} (hcards : w'.cards = w.cards ++ [card]) (hcount : k ≤ k' ∧ k' ≤ k + 1)
    (hnext : k' + 1 < 2 ^ 64 → w'.client.nextRequestId.toNat = k' + 1)
    (hcard : card.refusal = none → ∃ requestId, card.requestId = some requestId ∧
      requestId.toNat = k + 1 ∧ k' = k + 1) : w'.Numbered k' := by
  constructor
  · have := h.count
    rw [hcards, length_append, length_singleton]
    omega
  · exact hnext
  · rw [hcards]
    intro other hother hadmitted requestId hid
    rcases mem_append.1 hother with hold | hlast
    · exact (h.bounded other hold hadmitted requestId hid).trans hcount.1
    rw [mem_singleton.1 hlast] at hadmitted hid
    obtain ⟨_, hid', _, _⟩ := hcard hadmitted
    cases hid.symm.trans hid'
    omega
  · rw [hcards]
    refine pairwise_concat h.distinct fun other hother hadmitted hlastAdmitted heq => ?_
    obtain ⟨requestId, hid, _, -⟩ := hcard hlastAdmitted
    have hbound := h.bounded other hother hadmitted requestId (heq.trans hid)
    omega

theorem next_free (hsound : w.Sound config) (hk : k + 1 < 2 ^ 64) :
    w.client.nextRequestId ∉ w.client.inFlight := by
  intro hmem
  obtain ⟨entry, hlookup⟩ := isSome_iff_exists.1 (lookup_isSome.2 hmem)
  obtain ⟨card, hcard, -, hwaits⟩ := hsound.books.held _ entry hlookup
  have hbound := h.bounded card hcard hwaits.admitted _ hwaits.id
  rw [h.next hk] at hbound
  omega

/-- A request that looks for an id takes the next one. -/
theorem allocate (hsound : w.Sound config) (hk : k + 1 < 2 ^ 64) :
    w.client.allocateRequestId.2 = some w.client.nextRequestId ∧
      (k + 1 + 1 < 2 ^ 64 → w.client.allocateRequestId.1.nextRequestId.toNat = k + 1 + 1) := by
  rw [allocateRequestId_of_free (h.next_free hsound hk)]
  exact ⟨rfl, toNat_bumpRequestId (h.next hk)⟩

theorem step (hsound : w.Sound config)
    (hstep : step w msg = some w') (hfew : w'.cards.length < 2 ^ 64) :
    ∃ k', w'.Numbered k' := by
  obtain ⟨_, _, -, hturn, -, rfl⟩ := hsound.turn hstep
  have hroom : ∀ req, msg = .request req → k + 1 < 2 ^ 64 := by
    rintro req rfl
    have := h.count
    simp only [after, takenUp, length_append, length_singleton] at hfew
    omega
  have hrefused : ∀ {req result}, w.client.refusal req = some result →
      (⟨req, w.client, w.frames.length⟩ : Card A).refusal ≠ none := by
    intro req result hrefusal
    rw [Card.refusal, hrefusal]
    exact some_ne_none result
  cases hturn with
  | quiet hrequest _ _ hcalm =>
    exact ⟨k, h.keep (by simp [after, takenUp_eq_nil hrequest]) hcalm.nextRequestId⟩
  | closed _ hrequest _ hcloses =>
    exact ⟨k, h.keep (by simp [after, takenUp_eq_nil hrequest]) hcloses.nextRequestId⟩
  | drained _ _ _ _ hcalm | expired _ _ _ hcalm =>
    exact ⟨k, h.keep (append_nil _) hcalm.nextRequestId⟩
  | spoiled _ _ _ hcloses => exact ⟨k, h.keep (append_nil _) hcloses.nextRequestId⟩
  | @refused req _ _ result hrefusal hcalm hnext =>
    obtain ⟨-, hbumped⟩ := h.allocate hsound (hroom req rfl)
    rcases hnext with hsame | hmoved
    · exact ⟨k, h.concat rfl ⟨le_refl k, le_succ k⟩ (hsame ▸ h.next)
        fun hadmitted => absurd hadmitted (hrefused hrefusal)⟩
    · exact ⟨k + 1, h.concat rfl ⟨le_succ k, le_rfl⟩ (hmoved ▸ hbumped)
        fun hadmitted => absurd hadmitted (hrefused hrefusal)⟩
  | @overflowed req _ _ hrefusal _ hnext =>
    obtain ⟨-, hbumped⟩ := h.allocate hsound (hroom req rfl)
    exact ⟨k + 1, h.concat rfl ⟨le_succ k, le_rfl⟩ (hnext ▸ hbumped)
      fun hadmitted => absurd hadmitted (hrefused hrefusal)⟩
  | @opened req _ _ requestId _ hid hcalm =>
  have hk := hroom req rfl
  obtain ⟨hnext, hbumped⟩ := h.allocate hsound hk
  refine ⟨k + 1, h.concat rfl ⟨le_succ k, le_rfl⟩ ?_ fun _ =>
    ⟨_, hnext, h.next hk, rfl⟩⟩
  exact fun hlt => (congrArg UInt64.toNat hcalm.nextRequestId).trans (hbumped hlt)

end

theorem start (stream : ClientStream) (config : ClientConfig) :
    Numbered (initial stream config : World A) 0 :=
  ⟨le_refl 0, fun _ => rfl, by simp [initial], .nil⟩

end World.Numbered

end

section

variable {w : World A} {stream : ClientStream} {config : ClientConfig}

theorem World.cards_mono {w' : World A} {msg : ClientMsg (Ticket A)}
    (hstep : step w msg = some w') : w.cards.length ≤ w'.cards.length := by
  unfold step at hstep
  split at hstep
  · obtain ⟨_, -, rfl⟩ := map_eq_some_iff.1 hstep
    simp [after]
  · cases hstep

/-- The timer of a request brings its result, if nothing else did. -/
theorem World.Sound.deadline_pays (h : w.Sound config) (hcard : card ∈ w.cards)
    (howes : w.Owes card requestId) :
    ∃ w' answer, World.step w (.deadlineFired requestId) = some w' ∧ w'.Paid card answer := by
  obtain ⟨_, hstep⟩ := isSome_iff_exists.1 (h.step_isSome howes.armed)
  have hopen : w.client.closeDispatched = false := h.isClosing ▸ howes.isOpen
  have hspares : w.Spares (.deadlineFired requestId) := by
    have hshort := cutFrame_of_split (h.inbound hopen)
    have hnone : w.client.hears (.deadlineFired requestId) = [] := rfl
    rw [Spares, hnone, append_nil, split_of_short hshort]
    exact nofun
  have hsound := h.step hspares hstep
  obtain ⟨client', effects, -, hturn, -, rfl⟩ := h.turn hstep
  have hcard' : card ∈ (w.after (.deadlineFired requestId) client' effects).cards :=
    mem_append_left _ hcard
  rcases hsound.books.standing card hcard' with ⟨other, hwaits⟩ | ⟨answer, hsettled⟩
  · obtain rfl : requestId = other := some.inj (howes.id.symm.trans hwaits.id)
    have hmem : requestId ∈ client'.inFlight :=
      lookup_isSome.1 (isSome_iff_exists.2 ⟨_, hwaits.held⟩)
    rcases hturn.mem_inFlight (h.isClosing ▸ h.empty) hmem with ⟨-, hne⟩ | ⟨_, hmsg, -⟩
    · exact absurd rfl hne
    · cases hmsg
  · exact ⟨_, answer, hstep, hsettled.once, hsettled.replyTo, hsettled.correlator, hsettled.due⟩

/-- In a run whose reads lose no answer to a later frame, the client sends every request that it
takes up one result: what the server said first, or what the deadline, the close or the refusal
says. A request without its result has a timer that brings it. The server may answer in any order,
twice or not at all; fewer than `2 ^ 64` requests do not exhaust the ids. -/
theorem client_answers_once (hrun : Run World.step World.Spares (World.initial stream config) w)
    (hfew : w.cards.length < 2 ^ 64) :
    (∀ card ∈ w.cards, (∃ requestId, w.Owes card requestId) ∨ ∃ answer, w.Paid card answer) ∧
      (∀ card ∈ w.cards, ∀ requestId, w.Owes card requestId →
        ∃ w' answer, World.step w (.deadlineFired requestId) = some w' ∧ w'.Paid card answer) ∧
      (∀ i (card : Card A), w.cards[i]? = some card → card.number = i) ∧
      (w.cards.Pairwise fun card card' =>
        card.refusal = none → card'.refusal = none → card.requestId ≠ card'.requestId) ∧
      ∀ msg, w.delivers msg = true → (World.step w msg).isSome := by
  have hinv : w.Sound config ∧ (w.cards.length < 2 ^ 64 → ∃ k, w.Numbered k) := by
    refine hrun.invariant (I := fun w => w.Sound config ∧
      (w.cards.length < 2 ^ 64 → ∃ k, w.Numbered k))
      ⟨.start stream config, fun _ => ⟨0, .start stream config⟩⟩ ?_
    rintro v msg _ ⟨hsound, hnumbered⟩ hspares hstep
    refine ⟨hsound.step hspares hstep, fun hfew => ?_⟩
    obtain ⟨k, hk⟩ := hnumbered (lt_of_le_of_lt (World.cards_mono hstep) hfew)
    exact hk.step hsound hstep hfew
  obtain ⟨hsound, hnumbered⟩ := hinv
  obtain ⟨k, hk⟩ := hnumbered hfew
  exact ⟨fun card hcard => hsound.owes_or_paid hcard,
    fun card hcard requestId howes => hsound.deadline_pays hcard howes, hsound.books.numbered,
      hk.distinct,
    fun msg hdelivers => hsound.step_isSome hdelivers⟩

/-- The bytes of a reply to the first request, and of a length that no frame has. -/
def replyAndGarbage : List UInt8 :=
  [0, 0, 0, 14, 1, 1, 0, 0, 0, 0, 0, 0, 0, 0, 1, 0, 0, 7] ++ [0, 0, 0, 0]

def firstRequest : ClientRequest (Ticket Unit) where
  service := "kv"
  method := "get"
  payload := []
  deadline := 1000
  correlator := 5
  replyTo := ⟨0, ()⟩

/-- A reply that is read together with a bad length is dropped: the client stops, and its one
request never gets a result. -/
theorem reply_before_garbage_lost :
    ∃ w : World Unit, Run World.step (fun _ _ => True) (World.initial (.established 3) .default) w ∧
      w.cards.length = 1 ∧ (w.frames.map (·.requestId)) = [1] ∧ w.answers.length = 0 ∧
      w.stopped = true := by
  obtain ⟨w, hrun, hend⟩ := exists_run World.step (fun _ _ => True)
    (World.initial (.established 3) .default)
    [.begin, .request firstRequest, .wrote (.ok 22), .read (.ok replyAndGarbage),
      .streamClosed (.ok ())]
    (fun w : World Unit => w.cards.length = 1 ∧ (w.frames.map (·.requestId)) = [1] ∧
      w.answers.length = 0 ∧ w.stopped = true) (by decide +kernel)
  exact ⟨w, hrun, of_decide_eq_true hend⟩

/-- The same reply, alone in its read, brings the result. The bad length comes when it has been
given, and the second request, which is in flight then, is told that the client closes. -/
theorem client_answers_once_of_two : ∃ w : World Unit, w.answers.length = 2 ∧ w.cards.length = 2 ∧
      ∀ card ∈ w.cards, (∃ requestId, w.Owes card requestId) ∨ ∃ answer, w.Paid card answer := by
  obtain ⟨w, hrun, hend⟩ := exists_run World.step World.Spares
    (World.initial (.established 3) .default)
    [.begin, .request firstRequest, .wrote (.ok 22),
      .request { firstRequest with replyTo := ⟨1, ()⟩ }, .wrote (.ok 22),
      .read (.ok (replyAndGarbage.take 18)), .read (.ok (replyAndGarbage.drop 18))]
    (fun w : World Unit => w.answers.length = 2 ∧ w.cards.length = 2) (by decide +kernel)
  obtain ⟨hanswers, hcards⟩ := of_decide_eq_true hend
  exact ⟨w, hanswers, hcards, (client_answers_once hrun (by rw [hcards]; decide)).1⟩

end

end Tina.Rpc.Client
