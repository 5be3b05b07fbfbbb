import Tina.Lib.ListUpdate
import Tina.Lib.Runs
import Tina.Threaded.Worker

/-!
What becomes of the terminal envelopes that one shard routes to another. They are received in that
order and none is lost, unless a worker routes one past others that wait in its overflow for the
same shard, or ends while its overflow holds some.
-/

namespace Tina.Threaded

open Lib Function List Event Threaded.System

variable {P : Payload}

/-- The envelopes on their way, what was routed and received, and which shards can be reached. -/
@[ext]
structure Ledger (P : Payload) where
  overflow : ShardId → List (QueuedRemoteEnvelope P)
  channels : Lane → ShardId → ShardId → List (QueuedRemoteEnvelope P)
  history : List (Event P)
  live : ShardId → Bool
  /-- The pairs that have channels. -/
  known : ShardId → ShardId → Bool

/-- A shard that is neither `Failed` nor disconnected. -/
def System.live (w : System P) (shard : ShardId) : Bool :=
  !decide (w.states shard = .failed) && !(w.workers shard).phase.isGone

def System.ledger (w : System P) : Ledger P where
  overflow shard := (w.workers shard).terminalOverflow
  channels := w.channels
  history := w.history
  live := w.live
  known source target := target ∈ w.shards && target ≠ source

def Event.routedTo (source target : ShardId) : Event P → Option (QueuedRemoteEnvelope P)
  | .routed source' envelope =>
    if source' = source ∧ envelope.targetShard = target ∧
        isTerminalRemoteEnvelope envelope = true then
      some envelope
    else none
  | .received .. => none

def Event.receivedFrom (source target : ShardId) : Event P → Option (QueuedRemoteEnvelope P)
  | .received source' target' envelope =>
    if source' = source ∧ target' = target ∧
        isTerminalRemoteEnvelope envelope = true then some envelope
    else none
  | .routed .. => none

/-- The terminal envelopes that `source` has routed to `target`. -/
def routed (source target : ShardId) (history : List (Event P)) : List (QueuedRemoteEnvelope P) :=
  history.filterMap (routedTo source target)

/-- The terminal envelopes that `target` has received from `source`. -/
def received (source target : ShardId) (history : List (Event P)) : List (QueuedRemoteEnvelope P) :=
  history.filterMap (receivedFrom source target)

/-- The terminal envelopes of a worker's overflow that wait for `target`. -/
def waiting (target : ShardId) (overflow : List (QueuedRemoteEnvelope P)) :
    List (QueuedRemoteEnvelope P) :=
  overflow.filter (·.targetShard = target)

def Ledger.setChannel (l : Ledger P) (lane : Lane) (source target : ShardId)
    (envelopes : List (QueuedRemoteEnvelope P)) : Ledger P :=
  { l with
    channels := fun lane' source' target' =>
      if lane' = lane ∧ source' = source ∧ target' = target then envelopes
      else l.channels lane' source' target' }

/-- What a move can do to the envelopes. -/
inductive Act : Ledger P → Ledger P → Prop
  | quiet {l : Ledger P} (live : ShardId → Bool)
      (hlive : ∀ shard, live shard = true → l.live shard = true) : Act l { l with live }
  /-- An envelope is sent at once, past none of its kind. -/
  | sent {l} (source : ShardId) (envelope : QueuedRemoteEnvelope P)
      (hturn : isTerminalRemoteEnvelope envelope = true →
        waiting envelope.targetShard (l.overflow source) = []) :
      Act l
        { l.setChannel (laneOf envelope) source envelope.targetShard
            (l.channels (laneOf envelope) source envelope.targetShard ++ [envelope]) with
          history := l.history ++ [.routed source envelope] }
  | kept {l} (source : ShardId) (envelope : QueuedRemoteEnvelope P)
      (hterminal : isTerminalRemoteEnvelope envelope = true)
      (hknown : l.known source envelope.targetShard = true) :
      Act l
        { l with
          overflow := Function.update l.overflow source (l.overflow source ++ [envelope])
          history := l.history ++ [.routed source envelope] }
  | refused {l} (source : ShardId) (envelope : QueuedRemoteEnvelope P)
      (hdead : isTerminalRemoteEnvelope envelope = true → l.live envelope.targetShard = false) :
      Act l { l with history := l.history ++ [.routed source envelope] }
  | flushed {l} (source : ShardId) (envelope : QueuedRemoteEnvelope P)
      (rest : List (QueuedRemoteEnvelope P)) (hoverflow : l.overflow source = envelope :: rest) :
      Act l
        { l.setChannel (laneOf envelope) source envelope.targetShard
            (l.channels (laneOf envelope) source envelope.targetShard ++ [envelope]) with
          overflow := Function.update l.overflow source rest }
  | dropped {l} (source : ShardId) (envelope : QueuedRemoteEnvelope P)
      (rest : List (QueuedRemoteEnvelope P)) (hoverflow : l.overflow source = envelope :: rest)
      (hdead : isTerminalRemoteEnvelope envelope = true → l.live envelope.targetShard = false) :
      Act l { l with overflow := Function.update l.overflow source rest }
  | received {l} (lane : Lane) (source target : ShardId)
      (envelope : QueuedRemoteEnvelope P) (rest : List (QueuedRemoteEnvelope P))
      (hchannel : l.channels lane source target = envelope :: rest) :
      Act l
        { l.setChannel lane source target rest with
          history := l.history ++ [.received source target envelope] }
  | left {l} (shard : ShardId)
      (hspent : ∀ envelope ∈ l.overflow shard, l.live envelope.targetShard = false) :
      Act l
        { l with
          overflow := Function.update l.overflow shard []
          live := Function.update l.live shard false }

/-- Every envelope is in its lane, and what was routed to a shard that can be reached has been
received, or is in the channel, or waits in the overflow, in this order. -/
structure Ledger.Fifo (l : Ledger P) : Prop where
  lanes : ∀ lane source target, ∀ envelope ∈ l.channels lane source target, laneOf envelope = lane
  overflow : ∀ source, ∀ envelope ∈ l.overflow source,
    isTerminalRemoteEnvelope envelope = true ∧ l.known source envelope.targetShard = true
  order : ∀ source target, l.live target = true →
    routed source target l.history = received source target l.history ++
      l.channels .terminal source target ++ waiting target (l.overflow source)

section

variable (source target source' target' : ShardId) (history : List (Event P))
  (envelope : QueuedRemoteEnvelope P)

@[simp] theorem routed_routed :
    routed source target (history ++ [.routed source' envelope]) = routed source target history ++
        if source' = source ∧ envelope.targetShard = target ∧
          isTerminalRemoteEnvelope envelope = true then [envelope] else [] := by
  by_cases h : source' = source ∧ envelope.targetShard = target ∧
    isTerminalRemoteEnvelope envelope = true <;>
  simp [routed, routedTo, h]

@[simp] theorem routed_received :
    routed source target (history ++ [.received source' target' envelope]) =
      routed source target history := by
  simp [routed, routedTo]

@[simp] theorem received_routed : received source target (history ++ [.routed source' envelope]) =
      received source target history := by
  simp [received, receivedFrom]

@[simp] theorem received_received :
    received source target (history ++ [.received source' target' envelope]) =
      received source target history ++
        if source' = source ∧ target' = target ∧ isTerminalRemoteEnvelope envelope = true then
          [envelope]
        else [] := by
  by_cases h : source' = source ∧ target' = target ∧ isTerminalRemoteEnvelope envelope = true <;>
  simp [received, receivedFrom, h]

end

theorem laneOf_eq_terminal {envelope : QueuedRemoteEnvelope P} :
    laneOf envelope = .terminal ↔ isTerminalRemoteEnvelope envelope = true := by
  by_cases h : isTerminalRemoteEnvelope envelope = true <;> simp [laneOf, h]

section

variable {l l' : Ledger P}

/-- Envelopes join or leave a channel of their own lane. -/
theorem Ledger.Fifo.setChannel_lanes {lane lane' : Lane} {source target source' target' : ShardId}
    {envelopes : List (QueuedRemoteEnvelope P)} (h : l.Fifo)
    (henvelopes : ∀ envelope ∈ envelopes, laneOf envelope = lane) :
    ∀ envelope ∈ (l.setChannel lane source target envelopes).channels lane' source' target',
      laneOf envelope = lane' := by
  intro envelope hmem
  simp only [Ledger.setChannel] at hmem
  split at hmem
  · next heq =>
    obtain ⟨rfl, -, -⟩ := heq
    exact henvelopes envelope hmem
  · exact h.lanes lane' source' target' envelope hmem

variable (hact : Act l l') (h : l.Fifo)

include hact h

theorem Act.lanes (lane : Lane) (source target : ShardId) :
    ∀ envelope ∈ l'.channels lane source target, laneOf envelope = lane := by
  cases hact with
  | quiet | kept | refused | dropped | left => exact h.lanes lane source target
  | sent | flushed =>
    exact h.setChannel_lanes (forall_mem_concat (h.lanes _ _ _) rfl)
  | received lane' source' target' _ _ hchannel =>
    refine h.setChannel_lanes fun other hother => ?_
    exact h.lanes lane' source' target' other (by simp [hchannel, hother])

theorem Act.overflow (source : ShardId) : ∀ envelope ∈ l'.overflow source,
    isTerminalRemoteEnvelope envelope = true ∧ l'.known source envelope.targetShard = true := by
  intro other hother
  cases hact with
  | quiet | sent | refused | received => exact h.overflow source other hother
  | kept _ _ hterminal hknown =>
    simp only [update_apply] at hother
    split at hother
    · next heq =>
      subst heq
      rcases mem_append.1 hother with hold | hnew
      · exact h.overflow _ other hold
      · obtain rfl := mem_singleton.1 hnew
        exact ⟨hterminal, hknown⟩
    · exact h.overflow source other hother
  | flushed _ _ _ hoverflow | dropped _ _ _ hoverflow =>
    simp only [update_apply] at hother
    split at hother
    · next heq =>
      subst heq
      exact h.overflow _ other (by simp [hoverflow, hother])
    · exact h.overflow source other hother
  | left =>
  simp only [update_apply] at hother
  split at hother
  · cases hother
  · exact h.overflow source other hother

theorem Act.order (source target : ShardId) (hlive : l'.live target = true) :
    Threaded.routed source target l'.history = Threaded.received source target l'.history ++
      l'.channels .terminal source target ++ waiting target (l'.overflow source) := by
  have hbefore : l.live target = true := by
    cases hact with
    | quiet _ hquiet => exact hquiet target hlive
    | left =>
      simp only [update_apply] at hlive
      split at hlive
      · cases hlive
      · exact hlive
    | sent | kept | refused | flushed | dropped | received => exact hlive
  have horder := h.order source target hbefore
  cases hact with
  | quiet => exact horder
  | sent source' envelope hturn =>
    simp only [routed_routed, received_routed, Ledger.setChannel]
    by_cases hterminal : isTerminalRemoteEnvelope envelope = true
    · rw [laneOf_eq_terminal.2 hterminal]
      by_cases hpair : source' = source ∧ envelope.targetShard = target
      · obtain ⟨rfl, rfl⟩ := hpair
        have hnone := hturn hterminal
        simp [horder, hnone, hterminal]
      · rw [if_neg fun hall => hpair ⟨hall.1, hall.2.1⟩,
          if_neg fun hall => hpair ⟨hall.2.1.symm, hall.2.2.symm⟩, append_nil]
        exact horder
    · have hlane : Lane.terminal ≠ laneOf envelope :=
        fun heq => hterminal (laneOf_eq_terminal.1 heq.symm)
      simp [hterminal, hlane, horder]
  | kept source' envelope hterminal =>
    simp only [routed_routed, received_routed, update_apply, hterminal, and_true]
    by_cases hsource : source' = source
    · subst hsource
      by_cases htarget : envelope.targetShard = target <;> simp [horder, waiting, htarget]
    · rw [if_neg fun hall => hsource hall.1, if_neg fun heq => hsource heq.symm, append_nil]
      exact horder
  | refused source' envelope hdead =>
    have hother : ¬ (source' = source ∧ envelope.targetShard = target ∧
        isTerminalRemoteEnvelope envelope = true) := by
      rintro ⟨-, rfl, hterminal⟩
      simp [hdead hterminal] at hbefore
    simp only [routed_routed, received_routed, if_neg hother, append_nil]
    exact horder
  | flushed source' envelope _ hoverflow =>
    have hterminal := (h.overflow source' envelope (by simp [hoverflow])).1
    simp only [Ledger.setChannel, update_apply, laneOf_eq_terminal.2 hterminal]
    by_cases hsource : source = source'
    · subst hsource
      by_cases htarget : envelope.targetShard = target
      · subst htarget
        simp [horder, hoverflow, waiting]
      · simp [horder, hoverflow, waiting, htarget, Ne.symm htarget]
    · simp [horder, hsource]
  | dropped source' envelope _ hoverflow hdead =>
    have hterminal := (h.overflow source' envelope (by simp [hoverflow])).1
    by_cases hsource : source = source'
    · subst hsource
      have htarget : envelope.targetShard ≠ target := by
        rintro rfl
        simp [hdead hterminal] at hbefore
      simp [horder, hoverflow, waiting, htarget]
    · simp [horder, hsource]
  | received lane source' target' envelope _ hchannel =>
    have hlane : laneOf envelope = lane :=
      h.lanes lane source' target' envelope (by simp [hchannel])
    simp only [routed_received, received_received, Ledger.setChannel]
    by_cases hterminal : isTerminalRemoteEnvelope envelope = true
    · rw [laneOf_eq_terminal.2 hterminal] at hlane
      subst hlane
      by_cases hpair : source' = source ∧ target' = target
      · obtain ⟨rfl, rfl⟩ := hpair
        simp [horder, hchannel, hterminal]
      rw [if_neg fun hall => hpair ⟨hall.1, hall.2.1⟩,
        if_neg fun hall => hpair ⟨hall.2.1.symm, hall.2.2.symm⟩, append_nil]
      exact horder
    · have hother : Lane.terminal ≠ lane := fun heq =>
        hterminal (laneOf_eq_terminal.1 (hlane.trans heq.symm))
      simp [hterminal, hother, horder]
  | left _ hspent =>
  simp only [update_apply]
  split
  · next hsource =>
    subst hsource
    have hnone : waiting target (l.overflow source) = [] := by
      refine filter_eq_nil_iff.2 fun envelope hmem htarget => ?_
      have hgone := hspent envelope hmem
      rw [of_decide_eq_true htarget, hbefore] at hgone
      cases hgone
    rw [horder, hnone]
    rfl
  · exact horder

theorem Act.fifo : l'.Fifo :=
  ⟨hact.lanes h, hact.overflow h, hact.order h⟩

end

section

variable {w w' : System P} {shard source : ShardId} {envelope : QueuedRemoteEnvelope P}
  {phase : Phase P}

theorem live_eq_false : w.live shard = false ↔
    w.states shard = .failed ∨ (w.workers shard).phase.isGone = true := by
  simp [live, or_iff_not_imp_left]

/-- A ledger sees the overflow of a worker, and whether it has gone. -/
theorem setWorker_ledger (w : System P) (shard : ShardId) (worker : Worker P) :
    (w.setWorker shard worker).ledger = { w.ledger with
      overflow := update w.ledger.overflow shard worker.terminalOverflow
      live := update w.live shard
        (!decide (w.states shard = .failed) && !worker.phase.isGone) } := by
  refine Ledger.ext ?_ rfl rfl ?_ rfl <;> funext other
  · simp only [ledger, setWorker, update_apply]
    split <;> rfl
  · by_cases heq : other = shard <;> simp [ledger, live, setWorker, heq]

theorem setOverflow_ledger (w : System P) (shard : ShardId)
    (terminalOverflow : List (QueuedRemoteEnvelope P)) :
    (w.setOverflow shard terminalOverflow).ledger =
      { w.ledger with overflow := update w.ledger.overflow shard terminalOverflow } :=
  (setWorker_ledger w shard _).trans (congrArg (Ledger.mk _ _ _ · _) (update_eq_self shard w.live))

/-- A worker that has not gone changes nothing but its own loop. -/
theorem setWorker_ledger_eq {worker : Worker P} (hthere : (w.workers shard).phase.isGone = false)
    (hstays : worker.phase.isGone = false)
    (hoverflow : worker.terminalOverflow = (w.workers shard).terminalOverflow) :
    (w.setWorker shard worker).ledger = w.ledger := by
  have hlive : (!decide (w.states shard = .failed) && !worker.phase.isGone) = w.live shard := by
    rw [live, hthere, hstays]
  rw [setWorker_ledger, hlive, hoverflow, update_eq_self]
  exact congrArg (Ledger.mk · _ _ _ _) (update_eq_self shard w.ledger.overflow)

theorem setPhase_ledger (hthere : (w.workers shard).phase.isGone = false)
    (hstays : phase.isGone = false) : (w.setPhase shard phase).ledger = w.ledger :=
  setWorker_ledger_eq hthere hstays rfl

theorem leave_ledger (w : System P) (shard : ShardId) : (w.leave shard).ledger = { w.ledger with
      overflow := update w.ledger.overflow shard []
      live := update w.ledger.live shard false } := by
  rw [leave, setWorker_ledger]
  simp [Phase.isGone, ledger]

/-- What comes of an attempt to send at once. -/
inductive Attempt (w : System P) (source : ShardId) (envelope : QueuedRemoteEnvelope P) :
    Option (Except SendRejectedReason (System P)) → Prop
  | sent (hroom : (w.channels (laneOf envelope) source envelope.targetShard).length <
        w.config.shardPairCapacity) (hlive : w.live envelope.targetShard = true) :
      Attempt w source envelope (some (.ok (w.setChannel (laneOf envelope) source
        envelope.targetShard (w.channels (laneOf envelope) source envelope.targetShard ++
          [envelope]))))
  | full (hknown : w.ledger.known source envelope.targetShard = true) :
      Attempt w source envelope (some (.error .full))
  | closed (hdead : w.live envelope.targetShard = false) :
      Attempt w source envelope (some (.error .closed))
  | unknown (hunknown : w.ledger.known source envelope.targetShard = false) :
      Attempt w source envelope none

theorem routeRemoteLossless_attempt (w : System P) (source : ShardId)
    (envelope : QueuedRemoteEnvelope P) :
    Attempt w source envelope (w.routeRemoteLossless source envelope) := by
  unfold routeRemoteLossless
  dsimp only
  split
  · next hfailed => exact .closed (live_eq_false.2 (.inl hfailed))
  next hfailed =>
  split
  · next hunknown =>
    refine .unknown ?_
    simpa [ledger, or_iff_not_imp_left] using hunknown
  next hknown =>
  split
  · next hgone => exact .closed (live_eq_false.2 (.inr hgone))
  next hthere =>
  split
  · next hroom => exact .sent hroom (by simp [live, hfailed, hthere])
  · refine .full ?_
    simpa [ledger] using hknown

/-- The overflow of a worker holds nothing for a shard that can be reached. -/
def System.Spent (w : System P) (shard : ShardId) : Prop :=
  ∀ envelope ∈ (w.workers shard).terminalOverflow, w.live envelope.targetShard = false

/-- A terminal envelope that is routed now finds none of its kind in the overflow, or its channel is
full, or its shard cannot be reached. Routing to an unknown shard ends the worker. -/
def System.InTurn (w : System P) (source : ShardId) (envelope : QueuedRemoteEnvelope P) : Prop :=
  (envelope.targetShard ∉ w.shards ∨ envelope.targetShard = source → w.Spent source) ∧
  (isTerminalRemoteEnvelope envelope = true →
    (∀ other ∈ (w.workers source).terminalOverflow, other.targetShard ≠ envelope.targetShard) ∨
    w.config.shardPairCapacity ≤ (w.channels .terminal source envelope.targetShard).length ∨
    w.live envelope.targetShard = false)

/-- The same for the answer to a harvested envelope. -/
def System.OutboundInTurn (w : System P) (source : ShardId) : Phase P → Prop
  | .outbound envelope _ _ => w.InTurn source envelope
  | _ => True

/-- A move that passes no waiting envelope and drops none. -/
def System.Orderly (w : System P) : Move P → Prop
  | .route shard envelope => w.InTurn shard envelope
  | .routeOutbound shard => w.OutboundInTurn shard (w.workers shard).phase
  | .finish shard | .panic shard => w.Spent shard
  | _ => True

theorem System.InTurn.setPhase (h : w.InTurn source envelope)
    (hthere : (w.workers shard).phase.isGone = false) (hstays : phase.isGone = false) :
    (w.setPhase shard phase).InTurn source envelope := by
  have hledger : (w.setPhase shard phase).ledger = w.ledger := setPhase_ledger hthere hstays
  have hlive : (w.setPhase shard phase).live = w.live := congrArg Ledger.live hledger
  have hoverflow : ((w.setPhase shard phase).workers source).terminalOverflow =
      (w.workers source).terminalOverflow := congrFun (congrArg Ledger.overflow hledger) source
  constructor
  · intro hunknown other hmem
    rw [hoverflow] at hmem
    rw [hlive]
    exact h.1 hunknown other hmem
  · intro hterminal
    rw [hlive, hoverflow]
    exact h.2 hterminal

theorem leave_act (hspent : w.Spent shard) : Act w.ledger (w.leave shard).ledger := by
  rw [leave_ledger]
  exact .left shard hspent

theorem routed_act (hturn : w.InTurn source envelope) :
    Act w.ledger (w.routed source envelope).ledger := by
  have hattempt := routeRemoteLossless_attempt w source envelope
  unfold System.routed routeRemotePreservingTerminal
  revert hattempt
  generalize w.routeRemoteLossless source envelope = attempt
  intro hattempt
  cases hattempt with
  | sent hroom hlive =>
    refine .sent source envelope fun hterminal => ?_
    rcases hturn.2 hterminal with hnone | _ | hdead
    · exact filter_eq_nil_iff.2 fun other hmem htarget =>
        hnone other hmem (of_decide_eq_true htarget)
    · rw [laneOf_eq_terminal.2 hterminal] at hroom
      omega
    · rw [hdead] at hlive
      cases hlive
  | full hknown =>
    by_cases hterminal : isTerminalRemoteEnvelope envelope = true
    · simp only [hterminal, and_self, if_true]
      change Act w.ledger { (w.setOverflow source _).ledger with history := _ }
      rw [setOverflow_ledger]
      exact .kept source envelope hterminal hknown
    · simp only [hterminal]
      exact .refused source envelope fun hyes => absurd hyes hterminal
  | closed hdead =>
    exact .refused source envelope fun _ => hdead
  | unknown hunknown =>
  apply leave_act
  apply hturn.1
  simpa [ledger, or_iff_not_imp_left] using hunknown

/-- A move that leaves all envelopes where they are. -/
theorem Act.of_eq {l l' : Ledger P} (heq : l' = l) : Act l l' := by
  subst heq
  exact .quiet l'.live fun _ => id

theorem enterInbound_act (hthere : (w.workers shard).phase.isGone = false) (delivered : Nat) :
    Act w.ledger (w.enterInbound shard delivered).ledger :=
  .of_eq (setPhase_ledger hthere rfl)

/-- A round of the overflow drain. Nothing in the overflow is for an unknown shard. -/
theorem drainTerminalOverflow_act (hfifo : w.ledger.Fifo)
    (hthere : (w.workers shard).phase.isGone = false) (delivered : Nat) :
    Act w.ledger (w.drainTerminalOverflow shard delivered).ledger := by
  unfold drainTerminalOverflow
  split
  · exact enterInbound_act hthere delivered
  next envelope rest hoverflow =>
  have hmem : envelope ∈ (w.workers shard).terminalOverflow := by simp [hoverflow]
  have hattempt := routeRemoteLossless_attempt w shard envelope
  revert hattempt
  generalize w.routeRemoteLossless shard envelope = attempt
  intro hattempt
  -- taking the head off the overflow keeps the worker where it is
  have hnext (u : System P) (hsame : u.workers = w.workers) :
      ((u.setOverflow shard rest).setPhase shard (.overflow (delivered + 1))).ledger =
        { u.ledger with overflow := update u.ledger.overflow shard rest } := by
    rw [setPhase_ledger (by simpa [setOverflow, setWorker, hsame] using hthere) rfl,
      setOverflow_ledger]
  cases hattempt with
  | sent =>
    simp only
    rw [hnext (w.setChannel _ _ _ _) rfl]
    exact .flushed shard envelope rest hoverflow
  | full =>
    simp only [(hfifo.overflow shard envelope hmem).1, and_self, if_true]
    exact enterInbound_act hthere delivered
  | closed hdead =>
    simp only [reduceCtorEq, false_and, if_false]
    rw [hnext w rfl]
    exact .dropped shard envelope rest hoverflow fun _ => hdead
  | unknown hunknown =>
  have hknown := (hfifo.overflow shard envelope hmem).2
  rw [hunknown] at hknown
  cases hknown

section

variable (hthere : (w.workers shard).phase.isGone = false)

include hthere

theorem endDrain_act (drain : InboundDrain)
    (earlier nextStart : Nat) : Act w.ledger (w.endDrain shard drain earlier nextStart).ledger := by
  unfold endDrain
  dsimp only
  split <;> exact .of_eq (setWorker_ledger_eq hthere rfl rfl)

/-- A round of an inbound drain receives at most one envelope. -/
theorem drainRemoteInbound_act {outbound : Option (QueuedRemoteEnvelope P)} {drain : InboundDrain}
    {earlier : Nat} (hstep : w.drainRemoteInbound shard outbound drain earlier = some w') :
    Act w.ledger w'.ledger := by
  unfold drainRemoteInbound at hstep
  dsimp only at hstep
  split at hstep
  · cases hstep
    exact endDrain_act hthere _ _ _
  split at hstep
  · split at hstep
    · cases hstep
      exact endDrain_act hthere _ _ _
    obtain ⟨source, -, hreceive⟩ := Option.bind_eq_some_iff.1 hstep
    split at hreceive
    · next envelope rest hchannel =>
      cases hreceive
      rw [setPhase_ledger (w := (w.setChannel drain.lane source shard rest).note _) hthere
        (by cases outbound <;> rfl)]
      exact .received drain.lane source shard envelope rest hchannel
    · cases hreceive
      exact .of_eq (setPhase_ledger hthere rfl)
  · cases hstep
    exact endDrain_act hthere _ _ _

theorem obey_act (command : Command) {otherwise : Phase P} (hstays : otherwise.isGone = false) :
    Act w.ledger (w.obey shard command otherwise).ledger := by
  cases command with
  | nothing => exact .of_eq (setPhase_ledger hthere hstays)
  | run | shutdown | disconnected => exact .of_eq (setPhase_ledger hthere rfl)

end

/-- Marking a shard makes none reachable. -/
theorem mark_act {state : LiveShardState}
    (hstate : state = .failed ∨ (w.workers shard).phase.isGone = true) :
    Act w.ledger ({ w with states := update w.states shard state } : System P).ledger := by
  refine .quiet _ fun other hlive => ?_
  simp only [live, update_apply] at hlive
  by_cases heq : other = shard
  · subst heq
    rcases hstate with rfl | hgone
    · simp at hlive
    · simp [hgone] at hlive
  · rw [if_neg heq] at hlive
    exact hlive

theorem step_act {move : Move P} (hfifo : w.ledger.Fifo) (horderly : w.Orderly move)
    (hstep : w.step move = some w') : Act w.ledger w'.ledger := by
  -- a move that its phase does not allow is no step
  cases move with (simp only [step] at hstep; split at hstep <;> try cases hstep)
  | drainOverflow =>
    next delivered hphase => exact drainTerminalOverflow_act hfifo (by rw [hphase]; rfl) delivered
  | drainInbound =>
    next drain earlier hphase => exact drainRemoteInbound_act (by rw [hphase]; rfl) hstep
  | routeOutbound shard =>
    next envelope drain earlier hphase =>
    have hthere : (w.workers shard).phase.isGone = false := by rw [hphase]; rfl
    simp only [Orderly, hphase, OutboundInTurn] at horderly
    have hturn : (w.setPhase shard (.inbound drain earlier)).InTurn shard envelope :=
      horderly.setPhase hthere rfl
    have hact := routed_act hturn
    rwa [setPhase_ledger hthere rfl] at hact
  | poll _ command | wake _ command =>
    next hphase => exact obey_act (by rw [hphase]; rfl) command rfl
  | route => exact routed_act horderly
  | stepped shard =>
    next hphase =>
    have hthere : (w.workers shard).phase.isGone = false := by rw [hphase]; rfl
    split <;> exact .of_eq (setPhase_ledger hthere rfl)
  | drained => next hphase => exact .of_eq (setPhase_ledger (by rw [hphase]; rfl) rfl)
  | finish | panic => exact leave_act horderly
  | markFailed => exact mark_act (.inl rfl)
  | markStopped => next hgone => exact mark_act (.inr hgone)

end

section

variable {w : System P} {shard source : ShardId} {drain : InboundDrain} {n : Nat} (earlier : Nat)

/-- The source whose channel an inbound drain is at. -/
def System.sourceAt (w : System P) (shard : ShardId) (lane : Lane) (offset : Nat) :
    Option ShardId :=
  let sources := w.sources shard
  sources[((w.workers shard).drainStart lane % sources.length + offset) % sources.length]?

/-- A drain with budget left takes the head of the channel it is at, or passes an empty one. -/
theorem step_drainInbound (hbudget : drain.delivered < drain.budget)
    (hoffset : drain.offset < (w.sources shard).length)
    (hsource : source ∈ w.sourceAt shard drain.lane drain.offset) :
    ∃ w', (w.setPhase shard (.inbound drain earlier)).step (.drainInbound shard none) = some w' ∧
      match w.channels drain.lane source shard with
      | [] => w' = w.setPhase shard (.inbound { drain with offset := drain.offset + 1 } earlier)
      | envelope :: rest => w'.channels drain.lane source shard = rest ∧
          w'.history = w.history ++ [.received source shard envelope] := by
  have hguard : ¬(drain.budget = 0 ∨ w.sources shard = []) := by
    simp [ne_nil_of_length_pos (Nat.zero_lt_of_lt hoffset)]
    omega
  unfold sourceAt sources at hsource
  unfold sources at hoffset hguard
  simp only [step, setPhase, setWorker, update_self, drainRemoteInbound, sources, if_neg hguard,
    if_pos hoffset, if_neg (Nat.not_le.2 hbudget), Option.mem_def.1 hsource, bind, Option.bind_some]
  cases w.channels drain.lane source shard with
  | nil => exact ⟨_, rfl, by simp⟩
  | cons => exact ⟨_, rfl, by simp [System.note, setChannel], rfl⟩

/-- Progress of an inbound drain, whatever the other threads did before. With budget left and
envelopes in a channel that it has not passed, it takes the head of the first such channel, by moves
of its own and at most one for each source. -/
theorem drain_takes_head (drain : InboundDrain) (hbudget : drain.delivered < drain.budget)
    (hoffset : drain.offset + n < (w.sources shard).length)
    (hwaits : ∃ source ∈ w.sourceAt shard drain.lane (drain.offset + n),
      w.channels drain.lane source shard ≠ []) :
    ∃ k ≤ n, ∃ w' source envelope rest, runAll step (fun _ _ => True)
        (replicate (k + 1) (.drainInbound shard none))
        (w.setPhase shard (.inbound drain earlier)) = some w' ∧
      w.channels drain.lane source shard = envelope :: rest ∧
      w'.channels drain.lane source shard = rest ∧
      w'.history = w.history ++ [.received source shard envelope] := by
  induction n generalizing drain with
  | zero =>
    obtain ⟨source, hsource, hwaits⟩ := hwaits
    obtain ⟨w', hstep, htaken⟩ := step_drainInbound earlier hbudget hoffset hsource
    obtain ⟨envelope, rest, hchannel⟩ := exists_cons_of_ne_nil hwaits
    rw [hchannel] at htaken
    exact ⟨0, Nat.le_refl 0, w', source, envelope, rest, by simp [runAll, hstep], hchannel, htaken⟩
  | succ n ih =>
  have hsome : (w.sourceAt shard drain.lane drain.offset).isSome = true := by
    simp [sourceAt, Nat.mod_lt _ (Nat.zero_lt_of_lt hoffset)]
  obtain ⟨source, hsource⟩ := Option.isSome_iff_exists.1 hsome
  obtain ⟨w', hstep, hcases⟩ :=
    step_drainInbound earlier hbudget (Nat.lt_of_add_right_lt hoffset) hsource
  cases hchannel : w.channels drain.lane source shard with
  | cons envelope rest =>
    rw [hchannel] at hcases
    exact ⟨0, Nat.zero_le _, w', source, envelope, rest, by simp [runAll, hstep], hchannel, hcases⟩
  | nil =>
    -- the channel is passed, and nothing else is different
    rw [hchannel] at hcases
    have hnext : drain.offset + (n + 1) = drain.offset + 1 + n := by omega
    rw [hnext] at hoffset hwaits
    obtain ⟨k, hk, last, source, envelope, rest, hrun, hrest⟩ :=
      ih { drain with offset := drain.offset + 1 } hbudget hoffset hwaits
    refine ⟨k + 1, Nat.succ_le_succ hk, last, source, envelope, rest, ?_, hrest⟩
    rw [replicate_succ, runAll, if_pos trivial, hstep, hcases]
    exact hrun

end

section

variable {w : System P}

instance (w : System P) (shard : ShardId) : Decidable (w.Spent shard) :=
  inferInstanceAs (Decidable (∀ envelope ∈ _, _))

instance (w : System P) (source : ShardId) (envelope : QueuedRemoteEnvelope P) :
    Decidable (w.InTurn source envelope) :=
  inferInstanceAs (Decidable (_ ∧ _))

instance (w : System P) (source : ShardId) : DecidablePred (w.OutboundInTurn source)
  | .outbound envelope _ _ => inferInstanceAs (Decidable (w.InTurn source envelope))
  | .overflow _ | .inbound _ _ | .poll _ | .step _ | .park | .shutdown | .closing | .gone =>
    inferInstanceAs (Decidable True)

instance (w : System P) : DecidablePred w.Orderly
  | .route shard envelope => inferInstanceAs (Decidable (w.InTurn shard envelope))
  | .routeOutbound shard =>
    inferInstanceAs (Decidable (w.OutboundInTurn shard (w.workers shard).phase))
  | .finish shard | .panic shard => inferInstanceAs (Decidable (w.Spent shard))
  | .drainOverflow _ | .drainInbound _ _ | .poll _ _ | .stepped _ _ | .wake _ _ | .drained _
  | .markFailed _ | .markStopped _ => inferInstanceAs (Decidable True)

/-- In a run of orderly moves, a shard that can be reached receives the terminal envelopes of
another in the order they were routed in: what is not received yet is in the channel or waits behind
it. The moves of the shards interleave in any way, and a shard may end when nothing of its own waits
for one that can be reached. -/
theorem terminal_lane_fifo {shards : List ShardId} {config : ThreadedRuntimeConfig}
    (hrun : Run step Orderly (.initial shards config) w) {source target : ShardId}
    (hlive : w.live target = true) :
    routed source target w.history = received source target w.history ++
        w.channels .terminal source target ++ waiting target (w.workers source).terminalOverflow ∧
      received source target w.history <+: routed source target w.history := by
  have hfifo : w.ledger.Fifo := by
    refine hrun.invariant (I := (·.ledger.Fifo)) ?_ fun _ _ _ h horderly hstep =>
      (step_act h horderly hstep).fifo h
    constructor
    case lanes => simp [ledger, initial]
    case overflow => simp [ledger, initial]
    case order => simp [ledger, initial, routed, received, waiting]
  have horder := hfifo.order source target hlive
  refine ⟨horder, ?_⟩
  exact ⟨w.channels .terminal source target ++ waiting target (w.workers source).terminalOverflow,
    by rw [← append_assoc]; exact horder.symm⟩

/-- User code that carries nothing. -/
def bare : Payload := ⟨Unit, Unit, Unit, Unit, Unit⟩

/-- A reply to a call of shard 1. -/
def replyTo (callId : CallId) : QueuedRemoteEnvelope bare :=
  .callReply callId ⟨0, 1, 0, 0⟩ .closed

def callIdOf : QueuedRemoteEnvelope P → Option CallId
  | .callReply callId _ _ => some callId
  | _ => none

/-- Shard 0 goes from the top of its loop to the command queue: both lanes are empty. -/
def idlePass : List (Move bare) :=
  List.replicate 4 (.drainInbound 0 none)

/-- With room for one envelope, the second reply goes to the overflow; the third finds the channel
emptied and passes it. A worker that shuts down drops what its overflow holds. -/
theorem overflow_is_passed_and_dropped :
    (∃ w : System bare, Run step (fun _ _ => True) (.initial [0, 1] ⟨1, 64⟩) w ∧
      w.live 1 = true ∧ (routed 0 1 w.history).map callIdOf = [some 1, some 2, some 3] ∧
      (received 0 1 w.history).map callIdOf = [some 1, some 3, some 2]) ∧
    ∃ w : System bare, Run step (fun _ _ => True) (.initial [0, 1] ⟨1, 64⟩) w ∧
      w.live 1 = true ∧ (routed 0 1 w.history).map callIdOf = [some 1, some 2] ∧
      (received 0 1 w.history).map callIdOf = [some 1] ∧ w.channels .terminal 0 1 = [] ∧
      (w.workers 0).phase.isGone = true := by
  constructor
  · obtain ⟨w, hrun, hw⟩ := exists_run step (fun _ _ => True) (.initial [0, 1] ⟨1, 64⟩)
      ([.drainOverflow 0] ++ idlePass ++ [.poll 0 .nothing, .route 0 (replyTo 1),
        .route 0 (replyTo 2), .drainOverflow 1, .drainInbound 1 none, .route 0 (replyTo 3),
        .drainInbound 1 none, .stepped 0 1, .drainOverflow 0, .drainInbound 1 none])
      (fun w => w.live 1 = true ∧ (routed 0 1 w.history).map callIdOf = [some 1, some 2, some 3] ∧
        (received 0 1 w.history).map callIdOf = [some 1, some 3, some 2]) (by decide +kernel)
    exact ⟨w, hrun, of_decide_eq_true hw⟩
  obtain ⟨w, hrun, hw⟩ := exists_run step (fun _ _ => True) (.initial [0, 1] ⟨1, 64⟩)
    ([.drainOverflow 0] ++ idlePass ++ [.poll 0 .nothing, .route 0 (replyTo 1),
      .route 0 (replyTo 2), .stepped 0 1, .drainOverflow 0] ++ idlePass ++
      [.poll 0 .shutdown, .drained 0, .finish 0, .drainOverflow 1, .drainInbound 1 none])
    (fun w => w.live 1 = true ∧ (routed 0 1 w.history).map callIdOf = [some 1, some 2] ∧
      (received 0 1 w.history).map callIdOf = [some 1] ∧
      (w.channels .terminal 0 1).isEmpty = true ∧ (w.workers 0).phase.isGone = true)
    (by decide +kernel)
  obtain ⟨hlive, hrouted, hreceived, hchannel, hgone⟩ := of_decide_eq_true hw
  exact ⟨w, hrun, hlive, hrouted, hreceived, isEmpty_iff.1 hchannel, hgone⟩

/-- Two replies, the second of them through the overflow. -/
theorem terminal_lane_fifo_of_two :
    ∃ w : System bare, (received 0 1 w.history).map callIdOf = [some 1, some 2] ∧
      received 0 1 w.history <+: routed 0 1 w.history := by
  obtain ⟨w, hrun, hw⟩ := exists_run step Orderly (.initial [0, 1] ⟨1, 64⟩)
    ([.drainOverflow 0] ++ idlePass ++ [.poll 0 .nothing, .route 0 (replyTo 1),
      .route 0 (replyTo 2), .drainOverflow 1, .drainInbound 1 none, .stepped 0 1,
      .drainOverflow 0, .drainInbound 1 none])
    (fun w => w.live 1 = true ∧ (received 0 1 w.history).map callIdOf = [some 1, some 2])
    (by decide +kernel)
  obtain ⟨hlive, hreceived⟩ := of_decide_eq_true hw
  exact ⟨w, hreceived, (terminal_lane_fifo hrun hlive).2⟩

end

end Tina.Threaded
