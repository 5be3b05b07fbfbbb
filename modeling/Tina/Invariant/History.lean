import Tina.Invariant.Acts

/-!
The history only grows, and what an act appends is of the few sorts that belong to its
kind. An invariant about some sort of event is therefore no concern of most acts.
-/

namespace Tina

open List Happening

variable {h : Host} {s t : Runtime h} {kind : Kind}

/-- The sort of an event. -/
inductive Tag where
  | accepted
  | received
  | slotReserved
  | slotReleased
  | terminalDelivered
  | terminalLost
  | turn
  | returned
  | callStarted
  | continued
  | answered
  | outcomeDelivered
  | callCancelled
  | handleMoved
  | discarded
  | stopped
  | ordinalAssigned
  | restartedHere
  | spawnSettled
  | routed
deriving DecidableEq

def Happening.tag {P : Payload} : Happening P → Tag
  | .accepted .. => .accepted
  | .received .. => .received
  | .slotReserved .. => .slotReserved
  | .slotReleased .. => .slotReleased
  | .terminalDelivered .. => .terminalDelivered
  | .terminalLost .. => .terminalLost
  | .turn .. => .turn
  | .returned .. => .returned
  | .callStarted .. => .callStarted
  | .continued .. => .continued
  | .answered .. => .answered
  | .outcomeDelivered .. => .outcomeDelivered
  | .callCancelled .. => .callCancelled
  | .handleMoved .. => .handleMoved
  | .discarded .. => .discarded
  | .stopped .. => .stopped
  | .ordinalAssigned .. => .ordinalAssigned
  | .restartedHere .. => .restartedHere
  | .spawnSettled .. => .spawnSettled
  | .routed .. => .routed

/-- The sorts of events that acts of a kind append. -/
def Kind.tags : Kind → List Tag
  | .queue => [.accepted, .received, .continued]
  | .turn => [.turn]
  | .call => [.accepted, .outcomeDelivered, .callCancelled, .handleMoved, .discarded]
  | .start => [.callStarted]
  | .answer => [.answered]
  | .returned => [.returned]
  | .net => [.routed]
  | .own => [.slotReserved, .ordinalAssigned]
  | .restart => [.slotReserved, .restartedHere]
  | .settle => [.slotReserved, .slotReleased, .terminalDelivered]
  | .stop => [.stopped, .slotReleased, .terminalDelivered]
  | .request => [.ordinalAssigned, .routed]
  | .reply => [.spawnSettled]
  | .register | .host | .restartHosted | .restartRemote | .prune _ | .tombstone
  | .supervise | .collect | .connect => []

open Kind

/-- The history of `t` is that of `s` and events of the given sorts. -/
def Appends (tags : List Tag) (s t : Runtime h) : Prop :=
  ∃ happenings, t.history = s.history ++ happenings ∧ ∀ happening ∈ happenings, happening.tag ∈ tags

namespace Appends

variable {tags : List Tag} {happening : Happening h}

theorem none (hhistory : t.history = s.history) : Appends tags s t :=
  ⟨[], by simp [hhistory], by simp⟩

theorem one (hhistory : t.history = s.history ++ [happening]) (htag : happening.tag ∈ tags) :
    Appends tags s t :=
  ⟨[happening], hhistory, by simpa using htag⟩

theorem two {first second : Happening h} (hhistory : t.history = s.history ++ [first] ++ [second])
    (hfirst : first.tag ∈ tags) (hsecond : second.tag ∈ tags) : Appends tags s t :=
  ⟨[first, second], by simp [hhistory], by simp [hfirst, hsecond]⟩

theorem trans {u : Runtime h} (hst : Appends tags s t) (htu : Appends tags t u) :
    Appends tags s u := by
  obtain ⟨first, hfirst, hfirstTags⟩ := hst
  obtain ⟨second, hsecond, hsecondTags⟩ := htu
  refine ⟨first ++ second, by rw [hsecond, hfirst, append_assoc], ?_⟩
  intro happening hmem
  exact (mem_append.1 hmem).elim (hfirstTags happening) (hsecondTags happening)

theorem mem (happends : Appends tags s t) (hmem : happening ∈ s.history) :
    happening ∈ t.history := by
  obtain ⟨_, hhistory, -⟩ := happends
  rw [hhistory]
  exact mem_append_left _ hmem

/-- An event of another sort was there before. -/
theorem mem_of_tag (happends : Appends tags s t) (hmem : happening ∈ t.history)
    (htag : happening.tag ∉ tags) : happening ∈ s.history := by
  obtain ⟨_, hhistory, htags⟩ := happends
  rw [hhistory, mem_append] at hmem
  exact hmem.resolve_right fun hnew => htag (htags happening hnew)

end Appends

theorem Runtime.Settle.appends {index : Nat} (hsettle : Runtime.Settle index s t) :
    Appends [.slotReleased, .terminalDelivered] s t := by
  cases hsettle with
  | unreserved => exact .none rfl
  | released | delivered => exact .one rfl (by simp [tag])

section

variable {P : Payload} {handle : Option HandleId} {happening : Happening P}

theorem tag_of_mem_handleEvents {state : CallHandleState}
    (hmem : happening ∈ handleEvents handle state) :
    happening.tag = .handleMoved := by
  obtain ⟨_, -, rfl⟩ := mem_map.1 hmem
  rfl

theorem tag_of_mem_outcomeEvents {callId : CallId} {outcome : CallOutcome P.Message}
    (hmem : happening ∈ outcomeEvents callId handle outcome) :
    happening.tag = .handleMoved ∨ happening.tag = .outcomeDelivered := by
  rcases mem_append.1 hmem with hmem | hmem
  · exact .inl (tag_of_mem_handleEvents hmem)
  · rw [mem_singleton.1 hmem]
    exact .inr rfl

theorem tag_of_mem_cancelEvents {cause : CancelCause} {call : PendingIsolateCall P}
    (hmem : happening ∈ cancelEvents cause call) :
    happening.tag = .handleMoved ∨ happening.tag = .callCancelled := by
  rcases mem_append.1 hmem with hmem | hmem
  · exact .inl (tag_of_mem_handleEvents hmem)
  · rw [mem_singleton.1 hmem]
    exact .inr rfl

theorem EntryStep.tags {known : Option MessageCallContext → Prop} {entry entry' : RegisteredEntry P}
    {happenings : List (Happening P)} (hstep : EntryStep known entry entry' happenings) :
    ∀ happening ∈ happenings, happening.tag ∈ queue.tags := by
  cases hstep <;> simp [tag, Kind.tags]

end

theorem Act.appends (hact : Act kind s t) : Appends kind.tags s t := by
  cases hact with
  | entry _ hstep => exact ⟨_, rfl, hstep.tags⟩
  | turn | continued | started | answered | returned | discarded | openedLocally
  | routed | owned | restarted | replied | adopted =>
    exact .one rfl (by simp [tags, tag])
  | refused | completed =>
    refine ⟨_, rfl, fun happening hmem => ?_⟩
    rcases tag_of_mem_outcomeEvents hmem with htag | htag <;> simp [htag, tags]
  | cancelled =>
    refine ⟨_, rfl, fun happening hmem => ?_⟩
    obtain ⟨_, -, hmem⟩ := mem_flatMap.1 hmem
    rcases tag_of_mem_cancelEvents hmem with htag | htag <;> simp [htag, tags]
  | observed | restartedObserved | requested | requestRefused =>
    exact .two rfl (by simp [tags, tag]) (by simp [tags, tag])
  | unreserved => exact ⟨_, rfl, by simp [tags, tag]⟩
  | settled hsettle =>
    obtain ⟨happenings, hhistory, htags⟩ := hsettle.appends
    refine ⟨happenings, hhistory, fun happening hmem => ?_⟩
    have htag := htags happening hmem
    simp only [mem_cons, not_mem_nil, or_false] at htag
    rcases htag with htag | htag <;> simp [htag, tags]
  | @stopped _ _ index entry path hentry hlive hcleaned hsettle =>
    have hmark : Appends stop.tags s (s.mark index entry path) :=
      .one rfl (by simp [tags, tag, Runtime.stopEvent])
    rcases hsettle with ⟨rfl, -⟩ | ⟨_, _, -, -, -, hsettle⟩
    · exact hmark
    obtain ⟨happenings, hhistory, htags⟩ := hsettle.appends
    refine hmark.trans ⟨happenings, hhistory, fun happening hmem => ?_⟩
    exact mem_cons_of_mem _ (htags happening hmem)
  | _ => exact .none rfl

end Tina
