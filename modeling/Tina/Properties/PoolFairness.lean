import Tina.Pool.World

/-!
Who gets the resources of a pool. Callers are served in the order their messages were handled in,
and none waits while a resource lies idle, unless a message finds a closed dispatch while a caller
waits: the resource of that dispatch goes to the idle queue, past the waiters.
-/

namespace Tina.Pool

open Lib List WorkerPool Option Effect

variable {H : Type} {slotState : DeferredSlotId → DeferredSlotState} {slot : DeferredSlotId}
  {fresh : Nat}

section

def Effect.grantee : Effect H → Option DeferredSlotId
  | .replyTo slot (.acquire (.acquired _)) => some slot
  | _ => none

/-- The callers that got a lease, in that order. -/
def granted (history : List (Effect H)) : List DeferredSlotId :=
  history.filterMap grantee

@[simp] theorem granted_append (history more : List (Effect H)) :
    granted (history ++ more) = granted history ++ granted more :=
  filterMap_append

theorem granted_quiet {effect : Effect H} (h : effect.Quiet) : granted [effect] = [] := by
  cases effect with
  | replyTo _ reply =>
    cases reply with
    | acquire outcome => cases outcome <;> first | rfl | cases h
    | _ => rfl
  | _ => rfl

/-- Callers are numbered as they arrive, and `fresh` is the next number. Those that were served came
before those that wait, and none waits while something is idle. -/
structure Fair (slotState : DeferredSlotId → DeferredSlotState) (fresh : Nat) (a : Account H) :
    Prop where
  served : (granted a.effects).Pairwise (· < ·)
  queue : a.parked.Pairwise (· < ·)
  bound : ∀ slot, slot ∈ granted a.effects ∨ slot ∈ a.parked → slot < fresh
  caller : ∀ slot, a.errand = .caller slot →
    slot < fresh ∧ ∀ other, other ∈ granted a.effects ∨ other ∈ a.parked → other < slot
  behind : ∀ slot ∈ granted a.effects, ∀ waiter ∈ a.parked, slotState waiter = .opened →
    slot < waiter
  conserving : ∀ waiter ∈ a.parked, slotState waiter = .opened → a.idle = []
  settled : a.isClosed = true → a.parked = []

variable {a b : Account H}

section

variable (h : Fair slotState fresh a)

include h

/-- The first waiter is served. -/
theorem Fair.serve {parked : List DeferredSlotId} (hparked : a.parked = slot :: parked)
    (hlive : slotState slot = .opened) (lease : PoolLease H) (states : List ResourceState) :
    Fair slotState fresh
      { a with
        states
        parked
        errand := .nothing
        effects := a.effects ++ [acquiredBy slot lease] } := by
  have hgranted : granted (a.effects ++ [acquiredBy slot lease]) = granted a.effects ++ [slot] := by
    rw [granted_append]
    rfl
  have hqueue := h.queue
  rw [hparked, pairwise_cons] at hqueue
  constructor
  case served =>
    simp only [hgranted]
    exact pairwise_concat h.served fun old hold => h.behind old hold _ (by simp [hparked]) hlive
  case queue => exact hqueue.2
  case bound =>
    intro other hother
    apply h.bound
    simp only [hgranted, mem_append, mem_singleton] at hother
    rcases hother with (hold | rfl) | hwait
    · exact .inl hold
    · exact .inr (by simp [hparked])
    · exact .inr (by simp [hparked, hwait])
  case caller =>
    intro other hother
    cases hother
  case behind =>
    intro served hserved waiter hwaiter hopen
    simp only [hgranted, mem_append, mem_singleton] at hserved
    rcases hserved with hold | rfl
    · exact h.behind served hold waiter (by simp [hparked, hwaiter]) hopen
    · exact hqueue.1 waiter hwaiter
  case conserving =>
    intro waiter hwaiter hopen
    exact h.conserving waiter (by simp [hparked, hwaiter]) hopen
  case settled =>
    intro hclosed
    have hnone := h.settled hclosed
    simp [hparked] at hnone

/-- Nothing is served, and the waiters that stay keep their order. -/
theorem Fair.keep (hparked : b.parked.Sublist a.parked)
    (hgranted : granted b.effects = granted a.effects)
    (hidle : (∃ waiter ∈ b.parked, slotState waiter = .opened) → a.idle = [] → b.idle = [])
    (herrand : b.errand = a.errand ∨ ∀ slot, b.errand ≠ .caller slot)
    (hclosed : b.isClosed = true → a.isClosed = true ∨ b.parked = []) :
    Fair slotState fresh b := by
  have hsub := hparked.subset
  constructor
  case served => rw [hgranted]; exact h.served
  case queue => exact h.queue.sublist hparked
  case bound =>
    intro slot hslot
    rw [hgranted] at hslot
    exact h.bound slot (hslot.imp_right fun hmem => hsub hmem)
  case caller =>
    intro slot hslot
    rcases herrand with heq | hnot
    · obtain ⟨hlt, hbefore⟩ := h.caller slot (heq ▸ hslot)
      refine ⟨hlt, fun other hother => ?_⟩
      rw [hgranted] at hother
      exact hbefore other (hother.imp_right fun hmem => hsub hmem)
    · exact absurd hslot (hnot slot)
  case behind =>
    intro slot hslot waiter hwaiter hopen
    rw [hgranted] at hslot
    exact h.behind slot hslot waiter (hsub hwaiter) hopen
  case conserving =>
    intro waiter hwaiter hopen
    exact hidle ⟨waiter, hwaiter, hopen⟩ (h.conserving waiter (hsub hwaiter) hopen)
  case settled =>
    intro hshut
    rcases hclosed hshut with hbefore | hnone
    · have hempty := h.settled hbefore
      rw [hempty] at hparked
      exact sublist_nil.1 hparked
    · exact hnone

/-- A caller that arrives gets an idle resource at once. Nobody waits then. -/
theorem Fair.admitted {resourceId : Nat} {idle : List Nat} (herrand : a.errand = .caller slot)
    (hidle : a.idle = resourceId :: idle) (lease : PoolLease H) (states : List ResourceState) :
    Fair slotState fresh
      { a with
        states
        idle
        errand := .nothing
        effects := a.effects ++ [acquiredBy slot lease] } := by
  have hgranted : granted (a.effects ++ [acquiredBy slot lease]) = granted a.effects ++ [slot] := by
    rw [granted_append]
    rfl
  obtain ⟨hfresh, hlast⟩ := h.caller slot herrand
  have hnobody : ∀ waiter ∈ a.parked, slotState waiter ≠ .opened := by
    intro waiter hwaiter hopen
    have hnone := h.conserving waiter hwaiter hopen
    simp [hidle] at hnone
  constructor
  case served =>
    simp only [hgranted]
    exact pairwise_concat h.served fun old hold => hlast old (.inl hold)
  case queue => exact h.queue
  case bound =>
    intro other hother
    simp only [hgranted, mem_append, mem_singleton] at hother
    rcases hother with (hold | rfl) | hwait
    · exact h.bound other (.inl hold)
    · exact hfresh
    · exact h.bound other (.inr hwait)
  case caller =>
    intro other hother
    cases hother
  case behind =>
    intro _ _ waiter hwaiter hopen
    exact absurd hopen (hnobody waiter hwaiter)
  case conserving =>
    intro waiter hwaiter hopen
    exact absurd hopen (hnobody waiter hwaiter)
  case settled => exact h.settled

/-- A caller that arrives waits behind all others, since nothing is idle. -/
theorem Fair.parked (herrand : a.errand = .caller slot)
    (hidle : a.idle = []) (hopen : a.isClosed = false) :
    Fair slotState fresh { a with parked := a.parked ++ [slot], errand := .nothing } := by
  obtain ⟨hfresh, hlast⟩ := h.caller slot herrand
  constructor
  case served => exact h.served
  case queue =>
    exact pairwise_concat h.queue fun old hold => hlast old (.inr hold)
  case bound =>
    intro other hother
    simp only [mem_append, mem_singleton] at hother
    rcases hother with hold | hwait | rfl
    · exact h.bound other (.inl hold)
    · exact h.bound other (.inr hwait)
    · exact hfresh
  case caller =>
    intro other hother
    cases hother
  case behind =>
    intro served hserved waiter hwaiter hlive
    simp only [mem_append, mem_singleton] at hwaiter
    rcases hwaiter with hwait | rfl
    · exact h.behind served hserved waiter hwait hlive
    · exact hlast served (.inl hserved)
  case conserving =>
    intro _ _ _
    exact hidle
  case settled =>
    intro hclosed
    rw [hopen] at hclosed
    cases hclosed

end

/-- Every act of a message keeps the order, a recovery apart. -/
theorem Act.fair (hact : Act slotState False a b) (h : Fair slotState fresh a) :
    Fair slotState fresh b := by
  cases hact with
  | recover _ _ hrecovers => exact hrecovers.elim
  | quiet _ hquiet =>
    exact h.keep (.refl _) (by simp [granted_quiet hquiet]) (fun _ h => h) (.inl rfl) .inl
  | unpark =>
    exact h.keep filter_sublist rfl (fun _ h => h) (.inl rfl) .inl
  | keep => exact h.keep (.refl _) rfl (fun _ h => h) (.inr (by simp)) .inl
  | retire =>
    exact h.keep (.refl _) (by simp [granted, grantee]) (fun _ h => h) (.inl rfl) .inl
  | drainBack =>
    exact h.keep (.refl _) rfl (fun _ h => h) (.inr (by simp)) .inl
  | shelve =>
    exact h.keep (.refl _) rfl (fun _ hidle => by simp [hidle]) (.inl rfl) .inl
  | close => exact h.keep (nil_sublist _) rfl (fun _ h => h) (.inl rfl) fun _ => .inr rfl
  | putBack =>
    exact h.keep (nil_sublist _) rfl (by simp) (.inr (by simp)) fun _ => .inr rfl
  | refill =>
    exact h.keep (nil_sublist _) rfl (by simp) (.inl rfl) fun _ => .inr rfl
  | handOver _ _ _ lease _ _ hparked hlive =>
    exact h.serve hparked hlive lease _
  | refillOver _ _ lease _ hparked hlive herrand =>
    have hserve :=
      h.serve hparked hlive lease (a.states.set lease.resourceId (.leased lease.generation))
    rwa [← herrand] at hserve
  | grant _ lease _ hidle _ herrand => exact h.admitted herrand hidle lease _
  | park _ hidle hopen herrand => exact h.parked herrand hidle hopen

end

section

variable {w : World H} {config : PoolConfig} {a : Account H} {pool : WorkerPool H}

/-- The sweep of the dispatches grants nothing and moves no waiter. Without a closed dispatch it
leaves the idle queue alone. -/
theorem WorkerPool.sweepFrom_queue {pool' : WorkerPool H} {notes : List (Effect H)}
    {fuel i : Nat} (hrun : sweepFrom slotState fuel i pool = some (pool', notes)) :
    pool'.waiters = pool.waiters ∧ pool'.closed = pool.closed ∧ granted notes = [] ∧
      ((∀ entry ∈ pool.inFlight, slotState entry.slot ≠ .closed) → pool'.idle = pool.idle) := by
  induction fuel generalizing pool i notes with
  | zero =>
    cases hrun
    exact ⟨rfl, rfl, rfl, fun _ => rfl⟩
  | succ _ ih =>
  unfold sweepFrom at hrun
  split at hrun
  · cases hrun
    exact ⟨rfl, rfl, rfl, fun _ => rfl⟩
  next entry hentry =>
  have hmem : entry ∈ pool.inFlight := mem_of_getElem? hentry
  split at hrun
  · exact ih hrun
  · obtain ⟨hwaiters, hclosed, hnotes, hidle⟩ := ih hrun
    exact ⟨hwaiters, hclosed, hnotes, fun hnone =>
      hidle fun other hother => hnone other (mem_of_mem_swapRemove hother)⟩
  next hslot =>
  obtain ⟨⟨middle, first⟩, hrecover, hrest⟩ := bind_eq_some_iff.1 hrun
  obtain ⟨⟨_, _⟩, hlast, heq⟩ := bind_eq_some_iff.1 hrest
  cases heq
  obtain ⟨hwaiters, hclosed, hnotes, -⟩ := ih hlast
  have hmiddle : middle.waiters = pool.waiters ∧ middle.closed = pool.closed ∧
      granted first = [] := by
    unfold recoverDispatched at hrecover
    split at hrecover
    · cases hrecover
    · split at hrecover <;> cases hrecover <;> exact ⟨rfl, rfl, rfl⟩
  refine ⟨hwaiters.trans hmiddle.1, hclosed.trans hmiddle.2.1, ?_, fun hnone => ?_⟩
  · rw [granted_append, hmiddle.2.2, hnotes, append_nil]
  · exact absurd hslot (hnone entry hmem)

/-- No dispatch is closed, or nobody waits. -/
def World.Undisturbed (w : World H) : Prop :=
  (∀ entry ∈ w.pool.inFlight, w.slotState entry.slot ≠ .closed) ∨
    ∀ slot ∈ w.pool.waiters.parked, w.slotState slot ≠ .opened

/-- No message is handled that finds a closed dispatch while a caller waits. -/
def World.Calm (w : World H) (move : Move H) : Prop :=
  move.isMessage = true → w.Undisturbed

instance (w : World H) : Decidable w.Undisturbed :=
  inferInstanceAs (Decidable (_ ∨ _))

instance (w : World H) : DecidablePred w.Calm :=
  fun move => inferInstanceAs (Decidable (move.isMessage = true → w.Undisturbed))

/-- After the sweeps the order is what it was. -/
theorem Fair.sweep {swept : WorkerPool H} {past notes : List (Effect H)} (hsound : pool.Sound)
    (h : Fair slotState fresh (pool.account past .nothing))
    (hcalm : (∀ entry ∈ pool.inFlight, slotState entry.slot ≠ .closed) ∨
      ∀ slot ∈ pool.waiters.parked, slotState slot ≠ .opened)
    (hrun : pool.sweep slotState = some (swept, notes)) :
    Fair slotState fresh (swept.account (past ++ notes) .nothing) := by
  obtain ⟨_, hwaiters, -, -, hflight, haccount⟩ := sweepWaiters_spec slotState hsound
  simp only [WorkerPool.sweep, hwaiters, bind_eq_bind, bind_some] at hrun
  obtain ⟨hsame, hclosed, hnotes, hidle⟩ := sweepFrom_queue hrun
  have hmiddle := haccount past .nothing
  simp only [account, Account.mk.injEq] at hmiddle
  obtain ⟨-, hidle', hparked, hclosed', -⟩ := hmiddle
  refine h.keep ?_ ?_ ?_ (.inl rfl) ?_
  · simp only [account, hsame, hparked]
    exact filter_sublist
  · simp [account, hnotes]
  · rintro ⟨waiter, hwaiter, hopen⟩ hnone
    simp only [account, hsame, hparked, mem_filter] at hwaiter
    rcases hcalm with hcalm | hnobody
    · exact (hidle (hflight ▸ hcalm)).trans (hidle'.trans hnone)
    · exact absurd hopen (hnobody waiter hwaiter.1)
  · intro hshut
    simp only [account, hclosed, hclosed'] at hshut
    exact .inl hshut

/-- Slots settle and new callers come: none that waited was opened by that. -/
theorem Fair.settle {slotState' : DeferredSlotId → DeferredSlotState} (h : Fair slotState fresh a)
    (hopen : ∀ slot < fresh, slotState' slot = .opened → slotState slot = .opened) :
    Fair slotState' fresh a := by
  constructor
  case served => exact h.served
  case queue => exact h.queue
  case bound => exact h.bound
  case caller => exact h.caller
  case behind =>
    intro slot hslot waiter hwaiter hlive
    exact h.behind slot hslot waiter hwaiter (hopen waiter (h.bound waiter (.inr hwaiter)) hlive)
  case conserving =>
    intro waiter hwaiter hlive
    exact h.conserving waiter hwaiter (hopen waiter (h.bound waiter (.inr hwaiter)) hlive)
  case settled => exact h.settled

/-- The next caller arrives. -/
theorem Fair.arrive (h : Fair slotState fresh a) :
    Fair slotState (fresh + 1) { a with errand := .caller fresh } := by
  constructor
  case served => exact h.served
  case queue => exact h.queue
  case bound =>
    intro slot hslot
    exact Nat.lt_succ_of_lt (h.bound slot hslot)
  case caller =>
    intro slot hslot
    cases hslot
    exact ⟨Nat.lt_succ_self fresh, h.bound⟩
  case behind => exact h.behind
  case conserving => exact h.conserving
  case settled => exact h.settled

/-- Only an `Acquire` has a caller to serve. -/
theorem WorkerPool.eq_acquire_of_errandOf {msg : WorkerPoolMsg H}
    (h : pool.errandOf msg = .caller slot) :
    msg = .acquire (.slot slot) := by
  unfold errandOf at h
  split at h
  · cases h
    rfl
  · split at h <;> cases h
  · cases h

namespace World

variable {w' : World H} {arrival : List (Effect H)} {msg : WorkerPoolMsg H}

theorem slotState_withCaller (h : slot < w.slots.length) :
    w.withCaller.slotState slot = w.slotState slot := by
  simp only [slotState, withCaller]
  rw [getElem?_append_left h]

theorem lt_of_slotState_ne_closed (h : w.slotState slot ≠ .closed) : slot < w.slots.length := by
  refine Nat.lt_of_not_le fun hle => h ?_
  rw [slotState, getElem?_eq_none hle]
  rfl

/-- The callers of a world are served in order. -/
structure InOrder (config : PoolConfig) (w : World H) : Prop where
  ordered : w.Ordered config
  fair : Fair w.slotState w.slots.length w.account

theorem InOrder.settled {state : DeferredSlotState} (h : w.InOrder config)
    (hopen : w.slotState slot = .opened) :
    ({ w with slots := w.slots.set slot state } : World H).InOrder config := by
  refine ⟨⟨h.ordered.sound, h.ordered.shelf, h.ordered.config⟩, ?_⟩
  simp only [length_set]
  refine h.fair.settle fun other _ hother => ?_
  simp only [slotState, getElem?_set] at hother
  split at hother
  · next heq => exact heq ▸ hopen
  · exact hother

/-- A turn: the sweeps keep the order, `harrive` brings the message in, its acts keep the order. -/
theorem InOrder.turned (hordered : w.Ordered config)
    (hfair : Fair w.slotState fresh w.account) (hcalm : w.Undisturbed)
    (harrive : ∀ (middle : WorkerPool H) (past : List (Effect H)),
      Fair w.slotState fresh (middle.account past .nothing) →
        Fair w.slotState w.slots.length (middle.account (past ++ arrival) (middle.errandOf msg)))
    (hturn : w.turn arrival msg = some w') : w'.InOrder config := by
  obtain ⟨after, middle, _, hrun, hafter, hslots, -, -, -, hacts, hsweep⟩ :=
    turn_spec hordered arrival msg fun _ _ _ => trivial
  obtain rfl : after = w' := some.inj (hrun.symm.trans hturn)
  have hswept := hfair.sweep hordered.sound hcalm hsweep
  have hstates : after.slotState = w.slotState := by
    funext slot
    rw [slotState, slotState, hslots]
  refine ⟨hafter, ?_⟩
  rw [hstates, hslots]
  exact hacts.invariant Act.fair (harrive middle _ hswept)

theorem InOrder.handled (h : w.InOrder config) (harrives : w.Arrives arrival msg)
    (hslot : ∀ slot, msg ≠ .acquire (.slot slot)) (hcalm : w.Undisturbed)
    (hturn : w.turn arrival msg = some w') : w'.InOrder config := by
  refine InOrder.turned h.ordered h.fair hcalm (fun middle past hfair => ?_) hturn
  refine hfair.keep (.refl _) ?_ (fun _ => id) (.inr ?_) .inl
  · cases harrives with
    | other => simp [WorkerPool.account]
    | release => simp [WorkerPool.account, granted, grantee]
  · intro slot herrand
    exact hslot slot (eq_acquire_of_errandOf herrand)

theorem InOrder.acquired (h : w.InOrder config) (hcalm : w.Undisturbed)
    (hturn : w.withCaller.turn [] (.acquire (.slot w.slots.length)) = some w') :
    w'.InOrder config := by
  have hfair : Fair w.withCaller.slotState w.slots.length w.withCaller.account := by
    apply h.fair.settle
    intro slot hlt hopen
    rwa [slotState_withCaller hlt] at hopen
  refine InOrder.turned h.ordered.withCaller hfair ?_ (fun middle past hbefore => ?_) hturn
  · rcases hcalm with hcalm | hnobody
    · left
      intro entry hentry
      rw [slotState_withCaller (lt_of_slotState_ne_closed (hcalm entry hentry))]
      exact hcalm entry hentry
    · right
      intro slot hslot
      rw [slotState_withCaller (h.fair.bound slot (.inr hslot))]
      exact hnobody slot hslot
  · have harrive := hbefore.arrive
    simpa [withCaller, errandOf, WorkerPool.account] using harrive

theorem InOrder.step {move : Move H} (h : w.InOrder config) (hcalm : w.Calm move)
    (hstep : w.step move = some w') : w'.InOrder config := by
  cases step_stepped hstep with
  | settled _ _ hopen heq =>
    subst heq
    exact h.settled hopen
  | handled _ _ hmessage harrives hslot hturn =>
    exact h.handled harrives hslot (hcalm hmessage) hturn
  | acquired hmessage hturn => exact h.acquired (hcalm hmessage) hturn

theorem InOrder.initial {poolId : Nat} {resources : List H} {lifetime : Option ResourceLifetime}
    {now : Option Nat} (hbuild : build poolId config resources lifetime now = some pool) :
    (World.initial pool).InOrder config := by
  have hordered := (build_ordered hbuild).1
  have hparked : pool.waiters.parked = [] := by
    unfold build at hbuild
    split at hbuild
    · cases hbuild
      rfl
    · cases hbuild
  refine ⟨hordered, ?_⟩
  constructor <;> simp [account, WorkerPool.account, World.initial, hparked, granted]

/-- Nothing is idle while somebody waits. A closed pool has no waiters. -/
theorem InOrder.busy (h : w.InOrder config) (hslot : slot ∈ w.pool.waiters.parked)
    (hopen : w.slotState slot = .opened) (resourceId : Nat) :
    w.pool.isIdleAt resourceId = false := by
  have hidle : w.pool.idle = [] := h.fair.conserving slot hslot hopen
  have hrunning : w.account.isClosed = false := by
    rw [Bool.eq_false_iff]
    intro hclosed
    have hnone : w.pool.waiters.parked = [] := h.fair.settled hclosed
    simp [hnone] at hslot
  rw [Bool.eq_false_iff]
  intro hat
  obtain ⟨resource, hresource, hstate⟩ := (any_eq_true _ _).1 hat
  obtain ⟨next, hnext⟩ : ∃ next, resource.state = .idle next := by
    cases hcase : resource.state with
    | idle next => exact ⟨next, rfl⟩
    | _ => simp [hcase, ResourceState.isIdle] at hstate
  have hmem : resourceId ∈ w.pool.idle :=
    h.ordered.shelf.complete hrunning resourceId next
      (by simp [account, WorkerPool.account, hresource, hnext])
  simp [hidle] at hmem

end World

/-- In a run in which no message finds a closed dispatch while a caller waits, no open waiter is
parked while a resource is idle, callers are served in the order they came in, and those who still
wait came after all who were served. Callers may give up and leases come back at any time; slots are
numbered as the callers come. -/
theorem grants_in_order {poolId : Nat} {resources : List H} {lifetime : Option ResourceLifetime}
    {now : Option Nat} {pool : WorkerPool H}
    (hbuild : WorkerPool.build poolId config resources lifetime now = some pool)
    (hrun : Run World.step World.Calm (.initial pool) w) :
    (∀ slot ∈ w.pool.waiters.parked, w.slotState slot = .opened →
      ∀ resourceId, w.pool.isIdleAt resourceId = false) ∧
    (granted w.history).Pairwise (· < ·) ∧
    ∀ slot ∈ granted w.history, ∀ waiter ∈ w.pool.waiters.parked,
      w.slotState waiter = .opened → slot < waiter := by
  have h : w.InOrder config :=
    hrun.invariant (World.InOrder.initial hbuild) fun _ _ _ h hcalm hstep => h.step hcalm hstep
  refine ⟨?_, h.fair.served, h.fair.behind⟩
  intro slot hslot hopen resourceId
  exact h.busy hslot hopen resourceId

/-- The first caller releases its resource while two others wait. It is handed to the second caller,
whose reply is rejected; the resource is then recovered into the idle queue although the third
caller waits, and the fourth caller gets it. -/
theorem later_caller_overtakes_waiter : ∃ (pool : WorkerPool Unit) (w w' : World Unit),
      WorkerPool.build 1 { capacity := 1, maxWaiters := 2 } [()] none none = some pool ∧
      Run World.step (fun _ _ => True) (.initial pool) w ∧
      (2 ∈ w.pool.waiters.parked ∧ w.slotState 2 = .opened ∧ w.pool.isIdleAt 0 = true) ∧
      w.step .acquire = some w' ∧ granted w'.history = [0, 1, 3] ∧
      2 ∈ w'.pool.waiters.parked ∧ w'.slotState 2 = .opened := by
  obtain ⟨pool, hbuild⟩ : ∃ pool : WorkerPool Unit,
      build 1 { capacity := 1, maxWaiters := 2 } [()] none none = some pool := ⟨_, rfl⟩
  obtain ⟨w, hrun, hw⟩ := exists_run World.step (fun _ _ => True) (.initial pool)
    [.acquire, .deliver 0, .acquire, .acquire, .release 0 .reuse, .closeSlot 1, .pressureReport]
    (fun w => (2 ∈ w.pool.waiters.parked ∧ w.slotState 2 = .opened ∧ w.pool.isIdleAt 0 = true) ∧
      (w.step .acquire).any fun w' => granted w'.history = [0, 1, 3] ∧
        2 ∈ w'.pool.waiters.parked ∧ w'.slotState 2 = .opened)
    (by cases hbuild; decide)
  obtain ⟨hbefore, hnext⟩ := of_decide_eq_true hw
  obtain ⟨w', hstep, hafter⟩ := (any_eq_true _ _).1 hnext
  exact ⟨pool, w, w', hbuild, hrun, hbefore, hstep, of_decide_eq_true hafter⟩

/-- A waiter gets the resource that the first caller releases. -/
theorem grants_in_order_of_release :
    ∃ w : World Unit, granted w.history = [0, 1] ∧ (granted w.history).Pairwise (· < ·) := by
  obtain ⟨pool, hbuild⟩ : ∃ pool : WorkerPool Unit,
      build 1 { capacity := 1, maxWaiters := 2 } [()] none none = some pool := ⟨_, rfl⟩
  obtain ⟨w, hrun, hgranted⟩ := exists_run World.step World.Calm (.initial pool)
    [.acquire, .acquire, .deliver 0, .release 0 .reuse] (fun w => granted w.history = [0, 1])
    (by cases hbuild; decide)
  exact ⟨w, of_decide_eq_true hgranted, (grants_in_order hbuild hrun).2.1⟩

end

end Tina.Pool
