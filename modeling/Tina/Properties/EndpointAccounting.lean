import Tina.Connect.EndpointPool
import Tina.Lib.Runs

/-!
The stream counts of a pool of endpoints against the picks that are not completed. They agree in
every run in which no endpoint is revived while picks on it are open; an endpoint that is revived
earlier forgets them, and then takes more than its cap.
-/

namespace Tina.Connect

open Lib List Option FixedEndpointPool
open Http2.Client (Http2ClientOutcome)

/-- What a caller can do with a pool. -/
inductive PoolOperation where
  | pick
  | recordOutcome (index : Nat) (outcome : Http2ClientOutcome)
  | recordSignal (index : Nat) (signal : EndpointHealthSignal)
  | release (index : Nat)
  | markHealthy (index : Nat)
  | markUnhealthy (index : Nat) (reason : EndpointDownReason)
  | retire (index : Nat) (reason : RetireReason)

namespace FixedEndpointPool

variable {pool : FixedEndpointPool} {index : Nat}

/-- The cursor and the endpoints with room, as round robin sees them. -/
def ring (pool : FixedEndpointPool) : Ring :=
  ⟨pool.cursor, pool.hasRoom⟩

/-- What a pick can come to. -/
inductive Pick (pool : FixedEndpointPool) : FixedEndpointPool → PickOutcome → Prop
  | picked (index highWaterInFlight : Nat) (husable : pool.isAllUnhealthy = false)
      (hscan : scan pool.endpoints.length pool.cursor pool.hasRoom = some index) :
      Pick pool
        { pool with
          endpoints := pool.endpoints.modify index takeStream
          cursor := (index + 1) % pool.endpoints.length
          highWaterInFlight }
        (.picked index)
  | noHealthyEndpoint (husable : pool.isAllUnhealthy = true) :
      Pick pool { pool with noHealthyCount := pool.noHealthyCount + 1 } .noHealthyEndpoint
  | allAtStreamCap (husable : pool.isAllUnhealthy = false)
      (hscan : scan pool.endpoints.length pool.cursor pool.hasRoom = none) :
      Pick pool { pool with allBusyCount := pool.allBusyCount + 1 } .allAtStreamCap

theorem pick_spec (pool : FixedEndpointPool) : Pick pool pool.pick.1 pool.pick.2 := by
  unfold pick
  dsimp only
  split
  · next husable => exact .noHealthyEndpoint husable
  next husable =>
  rw [Bool.not_eq_true] at husable
  split
  · next index hscan => exact .picked index _ husable hscan
  · next hscan => exact .allAtStreamCap husable hscan

theorem isAllUnhealthy_iff :
    pool.isAllUnhealthy = true ↔ ∀ slot ∈ pool.endpoints, slot.usable = false := by
  unfold isAllUnhealthy healthyCount
  rw [decide_eq_true_eq, countP_eq_zero]
  simp only [Bool.not_eq_true]

theorem hasRoom_eq_false_iff :
    pool.hasRoom index = false ↔ ∀ slot, pool.endpoints[index]? = some slot →
      slot.usable = true → pool.config.maxInFlightPerConn ≤ slot.inFlight := by
  unfold hasRoom
  cases hslot : pool.endpoints[index]? with
  | none => simp
  | some slot => cases hhere : slot.usable <;> simp [hhere]

theorem pick_eq_noHealthyEndpoint_iff :
    pool.pick.2 = .noHealthyEndpoint ↔ ∀ slot ∈ pool.endpoints, slot.usable = false := by
  rw [← isAllUnhealthy_iff]
  have hspec := pool.pick_spec
  generalize pool.pick = out at hspec
  obtain ⟨_, _⟩ := out
  cases hspec with
  | picked _ _ husable | noHealthyEndpoint husable | allAtStreamCap husable =>
    simp [husable]

theorem pick_eq_allAtStreamCap_iff (hcursor : pool.cursor < pool.endpoints.length) :
    pool.pick.2 = .allAtStreamCap ↔ (∃ slot ∈ pool.endpoints, slot.usable = true) ∧
      ∀ slot ∈ pool.endpoints, slot.usable = true →
        pool.config.maxInFlightPerConn ≤ slot.inFlight := by
  have hsome : pool.isAllUnhealthy = false ↔ ∃ slot ∈ pool.endpoints, slot.usable = true := by
    rw [← Bool.not_eq_true, isAllUnhealthy_iff]
    simp
  have hnone : scan pool.endpoints.length pool.cursor pool.hasRoom = none ↔
      ∀ slot ∈ pool.endpoints, slot.usable = true →
        pool.config.maxInFlightPerConn ≤ slot.inFlight := by
    rw [scan_eq_none_iff hcursor]
    constructor
    · intro hfull slot hmem
      obtain ⟨index, hslot⟩ := mem_iff_getElem?.1 hmem
      obtain ⟨hlt, -⟩ := List.getElem?_eq_some_iff.1 hslot
      exact hasRoom_eq_false_iff.1 (hfull index hlt) slot hslot
    · intro hfull index hlt
      exact hasRoom_eq_false_iff.2 fun slot hslot => hfull slot (mem_of_getElem? hslot)
  rw [← hsome, ← hnone]
  have hspec := pool.pick_spec
  generalize pool.pick = out at hspec
  obtain ⟨_, _⟩ := out
  cases hspec with
  | picked _ _ _ hscan => simp [hscan]
  | noHealthyEndpoint husable => simp [husable]
  | allAtStreamCap husable hscan => simp [husable, hscan]

/-- The slot of one endpoint is replaced, and the reports change. -/
def Adjusts (index : Nat) (f : EndpointSlot → EndpointSlot)
    (pool pool' : FixedEndpointPool) : Prop :=
  ∃ retained, pool' = { pool with endpoints := pool.endpoints.modify index f, retained }

theorem adjusts_id (index : Nat) (pool : FixedEndpointPool) : Adjusts index id pool pool :=
  ⟨pool.retained, by rw [modify_id]⟩

/-- The slot of one endpoint is replaced by one with the same count. -/
def KeepsCount (index : Nat) (pool pool' : FixedEndpointPool) : Prop :=
  ∃ f, (∀ slot, (f slot).inFlight = slot.inFlight) ∧ Adjusts index f pool pool'

theorem takeDown_keepsCount (pool : FixedEndpointPool) (index : Nat) {up : EndpointSlot → Bool}
    {down : EndpointSlot → EndpointSlot} {reason : RetireReason}
    (hdown : ∀ slot, (down slot).inFlight = slot.inFlight) :
    KeepsCount index pool (pool.takeDown index up down reason) := by
  unfold takeDown
  split
  · split
    · exact ⟨down, hdown, _, rfl⟩
    · exact ⟨id, fun _ => rfl, adjusts_id index pool⟩
  · exact ⟨id, fun _ => rfl, adjusts_id index pool⟩

theorem markUnhealthy_keepsCount (pool : FixedEndpointPool) (index : Nat)
    (reason : EndpointDownReason) : KeepsCount index pool (pool.markUnhealthy index reason) :=
  pool.takeDown_keepsCount index fun _ => rfl

theorem retire_keepsCount (pool : FixedEndpointPool) (index : Nat) (reason : RetireReason) :
    KeepsCount index pool (pool.retire index reason) :=
  pool.takeDown_keepsCount index fun _ => rfl

/-- A completion takes one stream off the count, and may change the health. -/
theorem recordSignal_adjusts (pool : FixedEndpointPool) (index : Nat)
    (signal : EndpointHealthSignal) : ∃ f, (∀ slot, (f slot).inFlight = slot.inFlight - 1) ∧
      Adjusts index f pool (pool.recordSignal index signal) := by
  cases signal with
  | unhealthy reason =>
    obtain ⟨f, hf, retained, hdown⟩ := (pool.release index).markUnhealthy_keepsCount index reason
    refine ⟨f ∘ fun slot => { slot with inFlight := slot.inFlight - 1 }, fun _ => hf _,
      retained, ?_⟩
    refine hdown.trans ?_
    simp only [release, modify, modify_modify_eq]
  | healthy | busy => exact ⟨_, fun _ => rfl, pool.retained, rfl⟩

end FixedEndpointPool

/-- The counts of the endpoints are those of the picks that are open, and within the cap. -/
def Accounts (cap : Nat) (endpoints : List EndpointSlot) (picks : List Nat) : Prop :=
  ∀ index slot, endpoints[index]? = some slot →
    slot.inFlight = picks.count index ∧ slot.inFlight ≤ cap

variable {f : EndpointSlot → EndpointSlot}

theorem Accounts.modify {cap : Nat} {endpoints : List EndpointSlot} {picks picks' : List Nat}
    (h : Accounts cap endpoints picks) {index : Nat}
    (hself : ∀ slot, endpoints[index]? = some slot →
      (f slot).inFlight = picks'.count index ∧ (f slot).inFlight ≤ cap)
    (hothers : ∀ other, other ≠ index → picks'.count other = picks.count other) :
    Accounts cap (endpoints.modify index f) picks' := by
  intro other slot hslot
  by_cases hsame : index = other
  · subst hsame
    rw [getElem?_modify_eq] at hslot
    obtain ⟨before, hbefore, rfl⟩ := map_eq_some_iff.1 hslot
    exact hself before hbefore
  · rw [getElem?_modify_ne _ _ hsame] at hslot
    rw [hothers other fun heq => hsame heq.symm]
    exact h other slot hslot

/-- A pool and its callers: the picks in their order, and those that are not completed. -/
structure PoolWorld (C : Type) where
  pool : Http2ClientPool C
  picked : List Nat
  outstanding : List Nat

namespace PoolWorld

variable {C : Type}

def initial (pool : Http2ClientPool C) : PoolWorld C where
  pool
  picked := []
  outstanding := []

def onState (w : PoolWorld C) (state : FixedEndpointPool) (outstanding : List Nat) : PoolWorld C :=
  { w with pool := { w.pool with state }, outstanding }

/-- A completion is of a pick that is open. `none` otherwise, or if the pool panics. -/
def step (w : PoolWorld C) : PoolOperation → Option (PoolWorld C)
  | .pick => w.pool.pick.map fun (pool, outcome) =>
    match outcome with
    | .picked index _ =>
      { pool, picked := w.picked ++ [index], outstanding := index :: w.outstanding }
    | .noHealthyEndpoint | .allAtStreamCap => { w with pool }
  | .recordOutcome index outcome =>
    if index ∈ w.outstanding then
      some { w with
        pool := w.pool.recordOutcome index outcome, outstanding := w.outstanding.erase index }
    else none
  | .recordSignal index signal =>
    if index ∈ w.outstanding then
      some (w.onState (w.pool.state.recordSignal index signal) (w.outstanding.erase index))
    else none
  | .release index =>
    if index ∈ w.outstanding then
      some (w.onState (w.pool.state.release index) (w.outstanding.erase index))
    else none
  | .markHealthy index => some (w.onState (w.pool.state.markHealthy index) w.outstanding)
  | .markUnhealthy index reason =>
    some (w.onState (w.pool.state.markUnhealthy index reason) w.outstanding)
  | .retire index reason => some (w.onState (w.pool.state.retire index reason) w.outstanding)

/-- No endpoint is revived while picks on it are open. -/
def Drained (w : PoolWorld C) : PoolOperation → Prop
  | .markHealthy index => index ∉ w.outstanding
  | _ => True

instance (w : PoolWorld C) : DecidablePred w.Drained
  | .markHealthy _ => inferInstanceAs (Decidable (_ ∉ _))
  | .pick | .recordOutcome .. | .recordSignal .. | .release _ | .markUnhealthy .. | .retire .. =>
    isTrue trivial

/-- Health and completions do not change: the operation is a pick, or leaves every endpoint as it
is. -/
def Steady (w : PoolWorld C) (operation : PoolOperation) : Prop :=
  operation = .pick ∨
    ∀ w', w.step operation = some w' → w'.pool.state.endpoints = w.pool.state.endpoints

def Usable (w : PoolWorld C) (index : Nat) : Prop :=
  ∃ slot, w.pool.state.endpoints[index]? = some slot ∧ slot.usable = true

/-- The cursor is on an endpoint, and every endpoint has a connection. -/
structure Formed (w : PoolWorld C) : Prop where
  cursor : w.pool.state.cursor < w.pool.state.endpoints.length
  connections : w.pool.connections.length = w.pool.state.endpoints.length

/-- What holds in every world. -/
structure Sound (config : FixedEndpointPoolConfig) (w : PoolWorld C) : Prop extends Formed w where
  configured : w.pool.state.config = config
  accounts : Accounts config.maxInFlightPerConn w.pool.state.endpoints w.outstanding

variable {config : FixedEndpointPoolConfig} {w w' : PoolWorld C} {pool pool' : FixedEndpointPool}
  {operation : PoolOperation}

/-- A pick takes an endpoint, or changes no endpoint. -/
theorem step_pick (h : w.Formed) :
    (∃ index pool, Pick w.pool.state pool (.picked index) ∧ w.step .pick = some
        { pool := { w.pool with state := pool }
          picked := w.picked ++ [index]
          outstanding := index :: w.outstanding }) ∨
      ∃ noHealthyCount allBusyCount, w.step .pick = some
        (w.onState { w.pool.state with noHealthyCount, allBusyCount } w.outstanding) := by
  have hspec := w.pool.state.pick_spec
  unfold step Http2ClientPool.pick
  generalize w.pool.state.pick = out at hspec
  obtain ⟨pool, _⟩ := out
  cases hspec with
  | picked index high husable hscan =>
    have hlt : index < w.pool.connections.length :=
      h.connections.symm ▸ (scan_eq_some h.cursor hscan).1
    refine .inl ⟨index, _, .picked index high husable hscan, ?_⟩
    simp [getElem?_eq_getElem hlt]
  | noHealthyEndpoint | allAtStreamCap => exact .inr ⟨_, _, rfl⟩

/-- What an operation that is no pick does to the count of its endpoint and to the open picks. -/
inductive Counts (w : PoolWorld C) (operation : PoolOperation) (index : Nat)
    (f : EndpointSlot → EndpointSlot) : List Nat → Prop
  | kept (hf : ∀ slot, (f slot).inFlight = slot.inFlight) : Counts w operation index f w.outstanding
  | completed (hmem : index ∈ w.outstanding) (hf : ∀ slot, (f slot).inFlight = slot.inFlight - 1) :
      Counts w operation index f (w.outstanding.erase index)
  | revived (hrevives : operation = .markHealthy index) (hf : ∀ slot, (f slot).inFlight = 0) :
      Counts w operation index f w.outstanding

theorem step_adjusts (hpick : operation ≠ .pick) (hstep : w.step operation = some w') :
    ∃ index f state outstanding, w' = w.onState state outstanding ∧
      Adjusts index f w.pool.state state ∧
      Counts w operation index f outstanding := by
  cases operation with
  | pick => exact absurd rfl hpick
  | recordOutcome index outcome =>
    simp only [step, ite_none_right_eq_some, some.injEq] at hstep
    obtain ⟨f, hf, hadjusts⟩ := recordSignal_adjusts w.pool.state index (http2HealthSignal outcome)
    exact ⟨index, f, _, _, hstep.2.symm, hadjusts, .completed hstep.1 hf⟩
  | recordSignal index signal =>
    simp only [step, ite_none_right_eq_some, some.injEq] at hstep
    obtain ⟨f, hf, hadjusts⟩ := recordSignal_adjusts w.pool.state index signal
    exact ⟨index, f, _, _, hstep.2.symm, hadjusts, .completed hstep.1 hf⟩
  | release index =>
    simp only [step, ite_none_right_eq_some, some.injEq] at hstep
    exact ⟨index, _, _, _, hstep.2.symm, ⟨_, rfl⟩, .completed hstep.1 fun _ => rfl⟩
  | markHealthy index =>
    exact ⟨index, _, _, _, (some.inj hstep).symm, ⟨_, rfl⟩, .revived rfl fun _ => rfl⟩
  | markUnhealthy index reason =>
    obtain ⟨f, hf, hadjusts⟩ := w.pool.state.markUnhealthy_keepsCount index reason
    exact ⟨index, f, _, _, (some.inj hstep).symm, hadjusts, .kept hf⟩
  | retire index reason =>
    obtain ⟨f, hf, hadjusts⟩ := w.pool.state.retire_keepsCount index reason
    exact ⟨index, f, _, _, (some.inj hstep).symm, hadjusts, .kept hf⟩

namespace Sound

/-- The slot of one endpoint is replaced, and its count with it. -/
theorem adjust (h : w.Sound config) {state : FixedEndpointPool}
    {outstanding : List Nat} (hadjusts : Adjusts index f w.pool.state state)
    (hself : ∀ slot, w.pool.state.endpoints[index]? = some slot →
      (f slot).inFlight = outstanding.count index ∧ (f slot).inFlight ≤ config.maxInFlightPerConn)
    (hothers : ∀ other, other ≠ index → outstanding.count other = w.outstanding.count other) :
    (w.onState state outstanding).Sound config := by
  obtain ⟨_, rfl⟩ := hadjusts
  have hlength : (w.pool.state.endpoints.modify index f).length = w.pool.state.endpoints.length :=
    length_modify _ _ _
  refine ⟨⟨?_, ?_⟩, h.configured, h.accounts.modify hself hothers⟩
  · exact hlength.symm ▸ h.cursor
  · exact h.connections.trans hlength.symm

/-- The scan takes an endpoint that is below its cap. -/
theorem take (h : w.Sound config)
    (hpick : Pick w.pool.state pool (.picked index)) (picked : List Nat) :
    Sound config
      { pool := { w.pool with state := pool }, picked, outstanding := index :: w.outstanding } := by
  cases hpick with
  | picked _ _ _ hscan =>
  obtain ⟨_, hroom, -⟩ := scan_eq_some h.cursor hscan
  have hlength : (w.pool.state.endpoints.modify index takeStream).length =
      w.pool.state.endpoints.length := length_modify _ _ _
  refine ⟨⟨?_, ?_⟩, h.configured, ?_⟩
  · exact hlength.symm ▸ Nat.mod_lt _ (by omega)
  · exact h.connections.trans hlength.symm
  apply h.accounts.modify
  · intro slot hslot
    obtain ⟨hcount, -⟩ := h.accounts index slot hslot
    simp only [hasRoom, hslot, any_some, Bool.and_eq_true, decide_eq_true_eq, h.configured] at hroom
    rw [count_cons_self]
    exact ⟨congrArg (· + 1) hcount, hroom.2⟩
  · intro other hother
    exact count_cons_of_ne (Ne.symm hother)

theorem step (h : w.Sound config) (hdrained : w.Drained operation)
    (hstep : w.step operation = some w') : w'.Sound config := by
  by_cases hpick : operation = .pick
  · subst hpick
    rcases step_pick h.toFormed with ⟨index, _, hpick, hout⟩ | ⟨_, _, hout⟩
    · cases hout.symm.trans hstep
      exact h.take hpick _
    · cases hout.symm.trans hstep
      exact ⟨⟨h.cursor, h.connections⟩, h.configured, h.accounts⟩
  obtain ⟨index, f, _, _, rfl, hadjusts, hcounts⟩ := step_adjusts hpick hstep
  cases hcounts with
  | kept hf =>
    refine h.adjust hadjusts (fun slot hslot => ?_) fun _ _ => rfl
    rw [hf]
    exact h.accounts index slot hslot
  | completed hmem hf =>
    refine h.adjust hadjusts (fun slot hslot => ?_) fun _ hother => count_erase_of_ne hother
    obtain ⟨_, _⟩ := h.accounts index slot hslot
    have hpos := count_pos_iff.2 hmem
    rw [hf, count_erase_self]
    omega
  | revived hrevives hf =>
  subst hrevives
  refine h.adjust hadjusts (fun slot _ => ?_) fun _ _ => rfl
  rw [hf, count_eq_zero.2 hdrained]
  exact ⟨rfl, Nat.zero_le _⟩

theorem start {targets : List String} {connections : List C} {pool : Http2ClientPool C}
    (hnew : Http2ClientPool.new targets connections config = .ok pool) :
    (initial pool).Sound config := by
  unfold Http2ClientPool.new new at hnew
  split at hnew
  · cases hnew
  next hlength =>
  rw [not_not] at hlength
  cases hvalid : config.validate with
  | error =>
    rw [hvalid] at hnew
    cases hnew
  | ok =>
  rw [hvalid] at hnew
  cases targets with
  | nil => cases hnew
  | cons =>
  cases hnew
  refine ⟨⟨?_, ?_⟩, rfl, ?_⟩
  · exact Nat.succ_pos _
  · exact hlength.symm.trans (length_map _).symm
  intro index slot hslot
  obtain ⟨_, -, rfl⟩ := mem_map.1 (mem_of_getElem? hslot)
  exact ⟨rfl, Nat.zero_le _⟩

end Sound

theorem ring_eq (hendpoints : pool'.endpoints = pool.endpoints)
    (hcursor : pool'.cursor = pool.cursor) (hconfig : pool'.config = pool.config) :
    pool'.ring = pool.ring := by
  have hroom : pool'.hasRoom = pool.hasRoom := by
    funext index
    rw [hasRoom, hasRoom, hendpoints, hconfig]
  rw [ring, ring, hroom, hcursor]

/-- A pick that takes an endpoint is a turn of round robin. -/
theorem ring_take (hpick : Pick pool pool' (.picked index)) :
    pool.ring.Take pool.endpoints.length index pool'.ring ∧
      pool'.endpoints.length = pool.endpoints.length := by
  cases hpick with
  | picked _ _ _ hscan =>
  refine ⟨⟨hscan, rfl, ?_⟩, length_modify _ _ _⟩
  intro other hother
  show hasRoom _ other = pool.hasRoom other
  unfold hasRoom
  rw [getElem?_modify_ne _ _ (Ne.symm hother)]

/-- As long as only picks change the endpoints, they take turns. -/
theorem takes_of_run (h : w.Formed) (hrun : Run step Steady w w') :
    w'.Formed ∧ w'.pool.state.endpoints.length = w.pool.state.endpoints.length ∧
      ∃ picked, w'.picked = w.picked ++ picked ∧
        w.pool.state.ring.Takes w.pool.state.endpoints.length picked w'.pool.state.ring := by
  induction hrun with
  | start => exact ⟨h, rfl, [], (append_nil _).symm, .done _⟩
  | @step v v' operation _ hsteady hstep ih =>
  obtain ⟨hformed, hlength, picked, hpicked, htakes⟩ := ih
  have hquiet : ∀ state outstanding, v' = v.onState state outstanding →
      state.endpoints = v.pool.state.endpoints → state.cursor = v.pool.state.cursor →
      state.config = v.pool.state.config →
      v'.Formed ∧ v'.pool.state.endpoints.length = w.pool.state.endpoints.length ∧
        ∃ picked, v'.picked = w.picked ++ picked ∧
          w.pool.state.ring.Takes w.pool.state.endpoints.length picked v'.pool.state.ring := by
    rintro state outstanding rfl hendpoints hcursor hconfig
    refine ⟨⟨?_, ?_⟩, (congrArg length hendpoints).trans hlength, picked, hpicked, ?_⟩
    · show state.cursor < state.endpoints.length
      rw [hcursor, hendpoints]
      exact hformed.cursor
    · exact hformed.connections.trans (congrArg length hendpoints.symm)
    · exact ring_eq hendpoints hcursor hconfig ▸ htakes
  by_cases hpick : operation = .pick
  · subst hpick
    rcases step_pick hformed with ⟨index, _, hpick, hout⟩ | ⟨_, _, hout⟩
    · cases hout.symm.trans hstep
      obtain ⟨htake, hsize⟩ := ring_take hpick
      rw [hlength] at htake
      refine ⟨⟨?_, ?_⟩, hsize.trans hlength, picked ++ [index], ?_, htakes.concat htake⟩
      · have hlt := htake.cursor_lt (hlength ▸ hformed.cursor)
        rw [hsize, hlength]
        exact hlt
      · exact hformed.connections.trans hsize.symm
      · rw [← append_assoc, ← hpicked]
    · exact hquiet _ _ (some.inj (hout.symm.trans hstep)).symm rfl rfl rfl
  · have hendpoints := (hsteady.resolve_left hpick) v' hstep
    obtain ⟨_, f, _, _, rfl, ⟨_, rfl⟩, -⟩ := step_adjusts hpick hstep
    exact hquiet _ _ rfl hendpoints rfl rfl

section

variable {targets : List String} {connections : List C} {pool : Http2ClientPool C}

theorem usable_iff_exists_mem : (∃ index, w.Usable index) ↔
    ∃ slot ∈ w.pool.state.endpoints, slot.usable = true := by
  constructor
  · rintro ⟨index, slot, hslot, husable⟩
    exact ⟨slot, mem_of_getElem? hslot, husable⟩
  rintro ⟨slot, hmem, husable⟩
  obtain ⟨index, hslot⟩ := mem_iff_getElem?.1 hmem
  exact ⟨index, slot, hslot, husable⟩

/-- All usable endpoints are at the cap, by their counts and by the picks that are open. -/
theorem Sound.atCap_iff (h : w.Sound config) :
    (∀ slot ∈ w.pool.state.endpoints, slot.usable = true →
      w.pool.state.config.maxInFlightPerConn ≤ slot.inFlight) ↔
      ∀ index, w.Usable index → w.outstanding.count index = config.maxInFlightPerConn := by
  rw [h.configured]
  constructor
  · rintro hfull index ⟨slot, hslot, husable⟩
    obtain ⟨_, _⟩ := h.accounts index slot hslot
    have hfull' := hfull slot (mem_of_getElem? hslot) husable
    omega
  · intro hfull slot hmem husable
    obtain ⟨index, hslot⟩ := mem_iff_getElem?.1 hmem
    rw [(h.accounts index slot hslot).1, hfull index ⟨slot, hslot, husable⟩]

theorem Sound.isOpen (h : w.Sound config) (husable : w.Usable index)
    (hroom : w.outstanding.count index < config.maxInFlightPerConn) :
    index < w.pool.state.endpoints.length ∧ w.pool.state.ring.isOpen index = true := by
  obtain ⟨slot, hslot, husable⟩ := husable
  obtain ⟨hlt, -⟩ := List.getElem?_eq_some_iff.1 hslot
  refine ⟨hlt, ?_⟩
  show w.pool.state.hasRoom index = true
  rw [← (h.accounts index slot hslot).1] at hroom
  simp [hasRoom, hslot, husable, h.configured, hroom]

/-- In every run in which no endpoint is revived while picks on it are open, the counts are those of
the open picks and within the cap, a pick fails for the reason it gives, and while only picks change
the endpoints they take turns. A pick completes at most once, at any time, and endpoints may fail
and retire meanwhile. -/
theorem endpoint_accounting (hnew : Http2ClientPool.new targets connections config = .ok pool)
    (hrun : Run step Drained (initial pool) w) :
    (∀ index slot, w.pool.state.endpoints[index]? = some slot →
      slot.inFlight = w.outstanding.count index ∧
        w.outstanding.count index ≤ config.maxInFlightPerConn) ∧
      (w.step .pick).isSome = true ∧
      (w.pool.state.pick.2 = .noHealthyEndpoint ↔ ¬ ∃ index, w.Usable index) ∧
      (w.pool.state.pick.2 = .allAtStreamCap ↔ (∃ index, w.Usable index) ∧
        ∀ index, w.Usable index → w.outstanding.count index = config.maxInFlightPerConn) ∧
      ∀ w' picked index, Run step Steady w w' → w'.picked = w.picked ++ (picked ++ [index]) →
        index ∈ picked → ∀ other, w.Usable other →
        w.outstanding.count other < config.maxInFlightPerConn → other ∈ picked := by
  have hsound : w.Sound config := hrun.invariant (.start hnew) fun _ _ _ h hp hstep =>
    h.step hp hstep
  refine ⟨?_, ?_, ?_, ?_, ?_⟩
  · intro index slot hslot
    obtain ⟨hcount, hcap⟩ := hsound.accounts index slot hslot
    exact ⟨hcount, hcount ▸ hcap⟩
  · rcases step_pick hsound.toFormed with ⟨_, _, _, hout⟩ | ⟨_, _, hout⟩ <;> rw [hout] <;> rfl
  · rw [pick_eq_noHealthyEndpoint_iff, usable_iff_exists_mem]
    simp
  · rw [pick_eq_allAtStreamCap_iff hsound.cursor, usable_iff_exists_mem, hsound.atCap_iff]
  · intro w' picked index hwindow hpicked htwice other husable hroom
    obtain ⟨-, -, _, hpicked', htakes⟩ := takes_of_run hsound.toFormed hwindow
    obtain rfl := append_cancel_left (hpicked'.symm.trans hpicked)
    obtain ⟨hlt, hopen⟩ := hsound.isOpen husable hroom
    exact htakes.fair hsound.cursor htwice hlt hopen

/-- One endpoint, with a cap of one stream. -/
def oneStream : FixedEndpointPoolConfig where
  maxInFlightPerConn := 1
  preConnectQueueCap := 1
  retainedReports := 1

def onePool : Http2ClientPool Unit where
  connections := [()]
  state :=
    { endpoints := [⟨"a", true, false, 0, 0, 0⟩]
      config := oneStream
      cursor := 0
      preConnectWaiters := 0
      highWaterInFlight := 0
      noHealthyCount := 0
      allBusyCount := 0
      preConnectRejections := 0
      retained := [] }

/-- An endpoint that is retired and revived while a pick on it is open takes a second one, over its
cap. -/
theorem revived_over_cap : Http2ClientPool.new ["a"] [()] oneStream = .ok onePool ∧
      ∃ w : PoolWorld Unit, Run step (fun _ _ => True) (initial onePool) w ∧
        w.outstanding.count 0 = 2 ∧ (w.pool.state.endpoints.map (·.inFlight)) = [1] ∧
        oneStream.maxInFlightPerConn = 1 := by
  refine ⟨rfl, ?_⟩
  obtain ⟨w, hrun, hend⟩ := exists_run step (fun _ _ => True) (initial onePool)
    [.pick, .retire 0 .stale, .markHealthy 0, .pick]
    (fun w : PoolWorld Unit => w.outstanding.count 0 = 2 ∧
      (w.pool.state.endpoints.map (·.inFlight)) = [1]) (by decide +kernel)
  obtain ⟨hcount, hinFlight⟩ := of_decide_eq_true hend
  exact ⟨w, hrun, hcount, hinFlight, rfl⟩

/-- Two endpoints, with a cap of two streams. -/
def twoPool : Http2ClientPool Unit where
  connections := [(), ()]
  state := { onePool.state with
    endpoints := [⟨"a", true, false, 0, 0, 0⟩, ⟨"b", true, false, 0, 0, 0⟩]
    config := { oneStream with maxInFlightPerConn := 2 } }

/-- The first of two endpoints goes down with its pick and is revived. Then the picks go to the
second endpoint, to the first one, and to the second one again. -/
theorem endpoint_accounting_of_revival : ∃ w w' : PoolWorld Unit, Run step Steady w w' ∧
    w'.picked = w.picked ++ ([1, 0] ++ [1]) ∧
      ∀ other, w.Usable other → w.outstanding.count other < 2 → other ∈ [1, 0] := by
  obtain ⟨w, hrun, hend⟩ := exists_run step Drained (initial twoPool)
    [.pick, .recordOutcome 0 .closed, .markHealthy 0]
    (fun w => (w.step .pick).any fun w₁ => (w₁.step .pick).any fun w₂ => (w₂.step .pick).any
      fun w₃ =>
      w₃.picked = w.picked ++ ([1, 0] ++ [1])) (by decide +kernel)
  obtain ⟨w₁, hfirst, hend⟩ := (any_eq_true _ _).1 hend
  obtain ⟨w₂, hsecond, hend⟩ := (any_eq_true _ _).1 hend
  obtain ⟨w₃, hthird, hpicked⟩ := (any_eq_true _ _).1 hend
  have hsteady : Run step Steady w w₃ :=
    .step .pick (.step .pick (.step .pick .start (.inl rfl) hfirst)
    (.inl rfl) hsecond) (.inl rfl) hthird
  have hnew : Http2ClientPool.new ["a", "b"] [(), ()] twoPool.state.config = .ok twoPool := rfl
  exact ⟨w, w₃, hsteady, of_decide_eq_true hpicked, (endpoint_accounting hnew hrun).2.2.2.2
    w₃ [1, 0] 1 hsteady (of_decide_eq_true hpicked) (by decide)⟩

end

end PoolWorld

end Tina.Connect
