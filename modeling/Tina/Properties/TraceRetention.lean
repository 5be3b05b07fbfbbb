import Tina.Lib.ListUpdate

/-!
The trace of a runtime, whatever is pushed and however its retention is changed. A bounded trace
drops its oldest event by moving its start; the vector is compacted when the start has come far
enough.
-/

namespace Tina

open Lib List

inductive TraceRetention where
  | full
  | bounded (capacity : Nat)
  | off

/-- The part of a runtime that keeps the trace. The dropped events are counted one by one, so the
counter's 64 bits are not modelled. -/
structure TraceLog (E : Type) where
  trace : List E := []
  traceStart : Nat := 0
  traceRetention : TraceRetention := .full
  traceDropped : Nat := 0

inductive TraceOperation (E : Type) where
  | pushEvent (event : E)
  | setTraceRetention (retention : TraceRetention)

variable {E : Type}

def TraceOperation.event? : TraceOperation E → Option E
  | .pushEvent event => some event
  | .setTraceRetention _ => none

/-- The events pushed, in the order of their emission. -/
def pushedEvents (operations : List (TraceOperation E)) : List E :=
  operations.filterMap TraceOperation.event?

/-- How many of so many events a retention drops. -/
def TraceRetention.excess : TraceRetention → Nat → Nat
  | .full, _ => 0
  | .bounded capacity, count => count - capacity
  | .off, count => count

open TraceRetention

namespace TraceLog

/-- What the host sees. -/
def visible (log : TraceLog E) : List E :=
  log.trace.drop log.traceStart

def activeTraceLen (log : TraceLog E) : Nat :=
  log.trace.length - log.traceStart

def compactTracePrefix (log : TraceLog E) : TraceLog E :=
  if log.traceStart = 0 then log
  else { log with trace := log.trace.drop log.traceStart, traceStart := 0 }

def compactTracePrefixIfEmptyOrLarge (log : TraceLog E) (threshold : Nat) : TraceLog E :=
  if log.traceStart = 0 then log
  else if log.trace.length ≤ log.traceStart ∨ threshold ≤ log.traceStart then log.compactTracePrefix
  else log

/-- The oldest events are no longer part of the trace. -/
def advance (log : TraceLog E) (count : Nat) : TraceLog E :=
  { log with traceStart := log.traceStart + count, traceDropped := log.traceDropped + count }

def append (log : TraceLog E) (events : List E) : TraceLog E :=
  { log with trace := log.trace ++ events }

/-- The observer and the event's id are left out: neither is part of the trace. -/
def pushEvent (log : TraceLog E) (event : E) : TraceLog E :=
  match log.traceRetention with
  | .full => log.compactTracePrefix.append [event]
  | .bounded capacity =>
    if 0 < capacity then
      if log.activeTraceLen = capacity then
        let log := log.advance 1
        append (if capacity ≤ log.traceStart then log.compactTracePrefix else log) [event]
      else log.append [event]
    else { log with traceDropped := log.traceDropped + 1 }
  | .off => { log with traceDropped := log.traceDropped + 1 }

def enforceTraceRetention (log : TraceLog E) : TraceLog E :=
  match log.traceRetention with
  | .full => log.compactTracePrefix
  | .bounded capacity =>
    compactTracePrefixIfEmptyOrLarge
      (if capacity < log.activeTraceLen then log.advance (log.activeTraceLen - capacity) else log)
      (max capacity 1)
  | .off => ⟨[], 0, .off, log.traceDropped + log.activeTraceLen⟩

def step (log : TraceLog E) : TraceOperation E → TraceLog E
  | .pushEvent event => log.pushEvent event
  | .setTraceRetention retention => { log with traceRetention := retention }.enforceTraceRetention

/-- The same trace in a vector whose start is below the threshold. -/
structure Compacted (threshold : Nat) (log log' : TraceLog E) : Prop where
  visible : log'.visible = log.visible
  traceRetention : log'.traceRetention = log.traceRetention
  traceDropped : log'.traceDropped = log.traceDropped
  start : log'.traceStart ≤ log'.trace.length
  short : log'.traceStart < threshold

/-- A log after `pushed`: what is not dropped is visible, in a vector whose start is not far in. -/
structure Follows (log : TraceLog E) (pushed : List E) : Prop where
  start : log.traceStart ≤ log.trace.length
  short : ∀ c, log.traceRetention = .bounded c → log.traceStart ≤ c - 1
  most : log.traceDropped ≤ pushed.length
  visible : log.visible = pushed.drop log.traceDropped
  dropped : log.traceRetention.excess pushed.length ≤ log.traceDropped

variable {log log' : TraceLog E} {events pushed : List E} {threshold count : Nat}

theorem compactTracePrefix_compacted (h : 0 < threshold) :
    Compacted threshold log log.compactTracePrefix := by
  unfold compactTracePrefix
  split
  · exact ⟨rfl, rfl, rfl, by omega, by omega⟩
  · exact ⟨rfl, rfl, rfl, Nat.zero_le _, h⟩

theorem compactTracePrefixIfEmptyOrLarge_compacted (h : 0 < threshold) :
    Compacted threshold log (log.compactTracePrefixIfEmptyOrLarge threshold) := by
  unfold compactTracePrefixIfEmptyOrLarge
  split
  · exact ⟨rfl, rfl, rfl, by omega, by omega⟩
  split
  · exact compactTracePrefix_compacted h
  · exact ⟨rfl, rfl, rfl, by omega, by omega⟩

/-- The step that a retention asks for: it drops what is over, and nothing else. -/
def Steps (log : TraceLog E) (pushed events : List E) (log' : TraceLog E) : Prop :=
  log'.Follows (pushed ++ events) ∧ log'.traceRetention = log.traceRetention ∧
    log'.traceDropped = max log.traceDropped (log.traceRetention.excess (pushed ++ events).length)

theorem Compacted.steps (count : Nat) (h : Compacted threshold (log.advance count) log')
    (hvisible : log.visible = pushed.drop log.traceDropped)
    (hcount : log.traceDropped + count ≤ pushed.length)
    (hshort : ∀ c, log.traceRetention = .bounded c → threshold ≤ max c 1)
    (hdropped : log.traceDropped + count =
      max log.traceDropped (log.traceRetention.excess (pushed.length + events.length))) :
    log.Steps pushed events (log'.append events) := by
  have hsame : (log'.append events).traceDropped = log.traceDropped + count := h.traceDropped
  have hretention : (log'.append events).traceRetention = log.traceRetention := h.traceRetention
  rw [Steps, length_append, hsame]
  refine ⟨⟨?_, fun c hc => ?_, ?_, ?_, ?_⟩, hretention, hdropped⟩
  · rw [append, length_append]
    exact Nat.le_add_right_of_le h.start
  · have hless := h.short
    have hsmall := hshort c (hretention.symm.trans hc)
    dsimp only [append]
    omega
  · rw [length_append]
    omega
  · rw [hsame, drop_append_of_le_length hcount, ← drop_drop, ← hvisible, TraceLog.visible, append,
      drop_append_of_le_length h.start]
    exact congrArg (· ++ events) (h.visible.trans drop_drop.symm)
  · rw [hretention, hsame, length_append]
    omega

/-- With room for none, the event itself is dropped. -/
theorem Follows.reject (h : log.Follows pushed) (event : E)
    (hnone : ∀ n, log.traceRetention.excess n = n) :
    log.Steps pushed [event] { log with traceDropped := log.traceDropped + 1 } := by
  have hmost := h.most
  have hdropped := h.dropped
  rw [hnone] at hdropped
  have hall : log.traceDropped = pushed.length := by omega
  refine ⟨⟨h.start, h.short, ?_, ?_, ?_⟩, rfl, ?_⟩
  · simp [hall]
  · exact h.visible.trans (by simp [hall])
  · simp [hnone, hall]
  · simp [hnone, hall]

theorem activeTraceLen_eq (h : log.visible = pushed.drop log.traceDropped) :
    log.activeTraceLen = pushed.length - log.traceDropped := by
  rw [activeTraceLen, ← length_drop, ← length_drop]
  exact congrArg length h

theorem Follows.pushEvent (h : log.Follows pushed) (event : E) :
    log.Steps pushed [event] (log.pushEvent event) := by
  have hactive := activeTraceLen_eq h.visible
  have hmost := h.most
  have hdropped := h.dropped
  unfold TraceLog.pushEvent
  rw [hactive]
  split
  · next hfull =>
    have hcompact : Compacted 1 log _ := compactTracePrefix_compacted Nat.one_pos
    exact Compacted.steps 0 hcompact h.visible hmost (by simp [hfull]) (by simp [hfull, excess])
  · next capacity hbounded =>
    have hshort : ∀ c, log.traceRetention = .bounded c → capacity ≤ max c 1 := by
      intro c hc
      cases hbounded.symm.trans hc
      exact Nat.le_max_left ..
    have hstart := h.short capacity hbounded
    rw [hbounded, excess] at hdropped
    split
    · next hpositive =>
      split
      · next hfull =>
        refine Compacted.steps 1 (?_ : Compacted capacity _ _) h.visible (by omega) hshort
          (by rw [hbounded, excess, length_singleton]; omega)
        rw [activeTraceLen] at hactive
        split
        · exact compactTracePrefix_compacted hpositive
        · exact ⟨rfl, rfl, rfl, by dsimp only [advance]; omega, by omega⟩
      · have hcompact : Compacted capacity log log := ⟨rfl, rfl, rfl, h.start, by omega⟩
        exact Compacted.steps 0 hcompact h.visible hmost hshort
          (by rw [hbounded, excess, length_singleton]; omega)
    · next hzero =>
      exact h.reject event fun n => by simp [hbounded, excess, Nat.eq_zero_of_not_pos hzero]
  · next hoff => exact h.reject event fun _ => by rw [hoff]; rfl

theorem enforceTraceRetention_steps (hmost : log.traceDropped ≤ pushed.length)
    (hvisible : log.visible = pushed.drop log.traceDropped) :
    log.Steps pushed [] log.enforceTraceRetention := by
  have hnil (log : TraceLog E) : log.append [] = log := by simp [append]
  have hactive := activeTraceLen_eq hvisible
  unfold enforceTraceRetention
  rw [hactive]
  split
  · next hfull =>
    have hcompact : Compacted 1 log _ := compactTracePrefix_compacted Nat.one_pos
    rw [← hnil log.compactTracePrefix]
    exact Compacted.steps 0 hcompact hvisible hmost (by simp [hfull]) (by simp [hfull, excess])
  · next capacity hbounded =>
    generalize hcount : pushed.length - log.traceDropped - capacity = count
    have hmoved : (if capacity < pushed.length - log.traceDropped then log.advance count else log) =
        log.advance count := by
      split
      · rfl
      · rw [← hcount, Nat.sub_eq_zero_of_le (by omega)]
        rfl
    rw [hmoved, ← hnil (compactTracePrefixIfEmptyOrLarge ..)]
    refine (compactTracePrefixIfEmptyOrLarge_compacted (by omega)).steps _ hvisible (by omega) ?_ ?_
    · intro c hc
      cases hbounded.symm.trans hc
      exact Nat.le_refl _
    · rw [hbounded, excess, length_nil]
      omega
  · next hoff =>
    rw [Steps, append_nil, hoff]
    refine ⟨⟨Nat.zero_le _, nofun, ?_, ?_, ?_⟩, rfl, ?_⟩ <;> simp [excess, visible] <;> omega

/-- The log with the retention that is in force after an operation. -/
def under (log : TraceLog E) : TraceOperation E → TraceLog E
  | .pushEvent _ => log
  | .setTraceRetention retention => { log with traceRetention := retention }

theorem Follows.step (h : log.Follows pushed) (operation : TraceOperation E) :
    (log.under operation).Steps pushed operation.event?.toList (log.step operation) := by
  cases operation with
  | pushEvent event => exact h.pushEvent event
  | setTraceRetention => exact enforceTraceRetention_steps h.most h.visible

/-- A whole run. -/
theorem Follows.run (h : log.Follows pushed) (operations : List (TraceOperation E)) :
    (operations.foldl TraceLog.step log).Follows (pushed ++ pushedEvents operations) := by
  induction operations generalizing log pushed with
  | nil => simpa [pushedEvents] using h
  | cons operation _ ih =>
  have hrest := ih (h.step operation).1
  rwa [append_assoc, pushedEvents, ← filterMap_cons_toList] at hrest

/-- A bound that stays drops no more than it has to. -/
theorem Follows.run_bounded {c : Nat} {operations : List (TraceOperation E)}
    (h : log.Follows pushed)
    (hretention : log.traceRetention = .bounded c) (hdropped : log.traceDropped = pushed.length - c)
    (hstays : ∀ operation ∈ operations, operation.event? = none →
      operation = .setTraceRetention (.bounded c)) :
    (operations.foldl TraceLog.step log).traceDropped =
      (pushed ++ pushedEvents operations).length - c := by
  induction operations generalizing log pushed with
  | nil => simpa [pushedEvents] using hdropped
  | cons operation _ ih =>
  obtain ⟨hfirst, hrest⟩ := forall_mem_cons.1 hstays
  obtain ⟨hnext, hsame, hcount⟩ := h.step operation
  have hunder : (log.under operation).traceRetention = .bounded c ∧
      (log.under operation).traceDropped = pushed.length - c := by
    cases operation with
    | pushEvent => exact ⟨hretention, hdropped⟩
    | setTraceRetention => cases hfirst rfl; exact ⟨rfl, hdropped⟩
  rw [pushedEvents, filterMap_cons_toList, ← append_assoc]
  refine ih hnext (hsame.trans hunder.1) (hcount.trans ?_) hrest
  rw [hunder.1, hunder.2, excess, length_append]
  omega

end TraceLog

/-- The trace of a runtime that has done the operations. -/
def traceAfter (operations : List (TraceOperation E)) : TraceLog E :=
  operations.foldl TraceLog.step {}

open TraceLog

/-- The visible trace is the end of what was pushed, and the rest is counted as dropped. A bound `c`
keeps the vector within `2 * c` events, and shows the last `c` of the events if it was there first.
The retention may change at any time; the count, a `u64` in the source, is taken not to wrap. -/
theorem trace_retained (operations : List (TraceOperation E)) :
    (traceAfter operations).visible <:+ pushedEvents operations ∧
      (traceAfter operations).visible.length + (traceAfter operations).traceDropped =
        (pushedEvents operations).length ∧
      (∀ c, (traceAfter operations).traceRetention = .bounded c →
        (traceAfter operations).trace.length ≤ 2 * c) ∧
      ∀ c before after, operations = before ++ .setTraceRetention (.bounded c) :: after →
        pushedEvents before = [] →
        (∀ operation ∈ after, operation.event? = none →
          operation = .setTraceRetention (.bounded c)) →
        (traceAfter operations).visible.length = min (pushedEvents operations).length c := by
  have hstart : ({} : TraceLog E).Follows [] :=
    ⟨Nat.le_refl _, nofun, Nat.le_refl _, rfl, Nat.le_refl _⟩
  have hend : (traceAfter operations).Follows (pushedEvents operations) := hstart.run operations
  have hmost := hend.most
  have hlength : (traceAfter operations).visible.length =
      (pushedEvents operations).length - (traceAfter operations).traceDropped := by
    rw [hend.visible, length_drop]
  refine ⟨hend.visible ▸ drop_suffix .., by omega, fun c hc => ?_, ?_⟩
  · have hdropped := hend.dropped
    have hshort := hend.short c hc
    rw [hc, TraceRetention.excess] at hdropped
    rw [visible, length_drop] at hlength
    omega
  rintro c before after rfl hnone hstays
  have hbefore := hstart.run before
  rw [hnone] at hbefore
  obtain ⟨hset, hsame, _⟩ := hbefore.step (.setTraceRetention (.bounded c))
  have hzero := Nat.le_zero.1 hset.most
  have hbound := hset.run_bounded hsame (hzero.trans (Nat.zero_sub c).symm) hstays
  have hall : pushedEvents (before ++ .setTraceRetention (.bounded c) :: after) =
      pushedEvents after := by
    rw [pushedEvents, filterMap_append]
    exact congrArg (· ++ _) hnone
  have hfold : traceAfter (before ++ .setTraceRetention (.bounded c) :: after) = _ := foldl_append
  rw [hlength, hall, hfold, foldl_cons, hbound]
  change _ - ((pushedEvents after).length - c) = _
  omega

end Tina
