import Tina.Connect.CallGroup
import Tina.Http.Types

/-!
One connect: the addresses that DNS gave, the attempts on them, and the race for the first that
connects.
-/

namespace Tina.Connect

open Http (CallError)

inductive SocketAddr where
  | v4 (ip port : Nat)
  | v6 (ip port flowinfo scopeId : Nat)
deriving DecidableEq

def SocketAddr.isIpv4 : SocketAddr → Bool
  | .v4 .. => true
  | .v6 .. => false

def SocketAddr.isIpv6 : SocketAddr → Bool
  | .v4 .. => false
  | .v6 .. => true

inductive AddressFamilyPolicy where
  | ipv6First
  | ipv4First
  | preserveOrder

structure HappyEyeballsPolicy where
  delay : Nat
  maxConcurrentAttempts : Nat

structure ConnectPolicy where
  dnsTimeout : Nat
  connectTimeout : Nat
  maxResolvedAddresses : Nat
  addressFamily : AddressFamilyPolicy
  happyEyeballs : HappyEyeballsPolicy
  maxTotalAttempts : Nat

inductive ConnectPolicyError where
  | zeroTotalAttempts
  | zeroResolvedAddresses
  | zeroConcurrentAttempts
  | concurrencyAboveTotal (concurrent total : Nat)
  | zeroDnsTimeout
  | zeroConnectTimeout
deriving DecidableEq

namespace ConnectPolicy

/-- Durations are in milliseconds. -/
def balanced : ConnectPolicy where
  dnsTimeout := 5000
  connectTimeout := 10000
  maxResolvedAddresses := 3
  addressFamily := .ipv6First
  happyEyeballs := { delay := 250, maxConcurrentAttempts := 2 }
  maxTotalAttempts := 6

def validate (policy : ConnectPolicy) : Except ConnectPolicyError Unit :=
  if policy.maxTotalAttempts = 0 then .error .zeroTotalAttempts
  else if policy.maxResolvedAddresses = 0 then .error .zeroResolvedAddresses
  else if policy.happyEyeballs.maxConcurrentAttempts = 0 then .error .zeroConcurrentAttempts
  else if policy.maxTotalAttempts < policy.happyEyeballs.maxConcurrentAttempts then
    .error (.concurrencyAboveTotal policy.happyEyeballs.maxConcurrentAttempts
      policy.maxTotalAttempts)
  else if policy.dnsTimeout = 0 then .error .zeroDnsTimeout
  else if policy.connectTimeout = 0 then .error .zeroConnectTimeout
  else .ok ()

def effectiveAttemptCap (policy : ConnectPolicy) : Nat :=
  min policy.maxResolvedAddresses policy.maxTotalAttempts

def orderAddresses (policy : ConnectPolicy) (addrs : List SocketAddr) : List SocketAddr :=
  let ordered := match policy.addressFamily with
    | .preserveOrder => addrs
    | .ipv6First => addrs.filter SocketAddr.isIpv6 ++ addrs.filter SocketAddr.isIpv4
    | .ipv4First => addrs.filter SocketAddr.isIpv4 ++ addrs.filter SocketAddr.isIpv6
  ordered.take policy.maxResolvedAddresses

end ConnectPolicy

inductive DnsOutcome where
  | notAttempted
  | resolved (count : Nat)
  | full
  | closed
  | timeout
  | failed

inductive DnsClassification where
  | proceed
  | noAddresses
  | failed

inductive ConnectAttemptOutcome where
  | connected
  | connectIo
  | connectTimeout
  | tlsHandshake
  | tlsCertificate
  | tlsName
  | tlsAlpnMismatch
  | tlsFull
  | tlsClosed
  | cancelled
  | lateCompletion

def ConnectAttemptOutcome.isConnected : ConnectAttemptOutcome → Bool
  | .connected => true
  | _ => false

inductive AddressFamily where
  | v4
  | v6

def AddressFamily.of : SocketAddr → AddressFamily
  | .v4 .. => .v4
  | .v6 .. => .v6

structure ConnectAttemptReport where
  addr : SocketAddr
  family : AddressFamily
  outcome : ConnectAttemptOutcome

def ConnectAttemptReport.new (addr : SocketAddr) (outcome : ConnectAttemptOutcome) :
    ConnectAttemptReport :=
  { addr, family := .of addr, outcome }

inductive ConnectStep where
  | continue
  | won (losers : List (CallGroupCancelRequest SocketAddr))
  | lateCompletion (addr : SocketAddr) (connected : Bool)
  | exhausted
  | settled

inductive ConnectAttemptsError where
  | attemptSlotsFull
  | duplicateAttempt

/-- The parts of a report that the attempts decide; the endpoint's own data is copied beside
them. -/
structure ConnectReport where
  dns : DnsOutcome
  resolvedAddresses : List SocketAddr
  attempted : List ConnectAttemptReport
  winner : Option SocketAddr
  cancelledLosers : Nat
  lateCompletions : Nat

structure ConnectAttempts (R : Type) where
  policy : ConnectPolicy
  group : CallGroup SocketAddr R
  candidates : List SocketAddr
  resolvedAddresses : List SocketAddr
  dns : DnsOutcome
  startedTotal : Nat
  attemptsLog : List ConnectAttemptReport
  winner : Option SocketAddr
  cancelledLosers : Nat
  lateCompletions : Nat
  settled : Bool

namespace ConnectAttempts

variable {R : Type}

def new (policy : ConnectPolicy) : Option (ConnectAttempts R) := do
  let group ← CallGroup.withCapacity (max policy.happyEyeballs.maxConcurrentAttempts 1)
  return {
    policy
    group
    candidates := []
    resolvedAddresses := []
    dns := .notAttempted
    startedTotal := 0
    attemptsLog := []
    winner := none
    cancelledLosers := 0
    lateCompletions := 0
    settled := false }

/-- `BoundedItems::try_from_iter`: all items, if there are at most `maxItems`. -/
def boundedItems (maxItems : Nat) (items : List SocketAddr) : Option (List SocketAddr) :=
  if maxItems = 0 ∨ maxItems < items.length then none else some items

/-- `none` is the panic when more candidates come than the attempt cap allows. -/
def recordDns (attempts : ConnectAttempts R) (result : Except CallError (List SocketAddr)) :
    Option (ConnectAttempts R × DnsClassification) :=
  match result with
  | .ok addrs => do
    let ordered := (attempts.policy.orderAddresses addrs).take attempts.policy.effectiveAttemptCap
    let candidates ← boundedItems (max attempts.policy.effectiveAttemptCap 1) ordered
    return ({ attempts with
        dns := .resolved addrs.length
        resolvedAddresses := ordered
        candidates },
      if candidates.isEmpty then .noAddresses else .proceed)
  | .error error =>
    let dns := match error with
      | .dnsFull => .full
      | .dnsClosed => .closed
      | .timeout => .timeout
      | _ => .failed
    some ({ attempts with dns, settled := true }, .failed)

def canStart (attempts : ConnectAttempts R) : Bool :=
  attempts.winner.isNone && !attempts.settled && !attempts.candidates.isEmpty &&
    attempts.startedTotal < attempts.policy.maxTotalAttempts &&
    attempts.group.entries.length < attempts.policy.happyEyeballs.maxConcurrentAttempts &&
    !attempts.group.isFull

def takeCandidate (attempts : ConnectAttempts R) : ConnectAttempts R × Option SocketAddr :=
  if attempts.canStart then
    match attempts.candidates with
    | [] => (attempts, none)
    | addr :: candidates => ({ attempts with candidates }, some addr)
  else (attempts, none)

def start (attempts : ConnectAttempts R) (addr : SocketAddr) (handle : HandleId) :
    Option (ConnectAttempts R × Except ConnectAttemptsError CallGroupToken) := do
  let (group, result) ← attempts.group.startCancelable addr handle
  match result with
  | .ok token =>
    return ({ attempts with group, startedTotal := attempts.startedTotal + 1 }, .ok token)
  | .error (.full _) =>
    return ({ attempts with group, candidates := addr :: attempts.candidates },
      .error .attemptSlotsFull)
  | .error (.duplicateKey _) => return ({ attempts with group }, .error .duplicateAttempt)

/-- At most one row for each address. -/
def recordTerminal (attempts : ConnectAttempts R) (addr : SocketAddr)
    (outcome : ConnectAttemptOutcome) : ConnectAttempts R :=
  if attempts.attemptsLog.any fun row => row.addr = addr then attempts
  else { attempts with attemptsLog := attempts.attemptsLog ++ [.new addr outcome] }

def isExhausted (attempts : ConnectAttempts R) : Bool :=
  attempts.winner.isNone && attempts.group.entries.isEmpty &&
    (attempts.candidates.isEmpty || attempts.policy.maxTotalAttempts ≤ attempts.startedTotal)

def typedOutcome (outcome : CallOutcome R) (classify : R → ConnectAttemptOutcome) :
    ConnectAttemptOutcome :=
  match outcome with
  | .replied reply => classify reply
  | .timeout => .connectTimeout
  | .full | .closed | .rejected _ => .connectIo

def recordAttempt (attempts : ConnectAttempts R) (addr : SocketAddr) (token : CallGroupToken)
    (outcome : CallOutcome R) (classify : R → ConnectAttemptOutcome) :
    Option (ConnectAttempts R × ConnectStep) :=
  let typed := typedOutcome outcome classify
  let connected := typed.isConnected
  if attempts.winner.isSome || attempts.settled then do
    let (group, _) ← attempts.group.recordReply addr token outcome fun _ => false
    let attempts := { attempts with group, lateCompletions := attempts.lateCompletions + 1 }
    return (attempts.recordTerminal addr .lateCompletion, .lateCompletion addr connected)
  else do
    let (group, result) ← attempts.group.recordReply addr token outcome fun _ => connected
    let attempts := { attempts with group }
    match result with
    | .ok step =>
      if connected then
        let attempts := { attempts with winner := some addr }.recordTerminal addr .connected
        return ({ attempts with
            cancelledLosers := step.cancelLosers.length
            settled := attempts.settled || step.cancelLosers.isEmpty }, .won step.cancelLosers)
      else
        let attempts := attempts.recordTerminal addr typed
        if attempts.isExhausted then return ({ attempts with settled := true }, .exhausted)
        else return (attempts, .continue)
    | .error _ =>
      return ({ attempts with lateCompletions := attempts.lateCompletions + 1 },
        .lateCompletion addr connected)

def recordCancel (attempts : ConnectAttempts R) (addr : SocketAddr) (token : CallGroupToken)
    (outcome : CancelOutcome) : ConnectAttempts R × ConnectStep :=
  let (group, result) := attempts.group.recordCancel addr token outcome
  let ready := match result with
    | .ok ready => ready
    | .error _ => false
  let attempts := { attempts with group }.recordTerminal addr .cancelled
  if ready then ({ attempts with settled := true }, .settled) else (attempts, .continue)

def drainForCancel (attempts : ConnectAttempts R) :
    ConnectAttempts R × List (CallGroupCancelRequest SocketAddr) :=
  let (group, drained) := attempts.group.drainPendingForCancel
  ({ attempts with
      candidates := []
      group
      cancelledLosers := attempts.cancelledLosers + drained.length
      settled := attempts.settled || drained.isEmpty },
    drained)

def isSettled (attempts : ConnectAttempts R) : Bool :=
  attempts.settled && attempts.group.reportReady

def report (attempts : ConnectAttempts R) : ConnectReport where
  dns := attempts.dns
  resolvedAddresses := attempts.resolvedAddresses
  attempted := attempts.attemptsLog
  winner := attempts.winner
  cancelledLosers := attempts.cancelledLosers
  lateCompletions := attempts.lateCompletions

end ConnectAttempts

end Tina.Connect
