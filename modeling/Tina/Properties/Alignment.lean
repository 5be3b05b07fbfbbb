import Tina.Runtime.Scripted
import Tina.Spec.Reachable

/-!
The mailbox of an entry and its queue of call contexts. Both are queues of their own, and a
message is paired with its context only by its place, so the two must grow and shrink
together. They do on every path that puts a message into a mailbox, except on the one that
puts a terminal result into a reserved slot.
-/

namespace Tina

open Lib List Happening Tina.Runtime

variable {h : Host} {s t : Runtime h} {kind : Kind} {index : Nat}

section

variable {P : Payload}

/-- What the event puts into the mailbox of `isolate`. A terminal result is not a call. -/
def Happening.acceptedBy (isolate : IsolateId) :
    Happening P → Option (P.Message × Option MessageCallContext)
  | .accepted id message callContext => if id = isolate then some (message, callContext) else none
  | .terminalDelivered id message => if id = isolate then some (message, none) else none
  | _ => none

/-- What the event takes out of the mailbox of `isolate`. -/
def Happening.receivedFrom (isolate : IsolateId) :
    Happening P → Option (P.Message × Option MessageCallContext)
  | .received id delivered =>
    if id = isolate then some (delivered.message, delivered.callContext) else none
  | _ => none

/-- The event is not about the mailbox of `isolate`. -/
def Happening.MailQuiet (isolate : IsolateId) (happening : Happening P) : Prop :=
  happening.acceptedBy isolate = none ∧ happening.receivedFrom isolate = none

theorem Happening.mailQuiet_of_tag {happening : Happening P} (isolate : IsolateId)
    (htag : happening.tag ∉ [Tag.accepted, .received, .terminalDelivered]) :
    happening.MailQuiet isolate := by
  cases happening <;> simp_all [tag, MailQuiet, acceptedBy, receivedFrom]

/-- One mailbox: its owner, its messages and their call contexts. -/
structure Mail (P : Payload) where
  id : IsolateId
  queue : List P.Message
  callContexts : List (Option MessageCallContext)

def RegisteredEntry.mail (entry : RegisteredEntry P) : Mail P where
  id := entry.id
  queue := entry.mailbox.mailbox.queue
  callContexts := entry.callContexts

end

open RegisteredEntry

namespace Runtime

/-- The messages that the mailbox of `isolate` ever took, with the contexts they came with. -/
def accepted (s : Runtime h) (isolate : IsolateId) :
    List (h.Message × Option MessageCallContext) :=
  s.history.filterMap (Happening.acceptedBy isolate)

/-- The messages that left the mailbox of `isolate`, with the contexts they left with. -/
def received (s : Runtime h) (isolate : IsolateId) :
    List (h.Message × Option MessageCallContext) :=
  s.history.filterMap (Happening.receivedFrom isolate)

/-- The two queues have one length, and what left the mailbox, followed by what waits in it,
is what it took: every message leaves with the context it came with. -/
def AlignedAt (s : Runtime h) (mail : Mail h) : Prop :=
  mail.callContexts.length = mail.queue.length ∧
    s.received mail.id ++ mail.queue.zip mail.callContexts = s.accepted mail.id

def mails (s : Runtime h) : List (Mail h) :=
  s.entries.map RegisteredEntry.mail

theorem mail_eq_of_quiet {isolate : IsolateId} {happenings : List (Happening h)}
    (hhistory : t.history = s.history ++ happenings)
    (hquiet : ∀ happening ∈ happenings, happening.MailQuiet isolate) :
    t.accepted isolate = s.accepted isolate ∧ t.received isolate = s.received isolate := by
  have haccepted : happenings.filterMap (acceptedBy isolate) = [] :=
    filterMap_eq_nil_iff.2 fun happening hmem => (hquiet happening hmem).1
  have hreceived : happenings.filterMap (receivedFrom isolate) = [] :=
    filterMap_eq_nil_iff.2 fun happening hmem => (hquiet happening hmem).2
  constructor
  · rw [accepted, hhistory, filterMap_append, haccepted, append_nil, accepted]
  · rw [received, hhistory, filterMap_append, hreceived, append_nil, received]

theorem AlignedAt.of_eq {mail : Mail h} (hs : s.AlignedAt mail)
    (hmail : t.accepted mail.id = s.accepted mail.id ∧ t.received mail.id = s.received mail.id) :
    t.AlignedAt mail := by
  refine ⟨hs.1, ?_⟩
  rw [hmail.1, hmail.2]
  exact hs.2

end Runtime

/-- A mailbox that never took a terminal result is aligned; one that does not exist yet has
no past. -/
structure MailAligned (s : Runtime h) : Prop where
  fresh : ∀ id, s.nextIsolateId ≤ id → s.accepted id = [] ∧ s.received id = []
  aligned : ∀ mail ∈ s.mails, (∀ message, .terminalDelivered mail.id message ∉ s.history) →
    s.AlignedAt mail

namespace MailAligned

variable {happenings : List (Happening h)}

/-- Nothing is put into a mailbox or taken out of one. -/
theorem frame (hs : MailAligned s) (hmails : ∀ mail ∈ t.mails, mail ∈ s.mails)
    (hnext : s.nextIsolateId ≤ t.nextIsolateId) (hhistory : t.history = s.history ++ happenings)
    (hquiet : ∀ happening ∈ happenings, ∀ id, happening.MailQuiet id) : MailAligned t := by
  have heq : ∀ id, t.accepted id = s.accepted id ∧ t.received id = s.received id :=
    fun id => mail_eq_of_quiet hhistory fun happening hmem => hquiet happening hmem id
  refine ⟨fun id hid => ?_, fun mail hmail hnever => ?_⟩
  · rw [(heq id).1, (heq id).2]
    exact hs.fresh id (Nat.le_trans hnext hid)
  refine (hs.aligned mail (hmails mail hmail) fun message hmem => hnever message ?_).of_eq
    (heq mail.id)
  rw [hhistory]
  exact mem_append_left _ hmem

/-- Something happens to the mailbox of one entry. -/
theorem withEntry (hs : MailAligned s) (hregistry : Registry s)
    {entry entry' : RegisteredEntry h} (hentry : s.entries[index]? = some entry)
    (hentries : t.entries = s.entries.set index entry') (hid : entry'.id = entry.id)
    (hnext : t.nextIsolateId = s.nextIsolateId) (hhistory : t.history = s.history ++ happenings)
    (hothers : ∀ happening ∈ happenings, ∀ id, id ≠ entry.id → happening.MailQuiet id)
    (haligned : (∀ message, .terminalDelivered entry.id message ∉ t.history) →
      s.AlignedAt entry.mail → t.AlignedAt entry'.mail) : MailAligned t := by
  have heq : ∀ id, id ≠ entry.id → t.accepted id = s.accepted id ∧ t.received id = s.received id :=
    fun id hne => mail_eq_of_quiet hhistory fun happening hmem => hothers happening hmem id hne
  have hnever : ∀ {id : IsolateId}, (∀ message, .terminalDelivered id message ∉ t.history) →
      ∀ message, .terminalDelivered id message ∉ s.history := by
    intro id hnever message hmem
    exact hnever message (hhistory ▸ mem_append_left _ hmem)
  have hmem := mem_of_getElem? hentry
  refine ⟨fun id hlast => ?_, fun mail hmail hquiet => ?_⟩
  · have hne : id ≠ entry.id := by
      have hbelow := hregistry.entry_below hmem
      rw [hnext] at hlast
      exact Nat.ne_of_gt (Nat.lt_of_lt_of_le hbelow hlast)
    rw [(heq id hne).1, (heq id hne).2]
    exact hs.fresh id (hnext ▸ hlast)
  obtain ⟨other, hother, rfl⟩ := mem_map.1 hmail
  rw [hentries] at hother
  rcases hregistry.mem_set_cases hentry hother with rfl | ⟨hother, hne⟩
  · have hquiet' : ∀ message, .terminalDelivered entry.id message ∉ t.history := by
      rw [← hid]
      exact hquiet
    exact haligned hquiet' (hs.aligned entry.mail (mem_map_of_mem hmem) (hnever hquiet'))
  · exact (hs.aligned other.mail (mem_map_of_mem hother) (hnever hquiet)).of_eq (heq other.id hne)

end MailAligned

section

variable {index : Nat} {entry entry' : RegisteredEntry h} {message : h.Message}
  {known : Option MessageCallContext → Prop}

/-- A message and its context join their queues together. -/
theorem Runtime.AlignedAt.accept (hs : s.AlignedAt entry.mail)
    {callContext : Option MessageCallContext}
    (hhistory : t.history = s.history ++ [.accepted entry.id message callContext]) :
    t.AlignedAt (entry.accept message callContext).mail := by
  obtain ⟨hlength, hpairs⟩ := hs
  have haccepted : t.accepted entry.id = s.accepted entry.id ++ [(message, callContext)] := by
    simp [accepted, hhistory, acceptedBy]
  have hreceived : t.received entry.id = s.received entry.id := by
    simp [received, hhistory, receivedFrom]
  refine ⟨by simpa [mail, RegisteredEntry.accept, AnyMailboxAdapter.push] using hlength, ?_⟩
  change t.received entry.id ++ (entry.mail.queue ++ [message]).zip
    (entry.mail.callContexts ++ [callContext]) = t.accepted entry.id
  rw [zip_append hlength.symm, haccepted, hreceived, ← append_assoc]
  exact congrArg (· ++ [(message, callContext)]) hpairs

/-- A message leaves with the context that came with it. -/
theorem Runtime.AlignedAt.receive (hs : s.AlignedAt entry.mail) {rest : List h.Message}
    (hqueue : entry.mailbox.mailbox.queue = message :: rest) (hhistory : t.history = s.history ++
      [.received entry.id ⟨message, entry.callContexts.head?.join⟩]) :
    t.AlignedAt { id := entry.id, queue := rest, callContexts := entry.callContexts.tail } := by
  obtain ⟨hlength, hpairs⟩ := hs
  dsimp only [mail] at hlength hpairs
  rw [hqueue] at hlength hpairs
  cases hcontexts : entry.callContexts with
  | nil => simp [hcontexts] at hlength
  | cons callContext =>
  rw [hcontexts] at hlength hpairs hhistory
  have haccepted : t.accepted entry.id = s.accepted entry.id := by
    simp [accepted, hhistory, acceptedBy]
  have hreceived : t.received entry.id = s.received entry.id ++ [(message, callContext)] := by
    simp [received, hhistory, receivedFrom]
  refine ⟨by simpa using hlength, ?_⟩
  rw [haccepted, hreceived, ← hpairs, append_assoc]
  rfl

theorem EntryStep.mailQuiet {P : Payload} {entry entry' : RegisteredEntry P}
    {happenings : List (Happening P)} (hstep : EntryStep known entry entry' happenings) :
    ∀ happening ∈ happenings, ∀ id, id ≠ entry.id → happening.MailQuiet id := by
  intro happening hmem id hne
  cases hstep with
  | accept | receive =>
    rw [mem_singleton.1 hmem]
    simp [MailQuiet, acceptedBy, receivedFrom, hne.symm]
  | quiet | park | unpark => cases hmem

theorem EntryStep.aligned (hstep : EntryStep known entry entry' happenings)
    (hhistory : t.history = s.history ++ happenings) (hs : s.AlignedAt entry.mail) :
    t.AlignedAt entry'.mail := by
  have hquiet : happenings = [] → entry'.mail = entry.mail → t.AlignedAt entry'.mail := by
    rintro rfl hmail
    rw [hmail]
    exact hs.of_eq (mail_eq_of_quiet hhistory (by simp))
  cases hstep with
  | quiet hid _ _ hmailbox hcontexts =>
    exact hquiet rfl (by simp [mail, hid, hmailbox.1, hcontexts])
  | accept => exact hs.accept hhistory
  | park | unpark => exact hquiet rfl rfl
  | receive _ _ hqueue => exact hs.receive hqueue hhistory

end

/-- Acts of these kinds put nothing into a mailbox and take nothing out of one. -/
theorem Act.mails_eq (hact : Act kind s t) (hqueue : kind ≠ .queue) (hcall : kind ≠ .call)
    (hregister : kind ≠ .register) (hcollect : kind ≠ .collect) (hsettle : kind ≠ .settle)
    (hstop : kind ≠ .stop) : t.mails = s.mails ∧ t.nextIsolateId = s.nextIsolateId := by
  cases hact with
  | observed _ _ _ _ _ _ _ hparent | restartedObserved _ _ _ _ _ _ _ _ _ _ hparent =>
    exact ⟨map_set_of_eq mail hparent rfl, rfl⟩
  | _ => first | exact ⟨rfl, rfl⟩ | contradiction

/-- Settling an observation puts a message into the mailbox of the parent that it settles
for, or into none. -/
theorem Runtime.Settle.keeps_mailAligned (hsettle : Settle index s t)
    (hregistry : Registry s) (hs : MailAligned s) : MailAligned t := by
  cases hsettle with
  | unreserved =>
    exact hs.frame (fun _ => id) (Nat.le_refl _) (append_nil _).symm (by simp)
  | released _ _ _ hparent =>
    refine hs.withEntry hregistry hparent rfl rfl rfl rfl ?_ fun _ haligned => haligned.of_eq ?_
    · rintro _ hmem id -
      rw [mem_singleton.1 hmem]
      exact mailQuiet_of_tag id (by simp [tag])
    · exact mail_eq_of_quiet rfl (by simpa using mailQuiet_of_tag _ (by simp [tag]))
  | delivered _ message _ _ hparent =>
  refine hs.withEntry hregistry hparent rfl rfl rfl rfl ?_ ?_
  · rintro _ hmem id hne
    rw [mem_singleton.1 hmem]
    simp [MailQuiet, acceptedBy, receivedFrom, hne.symm]
  · intro hnever
    exact absurd (mem_append_right _ (mem_singleton_self _)) (hnever message)

theorem MailAligned.mark (hs : MailAligned s) (hregistry : Registry s)
    {entry : RegisteredEntry h} (path : StopPath)
    (hentry : s.entries[index]? = some entry) : MailAligned (s.mark index entry path) := by
  have hquiet : ∀ id, (s.stopEvent entry.id path).MailQuiet id :=
    fun id => mailQuiet_of_tag id (by simp [stopEvent, tag])
  refine hs.withEntry hregistry hentry rfl rfl rfl rfl ?_ fun _ haligned => haligned.of_eq ?_
  · rintro _ hmem id -
    rw [mem_singleton.1 hmem]
    exact hquiet id
  · exact mail_eq_of_quiet rfl (by simpa using hquiet _)

theorem Act.keeps_mailAligned (hact : Act kind s t) (hregistry : Registry s)
    (hs : MailAligned s) : MailAligned t := by
  obtain ⟨happenings, hhistory, htags⟩ := hact.appends
  -- An act whose events are not about mail keeps what the mailboxes hold.
  have hframe : t.mails = s.mails → s.nextIsolateId ≤ t.nextIsolateId →
      (∀ happening ∈ happenings, ∀ id, happening.MailQuiet id) → MailAligned t :=
    fun hmails hnext => hs.frame (fun mail hmail => hmails ▸ hmail) hnext hhistory
  by_cases hplain : kind ≠ .queue ∧ kind ≠ .call ∧ kind ≠ .register ∧ kind ≠ .collect ∧
      kind ≠ .settle ∧ kind ≠ .stop
  · obtain ⟨hqueue, hcall, hregister, hcollect, hsettle, hstop⟩ := hplain
    obtain ⟨hmails, hnext⟩ := hact.mails_eq hqueue hcall hregister hcollect hsettle hstop
    refine hframe hmails (Nat.le_of_eq hnext.symm) fun happening hmem id => ?_
    have hdisjoint : ∀ tag ∈ [Tag.accepted, .received, .terminalDelivered], tag ∉ kind.tags := by
      cases kind <;> simp [Kind.tags] at hqueue hcall hsettle hstop ⊢
    exact mailQuiet_of_tag id fun htag => hdisjoint _ htag (htags happening hmem)
  cases hact with
  | entry hentry hstep =>
    exact hs.withEntry hregistry hentry rfl hstep.key_eq.1 rfl rfl hstep.mailQuiet
      fun _ => hstep.aligned rfl
  | openedLocally _ _ _ _ hentry =>
    refine hs.withEntry hregistry hentry rfl rfl rfl rfl ?_ fun _ haligned => haligned.accept rfl
    rintro _ hmem id hne
    rw [mem_singleton.1 hmem]
    simp [MailQuiet, acceptedBy, receivedFrom, hne.symm]
  | settled hsettle => exact hsettle.keeps_mailAligned hregistry hs
  | stopped path hentry _ _ hsettle =>
    have hmarked := hs.mark hregistry path hentry
    rcases hsettle with ⟨rfl, -⟩ | ⟨_, _, -, -, -, hsettle⟩
    · exact hmarked
    · exact hsettle.keeps_mailAligned (hregistry.mark path hentry) hmarked
  | registered _ _ hid _ _ hmailbox hcontexts =>
    refine ⟨fun id hlast => hs.fresh id (Nat.le_of_succ_le hlast), fun mail hmail hnever => ?_⟩
    obtain ⟨other, hother, rfl⟩ := mem_map.1 hmail
    rcases mem_append.1 hother with hother | hother
    · exact hs.aligned other.mail (mem_map_of_mem hother) hnever
    -- The id is new, so no event is about it.
    obtain rfl := mem_singleton.1 hother
    obtain ⟨haccepted, hreceived⟩ := hs.fresh other.id (Nat.le_of_eq hid.symm)
    refine ⟨by simp [mail, hmailbox, hcontexts, AnyMailboxAdapter.new, DefaultMailbox.new], ?_⟩
    change s.received other.id ++ _ = s.accepted other.id
    simp [haccepted, hreceived, mail, hcontexts]
  | collected _ _ _ hkept =>
    refine hs.frame (fun mail hmail => ?_) (Nat.le_refl _) (append_nil _).symm (by simp)
    obtain ⟨entry, hentry, rfl⟩ := mem_map.1 hmail
    exact mem_map_of_mem (mem_filter.1 (hkept.mem_iff.1 hentry)).1
  | skipped =>
    exact hs.frame (fun _ => id) (Nat.le_succ _) (append_nil _).symm (by simp)
  | refused | completed =>
    refine hs.frame (fun _ => id) (Nat.le_refl _) rfl fun happening hmem id => ?_
    refine mailQuiet_of_tag id ?_
    rcases tag_of_mem_outcomeEvents hmem with htag | htag <;> simp [htag]
  | cancelled =>
    refine hs.frame (fun _ => id) (Nat.le_refl _) rfl fun happening hmem id => ?_
    obtain ⟨call, -, hmem⟩ := mem_flatMap.1 hmem
    refine mailQuiet_of_tag id ?_
    rcases tag_of_mem_cancelEvents hmem with htag | htag <;> simp [htag]
  | turn | discarded | unreserved | continued =>
    refine hs.frame (fun _ => id) (Nat.le_refl _) rfl fun happening hmem id => ?_
    refine mailQuiet_of_tag id ?_
    simp only [mem_cons, not_mem_nil, or_false] at hmem
    rcases hmem with rfl | rfl <;> simp [tag]
  | _ =>
  first
  | exact hs.frame (fun _ => id) (Nat.le_refl _) (append_nil _).symm (by simp)
  | simp at hplain

theorem mailAligned_new (system : SystemIncarnation) (shardId : ShardId) (shard : h.Shard)
    (driver : h.Driver) (net : h.Net) :
    MailAligned (new h system shardId shard driver net) :=
  ⟨fun _ _ => ⟨rfl, rfl⟩, by rintro _ ⟨⟩⟩

/-- In every reachable state, a mailbox into which no terminal result was put by way of a reserved
slot has as many call contexts as messages, and every message that left it, or waits in it, stands
beside the context it came with. The isolates and the operations of the run may be any. A terminal
result is put in without a context, and behind it the contexts stand a message too early. -/
theorem aligned_of_no_terminal_delivery (hs : Reachable s)
    {entry : RegisteredEntry h} (hentry : entry ∈ s.entries)
    (hnever : ∀ message, .terminalDelivered entry.id message ∉ s.history) :
    s.AlignedAt entry.mail := by
  have haligned : MailAligned s := hs.induct mailAligned_new
    fun _ _ _ hact hs haligned => hact.keeps_mailAligned hs.registry haligned
  exact haligned.aligned entry.mail (mem_map_of_mem hentry) hnever

section

variable {isolate : IsolateId} {message : h.Message}

/-- The mailbox of `isolate` has no slot set aside. -/
def Runtime.Unreserved (isolate : IsolateId) (s : Runtime h) : Prop :=
  ∀ entry ∈ s.entries, entry.id = isolate → entry.mailbox.mailbox.reserved = 0

theorem Runtime.Settle.undelivered (hsettle : Settle index s t)
    (hnone : ∀ record ∈ s.childRecords, record.terminalSlotReserved = true →
      record.parent ≠ isolate)
    (hmem : .terminalDelivered isolate message ∈ t.history) :
    .terminalDelivered isolate message ∈ s.history := by
  cases hsettle with
  | unreserved => exact hmem
  | released => exact (mem_append.1 hmem).resolve_right (by simp)
  | delivered _ _ hrecord hheld _ hid =>
    refine (mem_append.1 hmem).resolve_right fun hnew => ?_
    cases mem_singleton.1 hnew
    exact hnone _ (mem_of_getElem? hrecord) hheld hid.symm

/-- A terminal result goes into a slot that was set aside for it. -/
theorem Act.undelivered (hact : Act kind s t) (hslots : Slots s) (hfree : s.Unreserved isolate)
    (hmem : .terminalDelivered isolate message ∈ t.history) :
    .terminalDelivered isolate message ∈ s.history := by
  have hnone : ∀ record ∈ s.childRecords, record.terminalSlotReserved = true →
      record.parent ≠ isolate := by
    intro record hrecord hheld hparent
    obtain ⟨-, -, -, -, entry, hentry, hid⟩ := hslots.holder record hrecord hheld
    have hzero := (hslots.held entry hentry).symm.trans (hfree entry hentry (hid.trans hparent))
    exact countP_eq_zero.1 hzero record hrecord (by simp [ChildRecord.holds, hheld, hid])
  obtain ⟨_, hhistory, htags⟩ := hact.appends
  have hquiet (htag : Tag.terminalDelivered ∉ kind.tags) :
      .terminalDelivered isolate message ∈ s.history :=
    (mem_append.1 (hhistory ▸ hmem)).resolve_right fun hnew => htag (htags _ hnew)
  cases hact with
  | unreserved => exact (mem_append.1 hmem).resolve_right (by simp)
  | settled hsettle => exact hsettle.undelivered hnone hmem
  | stopped _ _ _ _ hsettle =>
    rcases hsettle with ⟨rfl, -⟩ | ⟨_, _, -, -, -, hsettle⟩
    · exact (mem_append.1 hmem).resolve_right (by simp [stopEvent])
    · exact (mem_append.1 (hsettle.undelivered hnone hmem)).resolve_right (by simp [stopEvent])
  | _ => exact hquiet (by simp [Kind.tags])

/-- The same for a mailbox that never has a slot set aside on the way: every reachable state is
reached by acts. -/
theorem aligned_of_unreserved {system : SystemIncarnation} {shardId : ShardId} {shard : h.Shard}
    {driver : h.Driver} {net : h.Net}
    (hrun : Relation.ReflTransGen (fun s t => s.Unreserved isolate ∧ ∃ kind, Act kind s t)
      (Runtime.new h system shardId shard driver net) s) :
    ∀ entry ∈ s.entries, entry.id = isolate → s.AlignedAt entry.mail := by
  have hall : Consistent s ∧ MailAligned s ∧
      ∀ message, .terminalDelivered isolate message ∉ s.history := by
    induction hrun with
    | refl => exact ⟨consistent_new, mailAligned_new .., by rintro _ ⟨⟩⟩
    | tail _ hstep ih =>
      obtain ⟨hfree, _, hact⟩ := hstep
      obtain ⟨hs, haligned, hnever⟩ := ih
      exact ⟨hact.consistent hs, hact.keeps_mailAligned hs.registry haligned,
        fun message hmem => hnever message (hact.undelivered hs.slots hfree hmem)⟩
  rintro entry hentry rfl
  exact hall.2.1.aligned entry.mail (mem_map_of_mem hentry) hall.2.2

end

/-- Isolate 0 spawns isolate 1, observes its result and is then called by isolate 2. -/
def observerScript : Script
  | 0, 1 => some (.spawnObserved
      { spawn := .child 1 4 (some 7), continuation := fun _ => 50
        restartContinuation := none
        terminalContinuation := some fun result => .message (100 + result) })
  | 1, 7 => some (.stopWith 3)
  | 2, 1 => some (.io (.isolateCall
      { targetSystem := 1, targetShard := 0, targetIsolate := 1, targetGeneration := 0
        message := 9 } 10 (fun _ => 77) 0 none))
  | _, _ => some .noop

/-- The mailbox of isolate 1, after it has received a message, holds the call of isolate 2 between
two plain messages. -/
theorem aligned_around_call : ∃ s : Runtime observerScript.host, Reachable s ∧
    ∃ entry ∈ s.entries, entry.mail.queue = [6, 9, 7] ∧ s.AlignedAt entry.mail := by
  obtain ⟨s, hs, hrun⟩ := observerScript.exists_reachable 0
    [.registerWithCapacity 0 4, .registerWithCapacity 2 4, .trySend (scriptAddress 0 1) 5,
      .trySend (scriptAddress 0 1) 6, .trySend (scriptAddress 0 2) 1, .step,
      .trySend (scriptAddress 0 1) 7]
    (fun s => s.history.all (·.tag ≠ .terminalDelivered) &&
      s.entries.any fun entry => entry.mail.queue = [6, 9, 7]) (by decide +kernel)
  obtain ⟨hnever, hqueue⟩ := Bool.and_eq_true_iff.1 hrun
  obtain ⟨entry, hentry, hmail⟩ := any_eq_true.1 hqueue
  refine ⟨s, hs, entry, hentry, of_decide_eq_true hmail,
    aligned_of_no_terminal_delivery hs hentry fun message hmem => ?_⟩
  exact absurd rfl (of_decide_eq_true (all_eq_true.1 hnever _ hmem))

/-- The result of isolate 1 reaches isolate 0 just before the call of isolate 2: it is
handed to the handler as if it were the call. -/
theorem terminal_result_takes_the_callers_context : ∃ s : Runtime observerScript.host,
    Reachable s ∧ (∃ entry ∈ s.entries, ¬ s.AlignedAt entry.mail) ∧
      s.accepted 1 = [(1, none), (50, none), (103, none), (9, some (.localCaller 1))] ∧
      s.received 1 = [(1, none), (50, none), (103, some (.localCaller 1))] := by
  obtain ⟨s, hs, hrun⟩ := observerScript.exists_reachable 0
    [.registerWithCapacity 0 4, .trySend (scriptAddress 0 1) 1, .step,
      .registerWithCapacity 2 4, .trySend (scriptAddress 0 3) 1, .step, .step]
    (fun s => s.entries.any (fun entry =>
        entry.mail.callContexts.length ≠ entry.mail.queue.length) &&
      decide (s.accepted 1 = [(1, none), (50, none), (103, none), (9, some (.localCaller 1))] ∧
        s.received 1 = [(1, none), (50, none), (103, some (.localCaller 1))]))
    (by decide +kernel)
  obtain ⟨hlengths, hmail⟩ := Bool.and_eq_true_iff.1 hrun
  obtain ⟨entry, hentry, hne⟩ := any_eq_true.1 hlengths
  exact ⟨s, hs, ⟨entry, hentry, fun haligned => of_decide_eq_true hne haligned.1⟩,
    of_decide_eq_true hmail⟩

/-- In every reachable state a mailbox has set aside a slot for each record that holds one, and has
room for them all. Such a record watches a running child whose end has not been told. Children may
be observed, restarted and stopped in any order, on this shard and for others. -/
theorem terminal_slots_accounted (hs : Reachable s) : (∀ entry ∈ s.entries,
      entry.mailbox.mailbox.reserved = s.childRecords.countP (ChildRecord.holds entry.id) ∧
      entry.mailbox.mailbox.queue.length + entry.mailbox.mailbox.reserved ≤
        entry.mailbox.mailbox.capacity) ∧
    ∀ record ∈ s.childRecords, record.terminalSlotReserved = true →
      s.HolderOf record ∧ s.Live record.child.isolate := by
  have hslots := hs.consistent.slots
  refine ⟨fun entry hentry => ?_, fun record hrecord hheld => ?_⟩
  · exact ⟨hslots.held entry hentry, (hslots.sound entry hentry).bounded⟩
  · exact ⟨hslots.holder record hrecord hheld, hslots.running record hrecord hheld⟩

/-- Isolate 0 watches its child. -/
theorem terminal_slot_of_observer : ∃ s : Runtime observerScript.host,
    ∃ record ∈ s.childRecords, record.terminalSlotReserved = true ∧
      s.Live record.child.isolate := by
  obtain ⟨s, hs, hrun⟩ := observerScript.exists_reachable 0
    [.registerWithCapacity 0 4, .trySend (scriptAddress 0 1) 1, .step]
    (fun s => s.childRecords.any (·.terminalSlotReserved)) (by decide +kernel)
  obtain ⟨record, hrecord, hheld⟩ := any_eq_true.1 hrun
  exact ⟨s, record, hrecord, hheld, ((terminal_slots_accounted hs).2 record hrecord hheld).2⟩

end Tina
