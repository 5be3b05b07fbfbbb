import Tina.Invariant.Registry

/-!
Mailbox slots that are set aside for terminal results. The reserved count of a mailbox is
the number of records that hold one of its slots; a record that holds a slot watches a
child of its own that is still running.
-/

namespace Tina

open List AnyMailboxAdapter ChildRecord Lib

variable {h : Host} {s t : Runtime h} {kind : Kind} {index : Nat}

theorem Runtime.Settle.fixed (hsettle : Settle index s t) :
    t.systemIncarnation = s.systemIncarnation ∧ t.shardId = s.shardId := by
  cases hsettle <;> exact ⟨rfl, rfl⟩

/-- No act changes who the shard is. -/
theorem Act.fixed (hact : Act kind s t) :
    t.systemIncarnation = s.systemIncarnation ∧ t.shardId = s.shardId := by
  cases hact with
  | settled hsettle => exact hsettle.fixed
  | stopped _ _ _ _ hsettle =>
    rcases hsettle with ⟨rfl, -⟩ | ⟨_, _, -, -, -, hsettle⟩
    · exact ⟨rfl, rfl⟩
    · exact hsettle.fixed
  | _ => exact ⟨rfl, rfl⟩

/-- An entry's mailbox: open while the entry lives, and never promised beyond its
capacity. -/
structure RegisteredEntry.Sound {P : Payload} (entry : RegisteredEntry P) : Prop where
  isOpen : entry.stopped = false → entry.mailbox.IsOpen
  bounded : entry.mailbox.mailbox.queue.length + entry.mailbox.mailbox.reserved ≤
    entry.mailbox.mailbox.capacity

/-- Everything but that the children watched by held slots are still running. -/
structure SlotsHeld (s : Runtime h) : Prop where
  sound : ∀ entry ∈ s.entries, entry.Sound
  held : ∀ entry ∈ s.entries, entry.mailbox.mailbox.reserved =
    s.childRecords.countP (ChildRecord.holds entry.id)
  localChild : ∀ record ∈ s.childRecords, s.Local record.child →
    record.child.generation = 0 ∧ record.child.isolate < s.nextIsolateId
  distinct : s.childRecords.Pairwise fun a b => s.Local a.child → a.child ≠ b.child
  holder : ∀ record ∈ s.childRecords, record.terminalSlotReserved = true →
    record.remoteOwner = none ∧ s.Local record.child ∧
      record.terminalContinuation.isSome = true ∧ record.terminalSettledGeneration = none ∧
      ∃ entry ∈ s.entries, entry.id = record.parent

structure Slots (s : Runtime h) : Prop extends SlotsHeld s where
  running : ∀ record ∈ s.childRecords, record.terminalSlotReserved = true →
    s.Live record.child.isolate

/-- `t` is a state of the same shard, with the same counter of isolates. -/
structure Runtime.SameShard (s t : Runtime h) : Prop where
  system : t.systemIncarnation = s.systemIncarnation
  shard : t.shardId = s.shardId
  next : t.nextIsolateId = s.nextIsolateId

theorem Runtime.SameShard.local_iff (hsame : s.SameShard t) (address : RegisteredAddress) :
    t.Local address ↔ s.Local address := by
  simp only [Local, hsame.system, hsame.shard]

/-- What a record that holds a slot refers to. -/
def Runtime.HolderOf (s : Runtime h) (record : ChildRecord h) : Prop :=
  record.remoteOwner = none ∧ s.Local record.child ∧
    record.terminalContinuation.isSome = true ∧ record.terminalSettledGeneration = none ∧
    ∃ entry ∈ s.entries, entry.id = record.parent

/-- Records that fit the entries of `s`. -/
structure Runtime.Fits (s : Runtime h) (records : List (ChildRecord h)) : Prop where
  localChild : ∀ record ∈ records, s.Local record.child →
    record.child.generation = 0 ∧ record.child.isolate < s.nextIsolateId
  distinct : records.Pairwise fun a b => s.Local a.child → a.child ≠ b.child
  holder : ∀ record ∈ records, record.terminalSlotReserved = true → s.HolderOf record

open Tina.Runtime

namespace SlotsHeld

theorem fits (hs : SlotsHeld s) : s.Fits s.childRecords :=
  { hs with }

/-- The entries change and keep their ids, the records change and fit them. -/
theorem of_change (hsame : s.SameShard t) (hsound : ∀ entry ∈ t.entries, entry.Sound)
    (hheld : ∀ entry ∈ t.entries, entry.mailbox.mailbox.reserved =
      t.childRecords.countP (holds entry.id))
    (hids : ∀ id, (∃ entry ∈ s.entries, entry.id = id) → ∃ entry ∈ t.entries, entry.id = id)
    (hfits : s.Fits t.childRecords) : SlotsHeld t where
  sound := hsound
  held := hheld
  localChild := by
    intro record hrecord hchild
    rw [hsame.next]
    exact hfits.localChild record hrecord ((hsame.local_iff _).1 hchild)
  distinct := hfits.distinct.imp fun hne hchild => hne ((hsame.local_iff _).1 hchild)
  holder := by
    intro record hrecord hheld
    obtain ⟨howner, hchild, hcont, hsettled, hparent⟩ := hfits.holder record hrecord hheld
    exact ⟨howner, (hsame.local_iff _).2 hchild, hcont, hsettled, hids _ hparent⟩

section

variable (hs : SlotsHeld s) (hsame : s.SameShard t) (hentries : t.entries = s.entries)

include hs hsame hentries

/-- The records change, the entries do not. -/
theorem withRecords
    (hcount : ∀ id, t.childRecords.countP (holds id) = s.childRecords.countP (holds id))
    (hfits : s.Fits t.childRecords) : SlotsHeld t := by
  refine of_change hsame (hentries ▸ hs.sound) ?_ (fun _ => hentries ▸ id) hfits
  intro entry hentry
  rw [hcount]
  exact hs.held entry (hentries ▸ hentry)

theorem frame (hrecords : t.childRecords = s.childRecords) : SlotsHeld t :=
  hs.withRecords hsame hentries (fun _ => by rw [hrecords]) (hrecords ▸ hs.fits)

end

/-- One entry changes within its bounds, the records do not. -/
theorem withEntry (hs : SlotsHeld s) {entry : RegisteredEntry h} (entry' : RegisteredEntry h)
    (hentry : s.entries[index]? = some entry) (hid : entry'.id = entry.id)
    (hreserved : entry'.mailbox.mailbox.reserved = entry.mailbox.mailbox.reserved)
    (hsound : entry.Sound → entry'.Sound) (hsame : s.SameShard t)
    (hentries : t.entries = s.entries.set index entry') (hrecords : t.childRecords = s.childRecords)
    : SlotsHeld t := by
  have hmem := mem_of_getElem? hentry
  refine of_change hsame ?_ ?_ ?_ (hrecords ▸ hs.fits)
  · rw [hentries]
    exact forall_mem_set hs.sound (hsound (hs.sound entry hmem))
  · rw [hentries, hrecords]
    refine forall_mem_set hs.held ?_
    rw [hid, hreserved]
    exact hs.held entry hmem
  · intro id hparent
    rw [hentries]
    exact exists_mem_set hentry hparent fun heq => hid.trans heq

end SlotsHeld

variable {P : Payload} {entry : RegisteredEntry P}

theorem Registry.mem_set_cases (hs : Registry s) {entry entry' other : RegisteredEntry h}
    (hentry : s.entries[index]? = some entry) (hother : other ∈ s.entries.set index entry') :
    other = entry' ∨ (other ∈ s.entries ∧ other.id ≠ entry.id) := by
  obtain ⟨_, hposition⟩ := mem_iff_getElem?.1 hother
  rw [getElem?_set] at hposition
  split at hposition
  · split at hposition
    · exact .inl (Option.some.inj hposition).symm
    · cases hposition
  · rename_i hne
    refine .inr ⟨mem_of_getElem? hposition, fun hid => ?_⟩
    exact hne (hs.entry_unique hentry hposition hid.symm)

theorem EntryStep.sound {known : Option MessageCallContext → Prop} {entry' : RegisteredEntry P}
    {happenings : List (Happening P)} (hstep : EntryStep known entry entry' happenings) :
    entry'.stopped = entry.stopped ∧
      entry'.mailbox.mailbox.reserved = entry.mailbox.mailbox.reserved ∧
      (entry.Sound → entry'.Sound) := by
  cases hstep with
  | quiet _ _ hstopped hmailbox =>
    refine ⟨hstopped, by rw [hmailbox.1], fun hsound => ⟨fun hlive => ?_, ?_⟩⟩
    · have hopen := hsound.isOpen (hstopped ▸ hlive)
      exact ⟨hmailbox.2 hopen, by rw [hmailbox.1]; exact hopen.2⟩
    · rw [hmailbox.1]
      exact hsound.bounded
  | accept _ _ hopen hroom =>
    refine ⟨rfl, rfl, fun hsound => ⟨fun _ => hopen, ?_⟩⟩
    simp only [RegisteredEntry.accept, push, length_append, length_singleton]
    unfold HasRoom at hroom
    omega
  | park | unpark => exact ⟨rfl, rfl, fun hsound => ⟨hsound.isOpen, hsound.bounded⟩⟩
  | receive _ _ hqueue =>
  refine ⟨rfl, rfl, fun hsound => ⟨hsound.isOpen, ?_⟩⟩
  have hbounded := hsound.bounded
  rw [hqueue, length_cons] at hbounded
  simp only [withQueue]
  omega

section

variable (hsound : entry.Sound)

include hsound

theorem RegisteredEntry.Sound.reserve (hroom : entry.mailbox.HasRoom) : entry.reserve.Sound := by
  refine ⟨hsound.isOpen, ?_⟩
  unfold HasRoom at hroom
  simp only [RegisteredEntry.reserve, withReserved]
  omega

theorem RegisteredEntry.Sound.release : entry.release.Sound := by
  refine ⟨hsound.isOpen, ?_⟩
  have hbounded := hsound.bounded
  simp only [RegisteredEntry.release, withReserved]
  omega

theorem RegisteredEntry.Sound.deliver
    (hheld : 0 < entry.mailbox.mailbox.reserved) (message : P.Message) :
    (entry.deliver message).Sound := by
  refine ⟨hsound.isOpen, ?_⟩
  have hbounded := hsound.bounded
  simp only [RegisteredEntry.deliver, withReserved, push, length_append, length_singleton]
  omega

theorem RegisteredEntry.Sound.close : entry.close.Sound :=
  ⟨fun hlive => by simp [RegisteredEntry.close] at hlive, hsound.bounded⟩

end

variable {index : Nat} {stopped : RegisteredAddress}

section

variable {records : List (ChildRecord P)} {record : ChildRecord P} {other : ChildRecord P}

theorem countP_holds_set (record' : ChildRecord P) (hrecord : records[index]? = some record)
    (hparent : record'.parent = record.parent) (id : IsolateId) :
    (records.set index record').countP (holds id) +
        (if record.terminalSlotReserved = true ∧ record.parent = id then 1 else 0) =
      records.countP (holds id) +
        (if record'.terminalSlotReserved = true ∧ record.parent = id then 1 else 0) := by
  have hcount := countP_set_eq (b := record') (holds id) hrecord
  simpa only [holds, Bool.and_eq_true, decide_eq_true_eq, hparent] using hcount

theorem countP_holds_push (id : IsolateId) :
    (records ++ [record]).countP (holds id) = records.countP (holds id) +
        (if record.terminalSlotReserved = true ∧ record.parent = id then 1 else 0) := by
  simp [holds, countP_append, countP_singleton]

/-- A record that holds a slot is counted. -/
theorem countP_holds_pos (hrecord : record ∈ records) (hheld : record.terminalSlotReserved = true) :
    0 < records.countP (holds record.parent) :=
  countP_pos_iff.2 ⟨record, hrecord, by simp [holds, hheld]⟩

theorem holder_mem_of_push (hfree : record.terminalSlotReserved = false)
    (hother : other ∈ records ++ [record]) (hheld : other.terminalSlotReserved = true) :
    other ∈ records := by
  rcases mem_append.1 hother with hother | hother
  · exact hother
  · simp [mem_singleton.1 hother, hfree] at hheld

theorem holder_mem_of_set (hfree : record.terminalSlotReserved = false)
    (hother : other ∈ records.set index record) (hheld : other.terminalSlotReserved = true) :
    other ∈ records := by
  rcases mem_or_eq_of_mem_set hother with hother | rfl
  · exact hother
  · simp [hfree] at hheld

end

namespace SlotsHeld

variable {index position : Nat} {record record' : ChildRecord h}
  {parent : RegisteredEntry h} {child : RegisteredAddress}

/-- A slot changes hands between one entry and the records: one record of the entry held it `before`
or holds it `after`. -/
theorem exchange (hs : SlotsHeld s) (hregistry : Registry s) (parent' : RegisteredEntry h)
    (before after : Bool) (hparent : s.entries[position]? = some parent)
    (hid : parent'.id = parent.id) (hsound : parent'.Sound) (hsame : s.SameShard t)
    (hentries : t.entries = s.entries.set position parent')
    (hreserved : parent'.mailbox.mailbox.reserved + before.toNat =
      parent.mailbox.mailbox.reserved + after.toNat)
    (hcount : ∀ id, t.childRecords.countP (holds id) +
        (if before = true ∧ parent.id = id then 1 else 0) =
      s.childRecords.countP (holds id) + (if after = true ∧ parent.id = id then 1 else 0))
    (hfits : s.Fits t.childRecords) : SlotsHeld t := by
  refine of_change hsame ?_ ?_ ?_ hfits
  · rw [hentries]
    exact forall_mem_set hs.sound hsound
  · intro entry hentry
    rw [hentries] at hentry
    rcases hregistry.mem_set_cases hparent hentry with rfl | ⟨hmem, hne⟩
    · have hheld := hs.held parent (mem_of_getElem? hparent)
      have hone := hcount parent.id
      rw [hid]
      cases before <;> cases after <;> simp at hone hreserved <;> omega
    · have hsame := hcount entry.id
      simp only [hne.symm, and_false, if_false, Nat.add_zero] at hsame
      rw [hsame]
      exact hs.held entry hmem
  · intro id hex
    rw [hentries]
    exact exists_mem_set hparent hex fun heq => hid.trans heq

/-- A new record is a local child nobody else has, or a child on another shard. -/
def Admits (s : Runtime h) (child : RegisteredAddress) : Prop :=
  s.FreshChild child ∨ ¬ s.Local child

theorem admits_child (hchild : Admits s child) (hlocal : s.Local child) :
    child.generation = 0 ∧ child.isolate < s.nextIsolateId := by
  rcases hchild with hfresh | hforeign
  · exact ⟨hfresh.2.1, hfresh.2.2.1⟩
  · exact absurd hlocal hforeign

theorem admits_ne (hchild : Admits s child) (hrecord : record ∈ s.childRecords)
    (hlocal : s.Local record.child ∨ s.Local child) : record.child ≠ child := by
  rintro rfl
  rcases hchild with hfresh | hforeign
  · exact hfresh.2.2.2 record hrecord rfl
  · exact hforeign (hlocal.elim id id)

variable (hs : SlotsHeld s)

include hs

theorem fits_push (hchild : Admits s record.child)
    (hholder : record.terminalSlotReserved = true → s.HolderOf record) :
    s.Fits (s.childRecords ++ [record]) where
  localChild := by
    intro other hother hlocal
    rw [mem_append, mem_singleton] at hother
    rcases hother with hother | rfl
    · exact hs.localChild other hother hlocal
    · exact admits_child hchild hlocal
  distinct := by
    refine pairwise_append.2 ⟨hs.distinct, pairwise_singleton _ _, ?_⟩
    intro other hother new hnew hlocal
    rw [mem_singleton] at hnew
    rw [hnew]
    exact admits_ne hchild hother (.inl hlocal)
  holder := by
    intro other hother hheld
    rw [mem_append, mem_singleton] at hother
    rcases hother with hother | rfl
    · exact hs.holder other hother hheld
    · exact hholder hheld

theorem fits_set (hrecord : s.childRecords[index]? = some record)
    (hchild : record'.child = record.child ∨ Admits s record'.child)
    (hholder : record'.terminalSlotReserved = true → s.HolderOf record') :
    s.Fits (s.childRecords.set index record') where
  localChild := by
    refine forall_mem_set hs.localChild fun hlocal => ?_
    rcases hchild with hsame | hadmits
    · rw [hsame] at hlocal ⊢
      exact hs.localChild record (mem_of_getElem? hrecord) hlocal
    · exact admits_child hadmits hlocal
  distinct := by
    refine pairwise_set hrecord hs.distinct ?_ ?_
    · intro other hother hne hlocal
      rcases hchild with hsame | hadmits
      · exact hsame ▸ hne (hsame ▸ hlocal)
      · exact (admits_ne hadmits hother (.inr hlocal)).symm
    · intro other hother hne hlocal
      rcases hchild with hsame | hadmits
      · exact hsame ▸ hne hlocal
      · exact admits_ne hadmits hother (.inl hlocal)
  holder := forall_mem_set hs.holder hholder

/-- A record that holds nothing joins. -/
theorem push (hheld : record.terminalSlotReserved = false) (hchild : Admits s record.child)
    (hsame : s.SameShard t) (hentries : t.entries = s.entries)
    (hrecords : t.childRecords = s.childRecords ++ [record]) : SlotsHeld t := by
  refine hs.withRecords hsame hentries ?_ ?_
  · intro id
    rw [hrecords, countP_holds_push]
    simp [hheld]
  · rw [hrecords]
    exact hs.fits_push hchild (by simp [hheld])

/-- A record that holds nothing is replaced by one that holds nothing. -/
theorem rebind (record' : ChildRecord h) (hrecord : s.childRecords[index]? = some record)
    (hparent : record'.parent = record.parent) (hbefore : record.terminalSlotReserved = false)
    (hafter : record'.terminalSlotReserved = false)
    (hchild : record'.child = record.child ∨ Admits s record'.child) (hsame : s.SameShard t)
    (hentries : t.entries = s.entries)
    (hrecords : t.childRecords = s.childRecords.set index record') : SlotsHeld t := by
  refine hs.withRecords hsame hentries ?_ ?_
  · intro id
    have hcount := countP_holds_set record' hrecord hparent id
    simpa [hrecords, hbefore, hafter] using hcount
  · rw [hrecords]
    exact hs.fits_set hrecord hchild (by simp [hafter])

/-- A held slot goes back to the parent, in whatever way the parent uses it. -/
theorem settleHeld (hregistry : Registry s) (parent' : RegisteredEntry h)
    (generation : AddressGeneration) (hrecord : s.childRecords[index]? = some record)
    (hheld : record.terminalSlotReserved = true) (hparent : s.entries[position]? = some parent)
    (hid : parent.id = record.parent) (hid' : parent'.id = parent.id)
    (hsound : parent.Sound → 0 < parent.mailbox.mailbox.reserved → parent'.Sound)
    (hreserved : parent'.mailbox.mailbox.reserved = parent.mailbox.mailbox.reserved - 1)
    (hsame : s.SameShard t) (hentries : t.entries = s.entries.set position parent')
    (hrecords : t.childRecords = s.childRecords.set index (record.settle generation)) :
    SlotsHeld t := by
  have hmem := mem_of_getElem? hparent
  have hpos := countP_holds_pos (mem_of_getElem? hrecord) hheld
  rw [← hid, ← hs.held parent hmem] at hpos
  refine hs.exchange hregistry parent' record.terminalSlotReserved false hparent hid'
    (hsound (hs.sound parent hmem) hpos) hsame hentries ?_ (fun id => ?_) ?_
  · rw [hreserved, hheld, Bool.toNat_true, Bool.toNat_false]
    omega
  · rw [hrecords, hid]
    exact countP_holds_set (record.settle generation) hrecord rfl id
  · rw [hrecords]
    exact hs.fits_set hrecord (.inl rfl) (by simp [settle])

theorem settle (hregistry : Registry s) (hsettle : Settle index s t) : SlotsHeld t := by
  cases hsettle with
  | @unreserved record generation hrecord hheld =>
    exact hs.rebind (record.settle generation) hrecord rfl hheld rfl (.inl rfl)
      ⟨rfl, rfl, rfl⟩ rfl rfl
  | @released record position parent generation hrecord hheld hparent hid =>
    exact hs.settleHeld hregistry parent.release generation hrecord hheld hparent hid rfl
      (fun hsound _ => hsound.release) rfl ⟨rfl, rfl, rfl⟩ rfl rfl
  | @delivered record position parent generation message hrecord hheld hparent hid =>
    exact hs.settleHeld hregistry (parent.deliver message) generation hrecord hheld hparent hid
      rfl (fun hsound hpos => hsound.deliver hpos message) rfl ⟨rfl, rfl, rfl⟩ rfl rfl

/-- Closing the mailbox of a stopping entry keeps its reservations. -/
theorem mark (path : StopPath) (hparent : s.entries[index]? = some parent) :
    SlotsHeld (s.mark index parent path) :=
  hs.withEntry parent.close hparent rfl rfl (·.close) ⟨rfl, rfl, rfl⟩ rfl rfl

/-- The parent's slot is reserved and a record takes it. -/
theorem pushObserved (hregistry : Registry s) (howner : record.remoteOwner = none)
    (hheld : record.terminalSlotReserved = true)
    (hcontinuation : record.terminalContinuation.isSome = true)
    (hsettled : record.terminalSettledGeneration = none) (hfresh : s.FreshChild record.child)
    (hparent : s.entries[index]? = some parent) (hid : parent.id = record.parent)
    (hroom : parent.mailbox.HasRoom) (hsame : s.SameShard t)
    (hentries : t.entries = s.entries.set index parent.reserve)
    (hrecords : t.childRecords = s.childRecords ++ [record]) : SlotsHeld t := by
  have hmem := mem_of_getElem? hparent
  refine hs.exchange hregistry parent.reserve false true hparent rfl
    ((hs.sound parent hmem).reserve hroom) hsame hentries rfl (fun id => ?_) ?_
  · rw [hrecords, countP_holds_push]
    simp [hheld, hid]
  · rw [hrecords]
    exact hs.fits_push (.inl hfresh) fun _ =>
      ⟨howner, hfresh.1, hcontinuation, hsettled, parent, hmem, hid⟩

/-- The parent's slot is reserved again for the replacement of a settled child. -/
theorem rebindObserved (hregistry : Registry s) (hrecord : s.childRecords[index]? = some record)
    (hrebinds : record.Rebinds record') (hbefore : record.terminalSlotReserved = false)
    (hheld : record'.terminalSlotReserved = true) (howner : record.remoteOwner = none)
    (hcontinuation : record.terminalContinuation.isSome = true)
    (hsettled : record'.terminalSettledGeneration = none) (hfresh : s.FreshChild record'.child)
    (hparent : s.entries[position]? = some parent) (hid : parent.id = record.parent)
    (hroom : parent.mailbox.HasRoom) (hsame : s.SameShard t)
    (hentries : t.entries = s.entries.set position parent.reserve)
    (hrecords : t.childRecords = s.childRecords.set index record') : SlotsHeld t := by
  have hmem := mem_of_getElem? hparent
  refine hs.exchange hregistry parent.reserve false true hparent rfl
    ((hs.sound parent hmem).reserve hroom) hsame hentries rfl (fun id => ?_) ?_
  · have hcount := countP_holds_set record' hrecord hrebinds.parent id
    rwa [hbefore, hheld, ← hid, ← hrecords] at hcount
  rw [hrecords]
  refine hs.fits_set hrecord (.inr (.inl hfresh)) fun _ =>
    ⟨hrebinds.remoteOwner.trans howner, hfresh.1, ?_, hsettled, parent, hmem,
      hid.trans hrebinds.parent.symm⟩
  rw [hrebinds.terminalContinuation]
  exact hcontinuation

theorem register (hregistry : Registry s) {capacity : Nat} {entry : RegisteredEntry h}
    (hid : entry.id = s.nextIsolateId) (hmailbox : entry.mailbox = .new (.new capacity))
    : SlotsHeld (s.register entry) where
  sound := by
    intro other hother
    rcases mem_append.1 hother with hother | hother
    · exact hs.sound other hother
    · rw [mem_singleton.1 hother]
      exact ⟨fun _ => by rw [hmailbox]; exact ⟨rfl, rfl⟩, by rw [hmailbox]; exact Nat.zero_le _⟩
  held := by
    intro other hother
    rcases mem_append.1 hother with hother | hother
    · exact hs.held other hother
    rw [mem_singleton.1 hother, hmailbox, hid]
    refine (countP_eq_zero.2 ?_).symm
    intro record hrecord hholds
    simp only [holds, Bool.and_eq_true, decide_eq_true_eq] at hholds
    obtain ⟨-, -, -, -, parent, hparent, hparentId⟩ := hs.holder record hrecord hholds.1
    exact Nat.lt_irrefl _ ((hparentId.trans hholds.2) ▸ hregistry.entry_below hparent)
  localChild := fun record hrecord hlocal =>
    ⟨(hs.localChild record hrecord hlocal).1,
      Nat.lt_succ_of_lt (hs.localChild record hrecord hlocal).2⟩
  distinct := hs.distinct
  holder := by
    intro record hrecord hheld
    obtain ⟨howner, hlocal, hcont, hsettled, parent, hparent, hparentId⟩ :=
      hs.holder record hrecord hheld
    exact ⟨howner, hlocal, hcont, hsettled, parent, mem_append_left _ hparent, hparentId⟩

end SlotsHeld

namespace Runtime

variable {record : ChildRecord h} {entry : RegisteredEntry h} {index : Nat}

/-- Who is stopped and who is not. -/
def statuses (s : Runtime h) : List (IsolateId × Bool) :=
  s.entries.map fun entry => (entry.id, entry.stopped)

theorem live_iff_mem_statuses {id : IsolateId} : s.Live id ↔ (id, false) ∈ s.statuses := by
  simp only [Live, statuses, mem_map, Prod.mk.injEq]

theorem statuses_putEntry {entry' : RegisteredEntry h} (hentry : s.entries[index]? = some entry)
    (hid : entry'.id = entry.id) (hstopped : entry'.stopped = entry.stopped) :
    (s.putEntry index entry').statuses = s.statuses :=
  map_set_of_eq _ hentry (by rw [hid, hstopped])

theorem Settle.statuses_eq (hsettle : Settle index s t) : t.statuses = s.statuses := by
  cases hsettle with
  | unreserved => rfl
  | released _ _ _ hparent | delivered _ _ _ _ hparent =>
    exact statuses_putEntry hparent rfl rfl

/-- A pruned record list has no new records, only marks on the children that stopped. -/
theorem mem_prune (hrecord : record ∈ (s.prune stopped).childRecords) :
    ∃ original ∈ s.childRecords, record.parent = original.parent ∧
      record.child = original.child ∧ record.childOrdinal = original.childOrdinal ∧
      record.terminalSlotReserved = original.terminalSlotReserved ∧
      record.remoteOwner = original.remoteOwner ∧
      record.terminalContinuation = original.terminalContinuation ∧
      (original.child ≠ stopped → record = original) := by
  simp only [prune, mem_filter, mem_map] at hrecord
  obtain ⟨⟨original, horiginal, rfl⟩, -⟩ := hrecord
  refine ⟨original, horiginal, ?_⟩
  by_cases hchild : original.child = stopped <;> simp [hchild]

/-- An entry that a record still refers to is not collected. -/
theorem canGc_eq_false_of_record (s : Runtime h) (hrecord : record ∈ s.childRecords)
    (hrefers : (record.parent = entry.id ∧ record.remoteOwner = none) ∨
      record.child = ⟨s.systemIncarnation, s.shardId, entry.id, entry.generation⟩) :
    s.canGcStoppedEntry entry = false := by
  simp only [canGcStoppedEntry, Bool.and_eq_false_iff, Bool.not_eq_false', any_eq_true]
  exact .inl (.inl (.inl (.inr ⟨record, hrecord, by simpa using hrefers⟩)))

theorem canGc_eq_false_of_live (s : Runtime h) (hlive : entry.stopped = false) :
    s.canGcStoppedEntry entry = false := by
  simp [canGcStoppedEntry, hlive]

end Runtime

variable {id : IsolateId} {entry : RegisteredEntry h} {path : StopPath}

theorem SlotsHeld.prune (hs : SlotsHeld s)
    (hnone : ∀ record ∈ s.childRecords, record.terminalSlotReserved = true →
      record.child ≠ stopped) : SlotsHeld (s.prune stopped) := by
  refine hs.withRecords ⟨rfl, rfl, rfl⟩ rfl ?_ ⟨?_, ?_, ?_⟩
  · intro id
    simp only [Runtime.prune, countP_filter, countP_map]
    refine countP_congr ?_
    intro record hrecord
    simp only [holds, Function.comp_apply]
    by_cases hchild : record.child = stopped
    · have hheld : record.terminalSlotReserved = false := by
        by_contra hheld
        exact hnone record hrecord (by simpa using hheld) hchild
      simp [hchild, hheld]
    · simp [hchild]
  · intro record hrecord hlocal
    obtain ⟨original, horiginal, -, hchild, -⟩ := mem_prune hrecord
    rw [hchild] at hlocal ⊢
    exact hs.localChild original horiginal hlocal
  · refine .sublist filter_sublist (pairwise_map.2 ?_)
    refine hs.distinct.imp ?_
    intro a b hne
    have hsame : ∀ record : ChildRecord h, (if record.child = stopped then
        { record with
          terminal := true
          remoteRequestId := if s.keepsTerminalRecord record then record.remoteRequestId
            else none }
        else record).child = record.child := by
      intro record
      split <;> rfl
    simpa only [hsame] using hne
  · intro record hrecord hheld
    obtain ⟨original, horiginal, -, -, -, hflag, -, -, hsame⟩ := mem_prune hrecord
    obtain rfl := hsame (hnone original horiginal (hflag ▸ hheld))
    exact hs.holder record horiginal hheld

theorem SlotsHeld.collect (hs : SlotsHeld s) {kept : List (RegisteredEntry h)}
    {indexes : IsolateId → Option Nat} {flag : Bool}
    (hkept : kept.Perm (s.entries.filter (!s.canGcStoppedEntry ·))) :
    SlotsHeld { s with entries := kept, entryIndexes := indexes, hasStoppedEntries := flag } where
  __ := hs
  sound := fun entry hentry =>
    hs.sound entry (mem_filter.1 (hkept.mem_iff.1 hentry)).1
  held := fun entry hentry =>
    hs.held entry (mem_filter.1 (hkept.mem_iff.1 hentry)).1
  holder := by
    intro record hrecord hheld
    obtain ⟨howner, hlocal, hcont, hsettled, parent, hparent, hid⟩ := hs.holder record hrecord hheld
    refine ⟨howner, hlocal, hcont, hsettled, parent, ?_, hid⟩
    refine hkept.mem_iff.2 (mem_filter.2 ⟨hparent, ?_⟩)
    rw [s.canGc_eq_false_of_record hrecord (.inl ⟨hid.symm, howner⟩)]
    rfl

theorem Act.statuses_eq (hact : Act kind s t) (hstop : kind ≠ .stop) (hregister : kind ≠ .register)
    (hcollect : kind ≠ .collect) :
    t.statuses = s.statuses := by
  cases hact with
  | entry hentry hstep => exact statuses_putEntry hentry hstep.key_eq.1 hstep.sound.1
  | openedLocally _ _ _ _ hentry => exact statuses_putEntry hentry rfl rfl
  | observed _ _ _ _ _ _ _ hparent | restartedObserved _ _ _ _ _ _ _ _ _ _ hparent =>
    exact statuses_putEntry hparent rfl rfl
  | settled hsettle => exact hsettle.statuses_eq
  | stopped => exact absurd rfl hstop
  | registered | skipped => exact absurd rfl hregister
  | collected => exact absurd rfl hcollect
  | _ => rfl

/-- Only a stop takes an isolate's life. -/
theorem Act.live_of_live (hact : Act kind s t) (hstop : kind ≠ .stop) (hlive : s.Live id) :
    t.Live id := by
  by_cases hkind : kind = .register ∨ kind = .collect
  · obtain ⟨entry, hentry, hid, hrunning⟩ := hlive
    cases hact with
    | registered => exact ⟨entry, mem_append_left _ hentry, hid, hrunning⟩
    | skipped => exact ⟨entry, hentry, hid, hrunning⟩
    | collected _ _ _ hkept =>
      refine ⟨entry, hkept.mem_iff.2 (mem_filter.2 ⟨hentry, ?_⟩), hid, hrunning⟩
      rw [s.canGc_eq_false_of_live hrunning]
      rfl
    | _ => simp at hkind
  · obtain ⟨hregister, hcollect⟩ := not_or.1 hkind
    rw [live_iff_mem_statuses] at hlive ⊢
    rwa [hact.statuses_eq hstop hregister hcollect]

/-- A record that holds a slot after a settlement is another one than the settled. -/
theorem Runtime.Settle.holder_elsewhere (hsettle : Settle index s t)
    (hrecord : record ∈ t.childRecords) (hheld : record.terminalSlotReserved = true) :
    ∃ position, position ≠ index ∧ s.childRecords[position]? = some record := by
  have hset : ∃ settled : ChildRecord h, settled.terminalSlotReserved = false ∧
      t.childRecords = s.childRecords.set index settled := by
    cases hsettle <;> exact ⟨_, rfl, rfl⟩
  obtain ⟨_, hsettled, hrecords⟩ := hset
  obtain ⟨position, hposition⟩ := mem_iff_getElem?.1 (hrecords ▸ hrecord)
  rw [getElem?_set] at hposition
  split at hposition
  · split at hposition
    · rw [← Option.some.inj hposition, hsettled] at hheld
      cases hheld
    · cases hposition
  · rename_i heq
    exact ⟨position, Ne.symm heq, hposition⟩

theorem SlotsHeld.child_ne (hs : SlotsHeld s) {i j : Nat} {a b : ChildRecord h}
    (ha : s.childRecords[i]? = some a) (hb : s.childRecords[j]? = some b) (hne : i ≠ j)
    (hlocal : s.Local a.child) : a.child ≠ b.child := by
  obtain ⟨hi, rfl⟩ := List.getElem?_eq_some_iff.1 ha
  obtain ⟨hj, rfl⟩ := List.getElem?_eq_some_iff.1 hb
  have hdistinct := pairwise_iff_getElem.1 hs.distinct
  rcases Nat.lt_or_gt_of_ne hne with hlt | hgt
  · exact hdistinct i j hi hj hlt hlocal
  · intro heq
    exact hdistinct j i hj hi hgt (heq ▸ hlocal) heq.symm

theorem Runtime.live_mark (hentry : s.entries[index]? = some entry) (hlive : s.Live id)
    (hne : id ≠ entry.id) : (s.mark index entry path).Live id :=
  exists_mem_set hentry hlive fun hself => absurd hself.1.symm hne

/-- A running child on this shard is another isolate than the one whose address it does
not have. -/
theorem SlotsHeld.isolate_ne (hs : SlotsHeld s) (hrecord : record ∈ s.childRecords)
    (hlocal : s.Local record.child) (hne : record.child ≠ s.addressOf id) :
    record.child.isolate ≠ id := by
  intro heq
  refine hne ?_
  have hgeneration := (hs.localChild record hrecord hlocal).1
  obtain ⟨_, _⟩ := hlocal
  cases hchild : record.child
  simp_all [addressOf]

theorem Slots.stop (hs : Slots s) (hregistry : Registry s) (hentry : s.entries[index]? = some entry)
    (hsettle : (t = s.mark index entry path ∧ ∀ record ∈ s.childRecords,
        record.terminalSlotReserved = true → record.child ≠ s.addressOf entry.id) ∨
      (∃ position record, s.childRecords[position]? = some record ∧
        record.child = s.addressOf entry.id ∧ record.remoteOwner = none ∧
        Settle position (s.mark index entry path) t)) : Slots t := by
  have hmark := hs.toSlotsHeld.mark path hentry
  have hregistryMark := hregistry.mark path hentry
  -- A record that still holds a slot does not watch the isolate that stops.
  have hrunning : ∀ record ∈ s.childRecords, record.terminalSlotReserved = true →
      record.child ≠ s.addressOf entry.id →
      (s.mark index entry path).Live record.child.isolate := by
    intro record hrecord hheld hne
    have hlocal := (hs.holder record hrecord hheld).2.1
    exact live_mark hentry (hs.running record hrecord hheld) (hs.isolate_ne hrecord hlocal hne)
  rcases hsettle with ⟨rfl, hnone⟩ | ⟨_, _, hwatched, hchild, -, hsettle⟩
  · exact ⟨hmark, fun record hrecord hheld =>
      hrunning record hrecord hheld (hnone record hrecord hheld)⟩
  refine ⟨hmark.settle hregistryMark hsettle, fun record hrecord hheld => ?_⟩
  obtain ⟨_, hne, hother⟩ := hsettle.holder_elsewhere hrecord hheld
  have hmem : record ∈ s.childRecords := mem_of_getElem? hother
  have hlocal := (hs.holder record hmem hheld).2.1
  rw [live_iff_mem_statuses, hsettle.statuses_eq, ← live_iff_mem_statuses]
  refine hrunning record hmem hheld ?_
  rw [← hchild]
  exact hs.child_ne hother hwatched hne hlocal

/-- The records that hold slots held them before, and no stop is involved. -/
theorem Slots.of_act (hs : Slots s) (hact : Act kind s t) (hheld : SlotsHeld t)
    (hstop : kind ≠ .stop)
    (hrecords : ∀ record ∈ t.childRecords, record.terminalSlotReserved = true →
      record ∈ s.childRecords) : Slots t :=
  ⟨hheld, fun record hrecord hflag =>
    hact.live_of_live hstop (hs.running record (hrecords record hrecord hflag) hflag)⟩

theorem Act.keeps_slots (hact : Act kind s t) (hregistry : Registry s) (hs : Slots s) :
    Slots t := by
  have hkeep := hact
  have hheld := hs.toSlotsHeld
  cases hact with
  | entry hentry hstep =>
    refine hs.of_act hkeep ?_ (by simp) fun _ hrecord _ => hrecord
    exact hheld.withEntry _ hentry hstep.key_eq.1 hstep.sound.2.1 hstep.sound.2.2
      ⟨rfl, rfl, rfl⟩ rfl rfl
  | @openedLocally _ index entry message call hopenable hknown hentry hopen hroom =>
    have hstep : EntryStep (fun _ => True) entry
        (entry.accept message (some (.localCaller call.callId))) _ :=
      .accept _ _ hopen hroom trivial
    refine hs.of_act hkeep ?_ (by simp) fun _ hrecord _ => hrecord
    exact hheld.withEntry (entry.accept message (some (.localCaller call.callId))) hentry rfl
      rfl hstep.sound.2.2 ⟨rfl, rfl, rfl⟩ rfl rfl
  | registered _ _ hid _ _ hmailbox =>
    exact hs.of_act hkeep (hheld.register hregistry hid hmailbox) (by simp)
      fun _ hrecord _ => hrecord
  | skipped =>
    refine hs.of_act hkeep { hheld with localChild := ?_ } (by simp) fun _ hrecord _ => hrecord
    intro record hrecord hlocal
    obtain ⟨hgeneration, hbelow⟩ := hheld.localChild record hrecord hlocal
    exact ⟨hgeneration, Nat.lt_succ_of_lt hbelow⟩
  | owned _ _ hfree hfresh | hosted _ _ hfree _ hfresh =>
    refine hs.of_act hkeep (hheld.push hfree (.inl hfresh) ⟨rfl, rfl, rfl⟩ rfl rfl)
      (by simp) fun _ => holder_mem_of_push hfree
  | adopted _ _ _ _ _ hfree hchild =>
    refine hs.of_act hkeep (hheld.push hfree (.inr hchild) ⟨rfl, rfl, rfl⟩ rfl rfl)
      (by simp) fun _ => holder_mem_of_push hfree
  | observed _ howner hflag hcontinuation hsettled hfresh hlive hparent hid _ hroom =>
    refine ⟨hheld.pushObserved hregistry howner hflag hcontinuation hsettled hfresh hparent hid
      hroom ⟨rfl, rfl, rfl⟩ rfl rfl, fun other hother hflagged => ?_⟩
    rcases mem_append.1 hother with hother | hother
    · exact hkeep.live_of_live (by simp) (hs.running other hother hflagged)
    · rw [mem_singleton.1 hother]
      exact hkeep.live_of_live (by simp) hlive
  | restarted record' hrecord hrebinds hbefore hafter hfresh =>
    refine hs.of_act hkeep (hheld.rebind record' hrecord hrebinds.parent hbefore hafter
      (.inr (.inl hfresh)) ⟨rfl, rfl, rfl⟩ rfl rfl) (by simp)
      fun _ => holder_mem_of_set hafter
  | restartedObserved _ hrecord hrebinds hbefore hafter howner hcontinuation hsettled hfresh hlive
      hparent hid _ hroom =>
    refine ⟨hheld.rebindObserved hregistry hrecord hrebinds hbefore hafter howner hcontinuation
      hsettled hfresh hparent hid hroom ⟨rfl, rfl, rfl⟩ rfl rfl,
      fun other hother hflagged => ?_⟩
    rcases mem_or_eq_of_mem_set hother with hother | rfl
    · exact hkeep.live_of_live (by simp) (hs.running other hother hflagged)
    · exact hkeep.live_of_live (by simp) hlive
  | @restartedHosted _ index record record' hrecord hrebinds howner hflag hfresh =>
    have hbefore : record.terminalSlotReserved = false := by
      by_contra hreserved
      exact howner (hheld.holder record (mem_of_getElem? hrecord) (by simpa using hreserved)).1
    refine hs.of_act hkeep (hheld.rebind record' hrecord hrebinds.parent hbefore
      (hflag.trans hbefore) (.inr (.inl hfresh)) ⟨rfl, rfl, rfl⟩ rfl rfl) (by simp)
      fun _ => holder_mem_of_set (hflag.trans hbefore)
  | @restartedRemotely _ index record child hrecord hforeign hafter =>
    have hbefore : record.terminalSlotReserved = false := by
      by_contra hreserved
      exact hforeign (hheld.holder record (mem_of_getElem? hrecord) (by simpa using hreserved)).2.1
    refine hs.of_act hkeep (hheld.rebind { record with child, terminal := false }
      hrecord rfl hbefore hbefore (.inr (.inr hafter)) ⟨rfl, rfl, rfl⟩ rfl rfl)
      (by simp) fun _ => holder_mem_of_set hbefore
  | settled hsettle =>
    refine hs.of_act hkeep (hheld.settle hregistry hsettle) (by simp) ?_
    intro record hrecord hflag
    obtain ⟨_, -, hposition⟩ := hsettle.holder_elsewhere hrecord hflag
    exact mem_of_getElem? hposition
  | stopped _ hentry _ _ hsettle => exact hs.stop hregistry hentry hsettle
  | pruned stopped _ hstopped =>
    have hnone : ∀ record ∈ s.childRecords, record.terminalSlotReserved = true →
        record.child ≠ stopped := by
      rintro record hrecord hflag rfl
      exact hstopped (hs.running record hrecord hflag)
    refine hs.of_act hkeep (hheld.prune hnone) (by simp) ?_
    intro record hrecord hflag
    obtain ⟨original, horiginal, -, -, -, hsame, -, -, heq⟩ := mem_prune hrecord
    rwa [heq (hnone original horiginal (hsame ▸ hflag))]
  | collected _ _ _ hkept =>
    exact hs.of_act hkeep (hheld.collect hkept) (by simp) fun _ hrecord _ => hrecord
  | _ =>
    exact hs.of_act hkeep (hheld.frame ⟨rfl, rfl, rfl⟩ rfl rfl) (by simp) fun _ hrecord _ => hrecord

end Tina
