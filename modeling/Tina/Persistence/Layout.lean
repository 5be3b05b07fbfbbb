import Mathlib.Algebra.Order.BigOperators.Group.List
import Tina.Persistence.Gate
import Tina.Persistence.Session

/-!
What holds of a session whatever its appends return, as long as its sidecar is not mistaken for one
of another file: the file holds the journal's entries, and the counters of the outbox are above
every index and id in use.
-/

namespace Tina.Persistence

open List JournalEntry Session Except Nat Lib OutboxRecord Subset DiskOperation

theorem checkedSucc_eq_some {n m : Nat} : checkedSucc n = some m ↔ m = n + 1 ∧ n + 1 < 2 ^ 64 := by
  unfold checkedSucc
  split <;> simp_all [eq_comm]

namespace DurableOutbox

variable {W : Type} (outbox : DurableOutbox) {outbox' : DurableOutbox}

/-- No counter moves, and the outstanding work is this. -/
@[simp] abbrev Keeps (outbox' : DurableOutbox) (staged pending : Finset Nat) : Prop :=
  outbox'.capacity = outbox.capacity ∧ outbox'.nextWorkId = outbox.nextWorkId ∧
    outbox'.nextIndex = outbox.nextIndex ∧ outbox'.staged = staged ∧ outbox'.pending = pending

@[simp] theorem advanceWatermark_keeps :
    outbox.Keeps outbox.advanceWatermark outbox.staged outbox.pending := by
  unfold advanceWatermark
  dsimp only
  split <;> simp

@[simp] theorem markCompleted_keeps (id : Nat) :
    outbox.Keeps (outbox.markCompleted id) outbox.staged outbox.pending := by
  unfold markCompleted
  split <;> simp

/-- What `record` does to the parts of the outbox that count. -/
theorem record_spec (staged : DurableWork W) (append : Except CallError Unit) :
    outbox.Keeps (outbox.record staged append).2 (outbox.staged.erase staged.id)
      (if append.isOk ∧ staged.id ∈ outbox.staged then insert staged.id outbox.pending
        else outbox.pending) := by
  unfold record
  by_cases hstaged : staged.id ∈ outbox.staged <;>
    rcases append with _ | _ <;> simp [hstaged, isOk, Except.toBool]

theorem abandon_spec (staged : DurableWork W) :
    outbox.Keeps (outbox.abandon staged).2 (outbox.staged.erase staged.id) outbox.pending := by
  simp [abandon]

theorem finishComplete_spec (completion : DurableCompletion) (append : Except CallError Unit) :
    outbox.Keeps (outbox.finishComplete completion append).2 outbox.staged
      (if append.isOk then outbox.pending.erase completion.id else outbox.pending) := by
  unfold finishComplete
  by_cases hpending : completion.id ∈ outbox.pending <;>
    rcases append with _ | _ <;> simp [hpending, isOk, Except.toBool]

/-- What a successful `enqueue` returns. -/
theorem enqueue_spec [DurablePayload W] {work : W} {staged : DurableWork W}
    (henqueue : outbox.enqueue work = .ok (staged, outbox')) :
    outbox.staged.card + outbox.pending.card < outbox.capacity ∧
      staged = { id := outbox.nextWorkId, index := outbox.nextIndex
                 payload := (OutboxRecord.enqueue outbox.nextWorkId work).frame, work } ∧
      outbox' = { outbox with
        nextWorkId := outbox.nextWorkId + 1, nextIndex := outbox.nextIndex + 1
        staged := insert outbox.nextWorkId outbox.staged } ∧
      outbox.nextWorkId + 1 < 2 ^ 64 ∧ outbox.nextIndex + 1 < 2 ^ 64 := by
  unfold enqueue at henqueue
  split at henqueue
  · cases henqueue
  rename_i hfull
  split at henqueue
  · rename_i nextWorkId nextIndex hid hindex
    obtain ⟨rfl, hidBound⟩ := checkedSucc_eq_some.1 hid
    obtain ⟨rfl, hindexBound⟩ := checkedSucc_eq_some.1 hindex
    cases henqueue
    refine ⟨?_, rfl, rfl, hidBound, hindexBound⟩
    rw [isFull, outstandingLen, decide_eq_true_iff] at hfull
    omega
  · cases henqueue

/-- A completion that `beginComplete` stages is one of pending work. -/
theorem beginComplete_spec {id : Nat} {start : CompletionStart}
    (hbegin : outbox.beginComplete id = (start, outbox')) :
    (outbox' = outbox ∧ ∀ completion, start ≠ .record completion) ∨
      (id ∈ outbox.pending ∧ outbox.nextIndex + 1 < 2 ^ 64 ∧
        start = .record { id, index := outbox.nextIndex
                          payload := frameRecord TAG_COMPLETE id none } ∧
        outbox' = { outbox with nextIndex := outbox.nextIndex + 1 }) := by
  unfold beginComplete at hbegin
  split at hbegin
  · cases hbegin
    exact .inl ⟨rfl, by simp⟩
  split at hbegin
  · cases hbegin
    exact .inl ⟨rfl, by simp⟩
  rename_i hpending
  split at hbegin
  · rename_i nextIndex hindex
    obtain ⟨rfl, hbound⟩ := checkedSucc_eq_some.1 hindex
    cases hbegin
    exact .inr ⟨not_not.1 hpending, hbound, rfl, rfl⟩
  · cases hbegin
    exact .inl ⟨rfl, by simp⟩

end DurableOutbox

section

variable (folded : Folded W) (cap nextIndex nextWorkId : Nat)

@[simp] theorem Folded.outbox_fields :
    (folded.outbox cap nextIndex nextWorkId).capacity = max cap 1 ∧
      (folded.outbox cap nextIndex nextWorkId).nextWorkId = nextWorkId ∧
      (folded.outbox cap nextIndex nextWorkId).nextIndex = nextIndex ∧
      (folded.outbox cap nextIndex nextWorkId).staged = ∅ ∧
      (folded.outbox cap nextIndex nextWorkId).pending = (folded.pending.map (·.id)).toFinset := by
  simp [Folded.outbox, DurableOutbox.new]

end

/-- The append keeps the sidecar apart from the file that it leaves. -/
def AppendOutcome.KeepsSidecar (W : Type) [DurablePayload W] (disk : Disk) (index : Nat)
    (bytes : List UInt8) : AppendOutcome → Prop
  | .failed _ (.write cut) =>
    (crashedAppend index bytes (some cut)).KeepsSidecar W disk
  | _ => True

/-- No append that fails or is cut off, and no image of a compaction, has the length of which the
sidecar speaks, except an image whose last record is the one the sidecar names. -/
def SessionOperation.KeepsSidecar {W : Type} [DurablePayload W] (s : Session W) :
    SessionOperation W → Prop
  | .appendWork position outcome => ∀ held ∈ s.works[position]?,
      outcome.KeepsSidecar W s.disk held.token.index held.token.payload
  | .appendCompletion position outcome => ∀ held ∈ s.completions[position]?,
      outcome.KeepsSidecar W s.disk held.token.index held.token.payload
  | .restart inFlight capacity commit compact =>
      (∀ operation ∈ s.torn inFlight, operation.KeepsSidecar W s.disk) ∧
        (compact = true → ∀ disk ∈ s.crashedDisk inFlight,
          (install capacity commit).KeepsSidecar W disk)
  | _ => True

instance (W : Type) [DurablePayload W] (disk : Disk) (index : Nat) (bytes : List UInt8)
    (outcome : AppendOutcome) : Decidable (outcome.KeepsSidecar W disk index bytes) := by
  unfold AppendOutcome.KeepsSidecar
  split <;> infer_instance

instance {W : Type} [DurablePayload W] (s : Session W) (operation : SessionOperation W) :
    Decidable (operation.KeepsSidecar s) := by
  rcases operation <;> unfold SessionOperation.KeepsSidecar <;> infer_instance

section

variable [DurablePayload W] {entries : List (JournalEntry W)} {disk : Disk}

/-- The disk holds these entries, and its gate is theirs. -/
structure Gated (entries : List (JournalEntry W)) (disk : Disk) : Prop where
  ids : ∀ entry ∈ entries, entry.what.id < 2 ^ 64
  gate : Gate (entries.map record) disk

theorem Gated.recorded (hdisk : Gated entries disk) : Recorded entries disk.bytes :=
  ⟨hdisk.ids, hdisk.gate.written⟩

theorem Gated.inOrder_iff (index : Nat) (hdisk : Gated entries disk) :
    (entries.map record).getLast?.all (·.index < index) = true ↔
      ∀ entry ∈ entries, entry.index < index := by
  rw [hdisk.gate.written.last_lt_iff, forall_mem_map]
  rfl

/-- However an append ends, the gate is that of the records it leaves. -/
theorem Gate.outcome {records : List JournalRecord} {index : Nat} {bytes : List UInt8}
    {outcome : AppendOutcome} (hdisk : Gate records disk)
    (hfits : JournalRecord.Fits { index := index, bytes := bytes })
    (hlength : (outcome.disk disk index bytes).bytes.length < 2 ^ 63)
    (hkeeps : outcome.KeepsSidecar W disk index bytes) :
    Gate (if records.getLast?.all (·.index < index) &&
        outcome.leaves (encodeJournalRecord { index := index, bytes := bytes }).length
      then records ++ [{ index := index, bytes := bytes }] else records)
      (outcome.disk disk index bytes) := by
  cases outcome with
  | ok => simpa [AppendOutcome.leaves, AppendOutcome.disk] using (hdisk.append hfits hlength).2
  | failed error fault =>
  cases fault with
  | check => simpa [AppendOutcome.leaves, AppendOutcome.disk] using hdisk
  | write => exact hdisk.crashedAppend (W := W) hfits hlength hkeeps
  | sync => simpa [AppendOutcome.leaves, AppendOutcome.disk] using (hdisk.append hfits hlength).2

/-- An append that leaves no record returns an error. -/
theorem AppendOutcome.result_error {checked : Except CallError Unit} {length : Nat}
    {outcome : AppendOutcome} (hleft : (checked.isOk && outcome.leaves length) = false) :
    ∃ error, outcome.result checked = .error error := by
  cases outcome with
  | ok =>
    cases checked with
    | error error => exact ⟨error, rfl⟩
    | ok => cases hleft
  | failed error fault =>
    cases fault <;> cases checked <;> exact ⟨_, rfl⟩

/-- A token that the outbox can have handed out: the bytes are those of its entry, and its id and
index are below the counters. -/
def DurableOutbox.Issued (outbox : DurableOutbox) (bytes : List UInt8) (entry : JournalEntry W) :
    Prop :=
  bytes = entry.what.frame ∧ entry.what.id < outbox.nextWorkId ∧ entry.index < outbox.nextIndex

theorem DurableOutbox.Issued.mono {issuer outbox : DurableOutbox} {bytes : List UInt8}
    {entry : JournalEntry W} (h : issuer.Issued bytes entry)
    (hid : issuer.nextWorkId ≤ outbox.nextWorkId) (hindex : issuer.nextIndex ≤ outbox.nextIndex) :
    outbox.Issued bytes entry :=
  ⟨h.1, lt_of_lt_of_le h.2.1 hid, lt_of_lt_of_le h.2.2 hindex⟩

namespace Session

variable {s t : Session W} {entry : JournalEntry W} {outcome : AppendOutcome}

/-- The disk after the append of an entry. -/
def after (s : Session W) (entry : JournalEntry W) (outcome : AppendOutcome) : Disk :=
  outcome.disk s.disk entry.index entry.what.frame

/-- An append that adds nothing to the entries of the journal: it was stopped, or its index was
refused. -/
structure Misses (s : Session W) (entry : JournalEntry W) (outcome : AppendOutcome) : Prop where
  gated : Gated s.journal (s.after entry outcome)
  refused : outcome.leaves (encodeJournalRecord entry.record).length = true →
    ¬ ∀ earlier ∈ s.journal, earlier.index < entry.index

/-- An append whose record is in the file, whatever it returned. -/
structure Lands (s : Session W) (entry : JournalEntry W) (outcome : AppendOutcome) : Prop where
  gated : Gated (s.journal ++ [entry]) (s.after entry outcome)
  leaves : outcome.leaves (encodeJournalRecord entry.record).length = true
  order : ∀ earlier ∈ s.journal, earlier.index < entry.index

theorem append_cases {α : Type} {held held' : Held α} {bytes : List UInt8}
    (hs : Gated s.journal s.disk) (hissued : s.outbox.Issued bytes entry)
    (hid : s.outbox.nextWorkId < 2 ^ 64) (hindex : s.outbox.nextIndex < 2 ^ 64)
    (happend : s.append held bytes entry outcome = some (t, held'))
    (hkeeps : outcome.KeepsSidecar W s.disk entry.index bytes) :
    (∃ error, s.Misses entry outcome ∧ t = { s with disk := s.after entry outcome } ∧
      held' = { held with result := some (.error error) }) ∨
    (s.Lands entry outcome ∧ t = { s with
        disk := s.after entry outcome
        journal := s.journal ++ [entry]
        durableIds := s.durableIds ++ (enqueuedWork [entry.what]).map (·.id) } ∧
      held' = { held with durable := true, result := some (outcome.result (.ok ())) }) := by
  obtain ⟨rfl, hidBelow, hindexBelow⟩ := hissued
  obtain ⟨_, hvalidate, -⟩ := hs.gate.validate entry.index
  have hchecked : (s.disk.validateNextJournalIndex entry.index).1.isOk =
      (s.journal.map record).getLast?.all fun last => last.index < entry.index := by
    rw [hvalidate]
    cases (s.journal.map record).getLast?.all (·.index < entry.index) <;> rfl
  have horder := hs.inOrder_iff entry.index
  unfold append at happend
  dsimp only at happend
  split at happend
  case isFalse => cases happend
  rename_i hlength
  have hgate := hs.gate.outcome (record_fits (hindexBelow.trans hindex)) hlength hkeeps
  rw [← hchecked] at hgate horder
  cases hleft : (s.disk.validateNextJournalIndex entry.index).1.isOk &&
      outcome.leaves (encodeJournalRecord entry.record).length with
  | false =>
    obtain ⟨error, herror⟩ := outcome.result_error hleft
    unfold record at hleft
    simp only [hleft, herror, Bool.false_eq_true, if_false, Bool.or_false] at happend hgate
    cases happend
    refine .inl ⟨error, ⟨⟨hs.ids, hgate⟩, fun hleaves hall => ?_⟩, rfl, rfl⟩
    rw [horder.2 hall] at hleft
    exact absurd hleaves (Bool.eq_false_iff.1 hleft)
  | true =>
    obtain ⟨hok, hleaves⟩ := Bool.and_eq_true_iff.1 hleft
    have hresult : (s.disk.validateNextJournalIndex entry.index).1 = .ok () := by
      rw [hvalidate, if_pos (hchecked ▸ hok)]
    unfold record at hleft
    simp only [hleft, if_true, Bool.or_true] at happend hgate
    rw [hresult] at happend
    cases happend
    refine .inr ⟨⟨⟨forall_mem_concat hs.ids (hidBelow.trans hid), ?_⟩, hleaves, horder.1 hok⟩,
      rfl, rfl⟩
    rwa [map_append]

end Session

end

variable {folded : Folded W}

section

variable {entries : List (JournalEntry W)} {index : Nat}

theorem what_compactedEntries (index : Nat) (pending : List (RecordedWork W)) :
    (compactedEntries index pending).map (·.what) =
      pending.map fun recorded => .enqueue recorded.id recorded.work := by
  induction pending generalizing index with
  | nil => rfl
  | cons _ _ ih => simp [compactedEntries, ih]

theorem index_compactedEntries {pending : List (RecordedWork W)} :
    ∀ entry ∈ compactedEntries index pending,
      index ≤ entry.index ∧ entry.index < index + pending.length := by
  induction pending generalizing index with
  | nil => rintro _ ⟨⟩
  | cons _ _ ih =>
  intro entry hentry
  rcases mem_cons.1 hentry with rfl | hentry
  · simp
  have hindex := ih entry hentry
  rw [length_cons]
  omega

theorem pairwise_compactedEntries (index : Nat) (pending : List (RecordedWork W)) :
    (compactedEntries index pending).Pairwise fun earlier later => earlier.index < later.index := by
  induction pending generalizing index with
  | nil => exact .nil
  | cons _ _ ih =>
    refine pairwise_cons.2 ⟨fun entry hentry => ?_, ih (index + 1)⟩
    exact (index_compactedEntries entry hentry).1

theorem le_foldl_max (numbers : List Nat) (start : Nat) :
    start ≤ numbers.foldl max start ∧ ∀ n ∈ numbers, n ≤ numbers.foldl max start := by
  induction numbers generalizing start with
  | nil => simp
  | cons number _ ih =>
  obtain ⟨_, hrest⟩ := ih (max start number)
  simp only [foldl_cons, mem_cons, forall_eq_or_imp]
  exact ⟨by omega, by omega, hrest⟩

theorem foldl_max_lt {numbers : List Nat} {start bound : Nat} (hstart : start < bound)
    (hnumbers : ∀ n ∈ numbers, n < bound) : numbers.foldl max start < bound := by
  induction numbers generalizing start with
  | nil => exact hstart
  | cons _ _ ih =>
    obtain ⟨hnumber, hrest⟩ := forall_mem_cons.1 hnumbers
    exact ih (Nat.max_lt.2 ⟨hstart, hnumber⟩) hrest

/-- Work that is pending has an id that the fold has seen. -/
theorem Folds.id_pending (hfolds : Folds entries folded) :
    ∀ recorded ∈ folded.pending, recorded.id ≤ folded.maxWorkId := by
  intro recorded hmem
  rw [hfolds.pending] at hmem
  obtain ⟨_, hrecord, henqueued⟩ := mem_filterMap.1 (mem_of_mem_filter hmem)
  obtain ⟨entry, hentry, rfl⟩ := mem_map.1 hrecord
  rw [hfolds.maxWorkId]
  refine (le_foldl_max _ 0).2 _ (mem_map.2 ⟨entry, hentry, ?_⟩)
  obtain ⟨_, ⟨id, _⟩ | _⟩ := entry
  · cases henqueued
    rfl
  · cases henqueued

theorem Folds.id_compacted (hfolds : Folds entries folded) :
    ∀ entry ∈ compactedEntries index folded.pending, entry.what.id ≤ folded.maxWorkId := by
  intro entry hentry
  have hwhat := mem_map_of_mem (f := (·.what)) hentry
  rw [what_compactedEntries] at hwhat
  obtain ⟨recorded, hmem, heq⟩ := mem_map.1 hwhat
  rw [← heq]
  exact hfolds.id_pending recorded hmem

end

section

variable [DurablePayload W] {s t : Session W} {file : List UInt8}

/-- The journal of a session and the tokens it holds: every id and index in use is below the
outbox's counters, and every token has the bytes of its entry. -/
structure Layout (s : Session W) : Prop where
  gated : Gated s.journal s.disk
  entries : ∀ entry ∈ s.journal,
    entry.what.id < s.outbox.nextWorkId ∧ entry.index < s.outbox.nextIndex
  works : ∀ held ∈ s.works, s.outbox.Issued held.token.payload (workEntry held.token)
  durable : ∀ held ∈ s.works, held.durable = true → workEntry held.token ∈ s.journal
  completions : ∀ held ∈ s.completions, s.outbox.Issued held.token.payload
    (completionEntry held.token : JournalEntry W)
  pending : ∀ id ∈ s.outbox.pending, id < s.outbox.nextWorkId
  nextWorkId : s.outbox.nextWorkId < 2 ^ 64
  nextIndex : s.outbox.nextIndex < 2 ^ 64

theorem layout_new (capacity : Nat) : Layout (new capacity : Session W) where
  gated := ⟨by simp [new], gate_empty⟩
  entries := by simp [new]
  works := by simp [new]
  durable := by simp [new]
  completions := by simp [new]
  pending := by simp [new, DurableOutbox.new]
  nextWorkId := by simp [new, DurableOutbox.new]
  nextIndex := by simp [new, DurableOutbox.new]

/-- What a crash leaves of an append in flight is no entry of the journal. -/
theorem Session.gated_crashedDisk {inFlight : InFlight} {disk : Disk} (hs : Gated s.journal s.disk)
    (hkeeps : ∀ operation ∈ s.torn inFlight, operation.KeepsSidecar W s.disk)
    (hdisk : s.crashedDisk inFlight = some disk) : Gated s.journal disk := by
  have hcutOff : ∀ operation, s.torn inFlight = some operation → ∃ index bytes cut,
      operation = torn.cutOff index bytes cut := by
    intro operation htorn
    cases inFlight with
    | nothing => cases htorn
    | work | completion =>
      obtain ⟨held, -, rfl⟩ := Option.map_eq_some_iff.1 htorn
      exact ⟨_, _, _, rfl⟩
  unfold crashedDisk at hdisk
  cases htorn : s.torn inFlight with
  | none =>
    rw [htorn] at hdisk
    cases hdisk
    exact hs
  | some operation =>
  obtain ⟨index, bytes, cut, rfl⟩ := hcutOff operation htorn
  rw [htorn] at hdisk
  simp only [torn.cutOff, run] at hdisk
  split at hdisk
  case isFalse => cases hdisk
  rename_i hguard
  cases hdisk
  refine ⟨hs.ids, ?_⟩
  have hgate := hs.gate.crashedAppend (W := W) ⟨hguard.1, hguard.2.1⟩ hguard.2.2 (hkeeps _ htorn)
  have hlength : 0 < (encodeJournalRecord { index := index, bytes := bytes }).length :=
    length_pos_iff.2 (encodeJournalRecord_ne_nil _)
  rwa [if_neg] at hgate
  simp only [Bool.and_eq_true, decide_eq_true_eq, not_and]
  omega

section

variable {capacity : Nat} {commit : CommitConfidence} {entries : List (JournalEntry W)}
  {outbox : DurableOutbox} {report : RecoveryReport W}

theorem Recorded.fold_eq_ok {cap : Nat} {warning : Option JournalReplayWarning}
    (hrecorded : Recorded entries file)
    (hfold : fold (replayJournalBytes file) cap = .ok (folded, warning)) :
    Folds entries folded := by
  rw [hrecorded.written.replay] at hfold
  simp only [fold, bind, Except.bind] at hfold
  split at hfold
  · cases hfold
  rename_i value hvalue
  cases hfold
  exact foldlM_entries hrecorded.ids hvalue

/-- Recovery gives the outbox of what it read. -/
theorem Recorded.recover_eq_ok (hrecorded : Recorded entries file)
    (hrecover : recover capacity (replayJournalBytes file) commit = .ok (outbox, report)) :
    ∃ folded, Folds entries folded ∧ folded.maxIndex + 1 < 2 ^ 64 ∧
      folded.maxWorkId + 1 < 2 ^ 64 ∧ report.pending = folded.pending ∧
      outbox = folded.outbox (max capacity 1) (folded.maxIndex + 1) (folded.maxWorkId + 1) := by
  simp only [recover, bind, Except.bind] at hrecover
  split at hrecover
  · cases hrecover
  rename_i result hfold
  obtain ⟨folded, _⟩ := result
  split at hrecover
  · rename_i nextIndex nextWorkId hindex hid
    obtain ⟨rfl, hindexBound⟩ := checkedSucc_eq_some.1 hindex
    obtain ⟨rfl, hidBound⟩ := checkedSucc_eq_some.1 hid
    cases hrecover
    exact ⟨folded, hrecorded.fold_eq_ok hfold, hindexBound, hidBound, rfl, rfl⟩
  · cases hrecover

/-- The image that a compacting recovery returns holds what it found pending. -/
theorem recoverCompacted_eq_ok {replay : Except CallError JournalReplay} {image : List UInt8}
    (hrecover : recoverCompacted capacity replay commit = .ok (outbox, report, image)) :
    ∃ folded warning, fold replay (max capacity 1) = .ok (folded, warning) ∧
      folded.pending.length + 1 < 2 ^ 64 ∧
      folded.maxWorkId + 1 < 2 ^ 64 ∧ report.pending = folded.pending ∧
      image = encodeJournal (compactedFrom 1 folded.pending) ∧
      outbox = folded.outbox (max capacity 1) (folded.pending.length + 1)
        (folded.maxWorkId + 1) := by
  simp only [recoverCompacted, bind, Except.bind] at hrecover
  split at hrecover
  · cases hrecover
  rename_i result hfold
  obtain ⟨folded, warning⟩ := result
  split at hrecover
  · rename_i nextIndex nextWorkId hindex hid
    obtain ⟨rfl, hindexBound⟩ := checkedSucc_eq_some.1 hindex
    obtain ⟨rfl, hidBound⟩ := checkedSucc_eq_some.1 hid
    cases hrecover
    exact ⟨folded, warning, hfold, hindexBound, hidBound, rfl, rfl, rfl⟩
  · cases hrecover

theorem compactedFrom_eq (index : Nat) (pending : List (RecordedWork W)) :
    compactedFrom index pending = (compactedEntries index pending).map record := by
  induction pending generalizing index with
  | nil => rfl
  | cons _ _ ih =>
    simp only [compactedFrom, compactedEntries, map_cons, ih]
    rfl

/-- A compacted journal is not longer than the journal it was made from. -/
theorem Folds.length_compacted (hfolds : Folds entries folded) (index : Nat) :
    (encodeJournal (compactedFrom index folded.pending)).length ≤
      (encodeJournal (entries.map JournalEntry.record)).length := by
  have hcompacted : ∀ (pending : List (RecordedWork W)) index,
      (encodeJournal (compactedFrom index pending)).length = (pending.map fun recorded =>
        JOURNAL_HEADER_BYTES + (enqueue recorded.id recorded.work).frame.length).sum := by
    intro pending
    induction pending with
    | nil => intro index; rfl
    | cons recorded _ ih =>
    intro index
    rw [compactedFrom, encodeJournal, flatMap_cons, length_append,
      length_encodeJournalRecord, map_cons, sum_cons, ← ih (index + 1)]
    rfl
  have henqueued : ((enqueuedWork (entries.map (·.what))).map fun recorded =>
      JOURNAL_HEADER_BYTES + (enqueue recorded.id recorded.work).frame.length).sum ≤
        (encodeJournal (entries.map JournalEntry.record)).length := by
    clear hfolds
    induction entries with
    | nil => exact zero_le _
    | cons entry _ ih =>
    rw [map_cons, map_cons, encodeJournal, flatMap_cons, length_append, length_encodeJournalRecord]
    obtain ⟨_, ⟨id, _⟩ | _⟩ := entry
    · exact Nat.add_le_add_left ih _
    · exact le_trans ih (le_add_left _ _)
  rw [hcompacted, hfolds.pending]
  refine le_trans ?_ henqueued
  exact Sublist.sum_le_sum (filter_sublist.map _) fun _ _ => zero_le _

/-- The records of a compacted image count up from one. -/
theorem written_compacted {pending : List (RecordedWork W)} (hindex : pending.length + 1 < 2 ^ 64)
    (hlength : (encodeJournal (compactedFrom 1 pending)).length < 2 ^ 63) :
    Written (compactedFrom 1 pending) (encodeJournal (compactedFrom 1 pending)) where
  order := by
    rw [compactedFrom_eq, List.pairwise_map]
    exact pairwise_compactedEntries 1 pending
  fits := by
    rw [compactedFrom_eq]
    intro record hrecord
    obtain ⟨entry, hentry, rfl⟩ := mem_map.1 hrecord
    have hbound := (index_compactedEntries entry hentry).2
    exact record_fits (by omega)
  bytes := ⟨[], (append_nil _).symm, .inl rfl⟩
  length := hlength

theorem Recorded.compacted (hrecorded : Recorded entries file) (hfolds : Folds entries folded)
    (hids : folded.maxWorkId < 2 ^ 64) (hlength : folded.pending.length + 1 < 2 ^ 64) :
    Recorded (compactedEntries 1 folded.pending)
      (encodeJournal (compactedFrom 1 folded.pending)) where
  ids entry hentry := (hfolds.id_compacted entry hentry).trans_lt hids
  written := by
    rw [← compactedFrom_eq]
    refine written_compacted hlength ((hfolds.length_compacted 1).trans_lt ?_)
    exact hrecorded.written.length_le.trans_lt hrecorded.written.length

/-- What one operation does to a session in good order. -/
inductive SessionOperation.Does (s : Session W) : SessionOperation W → Session W → Prop where
  | full (work : W) : Does s (.enqueue work) s
  | enqueued (work : W) (hroom : s.outbox.staged.card + s.outbox.pending.card < s.outbox.capacity)
      (hid : s.outbox.nextWorkId + 1 < 2 ^ 64) (hindex : s.outbox.nextIndex + 1 < 2 ^ 64) :
      Does s (.enqueue work) { s with
        outbox := { s.outbox with
          nextWorkId := s.outbox.nextWorkId + 1, nextIndex := s.outbox.nextIndex + 1
          staged := insert s.outbox.nextWorkId s.outbox.staged }
        works := s.works ++ [{
          token := {
            id := s.outbox.nextWorkId, index := s.outbox.nextIndex
            payload := (OutboxRecord.enqueue s.outbox.nextWorkId work).frame, work }
          durable := false, result := none }] }
  | workFailed {position held outcome} (error : CallError) (hheld : s.works[position]? = some held)
      (hmisses : s.Misses (workEntry held.token) outcome) :
      Does s (.appendWork position outcome) { s with
        disk := s.after (workEntry held.token) outcome
        works := s.works.set position { held with result := some (.error error) } }
  | workWritten {position held outcome} (hheld : s.works[position]? = some held)
      (hlands : s.Lands (workEntry held.token) outcome) :
      Does s (.appendWork position outcome) { s with
        disk := s.after (workEntry held.token) outcome
        journal := s.journal ++ [workEntry held.token]
        durableIds := s.durableIds ++ [held.token.id]
        works := s.works.set position
          { held with durable := true, result := some (outcome.result (.ok ())) } }
  | recorded {position held} (append : Except CallError Unit)
      (hheld : s.works[position]? = some held) (hresult : held.result = some append) :
      Does s (.record position) { s with
        outbox := (s.outbox.record held.token append).2, works := s.works.eraseIdx position }
  | abandoned {position held} (hheld : s.works[position]? = some held) :
      Does s (.abandon position) { s with
        outbox := (s.outbox.abandon held.token).2, works := s.works.eraseIdx position }
  | notBegun (id : Nat) : Does s (.beginComplete id) s
  | begun {id} (hpending : id ∈ s.outbox.pending) (hindex : s.outbox.nextIndex + 1 < 2 ^ 64) :
      Does s (.beginComplete id) { s with
        outbox := { s.outbox with nextIndex := s.outbox.nextIndex + 1 }
        completions := s.completions ++ [{
          token := { id, index := s.outbox.nextIndex, payload := frameRecord TAG_COMPLETE id none }
          durable := false, result := none }] }
  | completionFailed {position held outcome} (error : CallError)
      (hheld : s.completions[position]? = some held)
      (hmisses : s.Misses (completionEntry held.token) outcome) :
      Does s (.appendCompletion position outcome) { s with
        disk := s.after (completionEntry held.token) outcome
        completions := s.completions.set position { held with result := some (.error error) } }
  | completionWritten {position held outcome} (hheld : s.completions[position]? = some held)
      (hlands : s.Lands (completionEntry held.token) outcome) :
      Does s (.appendCompletion position outcome) { s with
        disk := s.after (completionEntry held.token) outcome
        journal := s.journal ++ [completionEntry held.token]
        completions := s.completions.set position
          { held with durable := true, result := some (outcome.result (.ok ())) } }
  | finished {position held} (append : Except CallError Unit)
      (hheld : s.completions[position]? = some held) (hresult : held.result = some append) :
      Does s (.finishComplete position) { s with
        outbox := (s.outbox.finishComplete held.token append).2
        completions := s.completions.eraseIdx position }
  | recovered {inFlight capacity commit disk folded} (hdisk : Gated s.journal disk)
      (hfolds : Folds s.journal folded) (hindex : folded.maxIndex + 1 < 2 ^ 64)
      (hid : folded.maxWorkId + 1 < 2 ^ 64) :
      Does s (.restart inFlight capacity commit false) { s with
        outbox := folded.outbox (max capacity 1) (folded.maxIndex + 1) (folded.maxWorkId + 1)
        works := [], completions := [], disk }
  | compacted {inFlight capacity commit disk folded}
      (hdisk : Gated (compactedEntries 1 folded.pending) disk)
      (hfolds : Folds s.journal folded) (hindex : folded.pending.length + 1 < 2 ^ 64)
      (hid : folded.maxWorkId + 1 < 2 ^ 64) :
      Does s (.restart inFlight capacity commit true) { s with
        outbox := folded.outbox (max capacity 1) (folded.pending.length + 1) (folded.maxWorkId + 1)
        works := [], completions := [], disk
        journal := compactedEntries 1 folded.pending }

theorem SessionOperation.does_restart {inFlight : InFlight} {compact : Bool} {disk : Disk}
    (hdisk : Gated s.journal disk)
    (hkeeps : compact = true → (install capacity commit).KeepsSidecar W disk)
    (hrestart : s.restart disk capacity commit compact = some t) :
    (restart inFlight capacity commit compact).Does s t := by
  unfold Session.restart at hrestart
  cases compact with
  | false =>
    dsimp only at hrestart
    split at hrestart
    · rename_i outbox report hrecover
      cases hrestart
      rw [disk.replayJournal_eq] at hrecover
      obtain ⟨folded, hfolds, hindex, hid, -, rfl⟩ := hdisk.recorded.recover_eq_ok hrecover
      exact .recovered hdisk hfolds hindex hid
    · cases hrestart
  | true =>
  dsimp only at hrestart
  split at hrestart
  · rename_i outbox report image hrecover
    cases hrestart
    have hnames := hkeeps rfl
    rw [DiskOperation.KeepsSidecar, hrecover] at hnames
    rw [disk.replayJournal_eq] at hrecover
    obtain ⟨folded, _, hfold, hindex, hid, hpending, rfl, rfl⟩ :=
      recoverCompacted_eq_ok hrecover
    have hfolds := hdisk.recorded.fold_eq_ok hfold
    have hcompacted := hdisk.recorded.compacted hfolds (by omega) hindex
    dsimp only at hnames
    rw [hpending, compactedFrom_eq] at hnames
    rw [hpending, compactedFrom_eq]
    rw [compactedFrom_eq] at hcompacted
    exact .compacted ⟨hcompacted.ids, hcompacted.written, hnames, fun _ _ _ => rfl⟩ hfolds
      hindex hid
  · cases hrestart

end

variable {operation : SessionOperation W} {completions : List (Held DurableCompletion)}
  {works : List (Held (DurableWork W))} {outbox : DurableOutbox}

/-- The cases of one operation. -/
theorem SessionOperation.run_does (hs : Layout s) (hkeeps : operation.KeepsSidecar s)
    (hrun : operation.run s = some t) : operation.Does s t := by
  cases operation with
  | enqueue work =>
    simp only [run] at hrun
    split at hrun
    · rename_i staged outbox henqueue
      cases hrun
      obtain ⟨hroom, rfl, rfl, hid, hindex⟩ := s.outbox.enqueue_spec henqueue
      exact .enqueued work hroom hid hindex
    · cases hrun
      exact .full work
    · cases hrun
  | appendWork =>
    obtain ⟨held, hheld, hrun⟩ := Option.bind_eq_some_iff.1 hrun
    obtain ⟨⟨u, _⟩, happend, heq⟩ := Option.bind_eq_some_iff.1 hrun
    cases heq
    rcases append_cases hs.gated (hs.works held (mem_of_getElem? hheld)) hs.nextWorkId hs.nextIndex
      happend (hkeeps held hheld) with ⟨error, hmisses, rfl, rfl⟩ | ⟨hlands, rfl, rfl⟩
    · exact .workFailed error hheld hmisses
    · exact .workWritten hheld hlands
  | record =>
    obtain ⟨held, hheld, hrun⟩ := Option.bind_eq_some_iff.1 hrun
    obtain ⟨append, hresult, heq⟩ := Option.bind_eq_some_iff.1 hrun
    cases heq
    exact .recorded append hheld hresult
  | abandon =>
    obtain ⟨held, hheld, heq⟩ := Option.bind_eq_some_iff.1 hrun
    cases heq
    exact .abandoned hheld
  | beginComplete id =>
    simp only [run] at hrun
    rcases hbegin : s.outbox.beginComplete id with ⟨start, outbox⟩
    rw [hbegin] at hrun
    rcases s.outbox.beginComplete_spec hbegin with ⟨rfl, hstart⟩ | ⟨hpending, hindex, rfl, rfl⟩
    · cases start with
      | record completion => exact absurd rfl (hstart completion)
      | overflow => cases hrun
      | alreadyCompleted | notPending =>
        cases hrun
        exact .notBegun id
    · cases hrun
      exact .begun hpending hindex
  | appendCompletion =>
    obtain ⟨held, hheld, hrun⟩ := Option.bind_eq_some_iff.1 hrun
    obtain ⟨⟨u, _⟩, happend, heq⟩ := Option.bind_eq_some_iff.1 hrun
    cases heq
    rcases append_cases hs.gated (hs.completions held (mem_of_getElem? hheld)) hs.nextWorkId
      hs.nextIndex happend (hkeeps held hheld) with ⟨error, hmisses, rfl, rfl⟩ | ⟨hlands, rfl, rfl⟩
    · exact .completionFailed error hheld hmisses
    have hids : s.durableIds ++ (enqueuedWork
        [(completionEntry held.token : JournalEntry W).what]).map (·.id) =
          s.durableIds := append_nil _
    rw [hids]
    exact .completionWritten hheld hlands
  | finishComplete =>
    obtain ⟨_, hheld, hrun⟩ := Option.bind_eq_some_iff.1 hrun
    obtain ⟨append, hresult, heq⟩ := Option.bind_eq_some_iff.1 hrun
    cases heq
    exact .finished append hheld hresult
  | restart =>
    obtain ⟨disk, hdisk, hrestart⟩ := Option.bind_eq_some_iff.1 hrun
    exact does_restart (gated_crashedDisk hs.gated hkeeps.1 hdisk)
      (hkeeps.2 · disk hdisk) hrestart

/-- The layout for other counters and tokens over the same file. -/
theorem Layout.of_outbox (hs : Layout s) (hid : s.outbox.nextWorkId ≤ outbox.nextWorkId)
    (hindex : s.outbox.nextIndex ≤ outbox.nextIndex)
    (hworks : ∀ held ∈ works, held ∈ s.works ∨
      outbox.Issued held.token.payload (workEntry held.token) ∧ held.durable = false)
    (hcompletions : ∀ held ∈ completions, held ∈ s.completions ∨
      outbox.Issued held.token.payload (completionEntry held.token : JournalEntry W))
    (hpending : ∀ id ∈ outbox.pending, id < outbox.nextWorkId)
    (hidBound : outbox.nextWorkId < 2 ^ 64) (hindexBound : outbox.nextIndex < 2 ^ 64) :
    Layout { s with outbox, works, completions } where
  gated := hs.gated
  entries entry hentry := by
    obtain ⟨hentryId, hentryIndex⟩ := hs.entries entry hentry
    exact ⟨lt_of_lt_of_le hentryId hid, lt_of_lt_of_le hentryIndex hindex⟩
  works held hheld :=
    (hworks held hheld).elim (fun hmem => (hs.works held hmem).mono hid hindex) And.left
  durable held hheld hdurable := by
    rcases hworks held hheld with hmem | hnew
    · exact hs.durable held hmem hdurable
    · exact absurd hdurable (Bool.eq_false_iff.1 hnew.2)
  completions held hheld :=
    (hcompletions held hheld).elim (fun hmem => (hs.completions held hmem).mono hid hindex) id
  pending := hpending
  nextWorkId := hidBound
  nextIndex := hindexBound

/-- The layout for other outstanding work under the same counters, with no new tokens. -/
theorem Layout.keeps {staged pending : Finset Nat} (hs : Layout s)
    (hkeeps : s.outbox.Keeps outbox staged pending) (hworks : works ⊆ s.works)
    (hcompletions : completions ⊆ s.completions)
    (hpending : ∀ id ∈ pending, id < s.outbox.nextWorkId) :
    Layout { s with outbox, works, completions } := by
  obtain ⟨-, hid, hindex, -, rfl⟩ := hkeeps
  exact hs.of_outbox hid.ge hindex.ge (fun _ hmem => .inl (hworks hmem))
    (fun _ hmem => .inl (hcompletions hmem)) (hid ▸ hpending) (hid ▸ hs.nextWorkId)
    (hindex ▸ hs.nextIndex)

/-- A restarted session holds no tokens, and its counters are behind what was read. -/
theorem Layout.restarted {capacity nextIndex : Nat} {entries : List (JournalEntry W)} {disk : Disk}
    (s : Session W) (hdisk : Gated entries disk)
    (hentries : ∀ entry ∈ entries, entry.what.id ≤ folded.maxWorkId ∧ entry.index < nextIndex)
    (hpending : ∀ recorded ∈ folded.pending, recorded.id ≤ folded.maxWorkId)
    (hindex : nextIndex < 2 ^ 64) (hid : folded.maxWorkId + 1 < 2 ^ 64) :
    Layout { s with
      outbox := folded.outbox capacity nextIndex (folded.maxWorkId + 1)
      works := [], completions := [], disk, journal := entries } where
  gated := hdisk
  entries entry hentry := by
    obtain ⟨hle, hlt⟩ := hentries entry hentry
    simp only [Folded.outbox_fields]
    exact ⟨lt_succ_of_le hle, hlt⟩
  works := by rintro _ ⟨⟩
  durable := by rintro _ ⟨⟩
  completions := by rintro _ ⟨⟩
  pending id hmem := by
    simp only [Folded.outbox_fields, mem_toFinset] at hmem ⊢
    obtain ⟨recorded, hrecorded, rfl⟩ := mem_map.1 hmem
    exact lt_succ_of_le (hpending recorded hrecorded)
  nextWorkId := by simpa using hid
  nextIndex := by simpa using hindex

theorem Layout.does (hs : Layout s) (hdoes : operation.Does s t) : Layout t := by
  cases hdoes with
  | full | notBegun => exact hs
  | enqueued _ _ hid hindex =>
    refine hs.of_outbox (le_succ _) (le_succ _) ?_ (fun held hheld => .inl hheld)
      (fun id hmem => lt_succ_of_lt (hs.pending id hmem)) hid hindex
    exact forall_mem_concat (fun _ => .inl) (.inr ⟨⟨rfl, lt_succ_self _, lt_succ_self _⟩, rfl⟩)
  | begun hpending hindex =>
    refine hs.of_outbox le_rfl (le_succ _) (fun held hheld => .inl hheld) ?_
      hs.pending hs.nextWorkId hindex
    exact forall_mem_concat (fun _ => .inl) (.inr ⟨rfl, hs.pending _ hpending, lt_succ_self _⟩)
  | workFailed error hheld hmisses =>
    have hwork := hs.works _ (mem_of_getElem? hheld)
    have hdurable := hs.durable _ (mem_of_getElem? hheld)
    exact { hs with
      gated := hmisses.gated
      works := forall_mem_set hs.works hwork
      durable := forall_mem_set hs.durable hdurable }
  | completionFailed error hheld hmisses =>
    have hcompletion := hs.completions _ (mem_of_getElem? hheld)
    exact { hs with
      gated := hmisses.gated
      completions := forall_mem_set hs.completions hcompletion }
  | workWritten hheld hlands =>
    have hissued := hs.works _ (mem_of_getElem? hheld)
    exact { hs with
      gated := hlands.gated
      entries := forall_mem_concat hs.entries hissued.2
      works := forall_mem_set hs.works hissued
      durable := forall_mem_set
        (fun other hmem hdurable => mem_append_left _ (hs.durable other hmem hdurable))
        fun _ => mem_append_right _ (mem_singleton.2 rfl) }
  | completionWritten hheld hlands =>
    have hissued := hs.completions _ (mem_of_getElem? hheld)
    exact { hs with
      gated := hlands.gated
      entries := forall_mem_concat hs.entries hissued.2
      durable := fun other hmem hdurable => mem_append_left _ (hs.durable other hmem hdurable)
      completions := forall_mem_set hs.completions hissued }
  | @recorded position held append hheld =>
    refine hs.keeps (s.outbox.record_spec held.token append) (eraseIdx_subset ..) (refl _) ?_
    split
    · exact (Finset.forall_mem_insert _ _ _).2
        ⟨(hs.works held (mem_of_getElem? hheld)).2.1, hs.pending⟩
    · exact hs.pending
  | @abandoned position held =>
    exact hs.keeps (s.outbox.abandon_spec held.token) (eraseIdx_subset ..) (refl _) hs.pending
  | @finished position held append =>
    refine hs.keeps (s.outbox.finishComplete_spec held.token append) (refl _)
      (eraseIdx_subset ..) ?_
    split
    · exact fun id hmem => hs.pending id (Finset.mem_of_mem_erase hmem)
    · exact hs.pending
  | recovered hdisk hfolds hindex hid =>
    refine Layout.restarted s hdisk ?_ hfolds.id_pending hindex hid
    intro entry hentry
    rw [hfolds.maxWorkId, hfolds.maxIndex]
    exact ⟨(le_foldl_max _ 0).2 _ (mem_map_of_mem hentry),
      lt_succ_of_le ((le_foldl_max _ 0).2 _ (mem_map_of_mem hentry))⟩
  | compacted hdisk hfolds hindex hid =>
    refine Layout.restarted s hdisk ?_ hfolds.id_pending hindex hid
    intro entry hentry
    exact ⟨hfolds.id_compacted entry hentry,
      lt_of_lt_of_eq (index_compactedEntries entry hentry).2 (add_comm _ _)⟩

theorem SessionRun.layout {p : Session W → SessionOperation W → Prop} {capacity : Nat}
    (hkeeps : ∀ s operation, p s operation → operation.KeepsSidecar s)
    (hs : SessionRun p capacity s) : Layout s := by
  induction hs with
  | start => exact layout_new capacity
  | step operation _ hp hrun ih => exact ih.does (operation.run_does ih (hkeeps _ _ hp) hrun)

end

end Tina.Persistence
