import Tina.Lib.Framing
import Tina.Lib.LittleEndian

/-!
The journal as bytes on disk: one record after the other, each with its index, its length
and a checksum. Replay reads records until the bytes end; bytes that end inside a record are a
truncated tail, which is a warning, and anything else that does not read as a record is an
error. A `u64` is a number here, and where the code reads or writes one it is below `2 ^ 64`.
-/

namespace Tina.Persistence

open Lib List

/-- The errors of a runtime call that the persistence code tells apart. -/
inductive CallError where
  | corruptRecord
  | commitUncertain
  | io
  | other
deriving DecidableEq

structure JournalRecord where
  index : Nat
  bytes : List UInt8
deriving DecidableEq

inductive JournalReplayWarning where
  | truncatedTail (validPrefixLen : Nat)
deriving DecidableEq

structure JournalReplay where
  records : List JournalRecord
  warning : Option JournalReplayWarning
deriving DecidableEq

/-- `TNJRNL01`. -/
def JOURNAL_MAGIC : List UInt8 := [84, 78, 74, 82, 78, 76, 48, 49]

def U64_BYTES : Nat := 8

def JOURNAL_HEADER_BYTES : Nat := 8 + U64_BYTES + U64_BYTES + U64_BYTES

def readU64 (bytes : List UInt8) (offset : Nat) : Option Nat :=
  let chunk := (bytes.drop offset).take U64_BYTES
  if chunk.length = U64_BYTES then some (leNat chunk) else none

def checksum (bytes : List UInt8) : UInt64 :=
  bytes.foldl (fun hash byte => (hash ^^^ byte.toUInt64) * 0x100000001b3) 0xcbf29ce484222325

def encodeJournalRecord (record : JournalRecord) : List UInt8 :=
  JOURNAL_MAGIC ++ leBytes U64_BYTES record.index ++ leBytes U64_BYTES record.bytes.length ++
    leBytes U64_BYTES (checksum record.bytes).toNat ++ record.bytes

/-- The loop of `replay_journal_bytes` at `cursor`, with the bytes from there on. Every round
takes at least a header, so as many rounds as there are bytes are enough. -/
def replayFrom : Nat → Nat → List UInt8 → Option Nat → Except CallError JournalReplay
  | 0, _, _, _ => .ok { records := [], warning := none }
  | rounds + 1, cursor, bytes, lastIndex =>
    if bytes = [] then .ok { records := [], warning := none }
    else if bytes.length < JOURNAL_HEADER_BYTES then
      .ok { records := [], warning := some (.truncatedTail cursor) }
    else
      let header := bytes.take JOURNAL_HEADER_BYTES
      if header.take 8 ≠ JOURNAL_MAGIC then .error .corruptRecord
      else
        match readU64 header 8, readU64 header 16, readU64 header 24 with
        | some index, some payloadLen, some expectedChecksum =>
          let payloadEnd := JOURNAL_HEADER_BYTES + payloadLen
          -- `checked_add` on a 64-bit `usize`
          if 2 ^ 64 ≤ cursor + payloadEnd then .error .corruptRecord
          else if bytes.length < payloadEnd then
            .ok { records := [], warning := some (.truncatedTail cursor) }
          else
            let payload := (bytes.drop JOURNAL_HEADER_BYTES).take payloadLen
            if (checksum payload).toNat ≠ expectedChecksum then .error .corruptRecord
            else if lastIndex.any (index ≤ ·) then .error .corruptRecord
            else
              (replayFrom rounds (cursor + payloadEnd) (bytes.drop payloadEnd) (some index)).map
                fun replay => { replay with records := ⟨index, payload⟩ :: replay.records }
        | _, _, _ => .error .corruptRecord

def replayJournalBytes (bytes : List UInt8) : Except CallError JournalReplay :=
  replayFrom bytes.length 0 bytes none

/-- The file without a truncated tail. -/
def repairedFile (file : List UInt8) : List UInt8 :=
  match replayJournalBytes file with
  | .ok { warning := some (.truncatedTail validPrefixLen), .. } => file.take validPrefixLen
  | _ => file

/-- A record that can be held and encoded: its index is a `u64`, and a `Vec` has fewer than
`2 ^ 63` bytes. -/
structure JournalRecord.Fits (record : JournalRecord) : Prop where
  index : record.index < 2 ^ 64
  bytes : JOURNAL_HEADER_BYTES + record.bytes.length < 2 ^ 63

def encodeJournal (records : List JournalRecord) : List UInt8 :=
  records.flatMap encodeJournalRecord

variable {record : JournalRecord}

theorem length_encodeJournalRecord (record : JournalRecord) :
    (encodeJournalRecord record).length = JOURNAL_HEADER_BYTES + record.bytes.length := by
  simp [encodeJournalRecord, JOURNAL_MAGIC, JOURNAL_HEADER_BYTES, U64_BYTES]
  omega

theorem encodeJournalRecord_ne_nil (record : JournalRecord) : encodeJournalRecord record ≠ [] := by
  intro hnil
  have hlength := length_encodeJournalRecord record
  simp [hnil, JOURNAL_HEADER_BYTES] at hlength
  omega

/-- The four fields of the header. -/
def JournalRecord.header (record : JournalRecord) : List UInt8 :=
  JOURNAL_MAGIC ++ (leBytes U64_BYTES record.index ++ (leBytes U64_BYTES record.bytes.length ++
    leBytes U64_BYTES (checksum record.bytes).toNat))

theorem encodeJournalRecord_eq (record : JournalRecord) :
    encodeJournalRecord record = record.header ++ record.bytes := by
  simp [encodeJournalRecord, JournalRecord.header]

theorem length_header (record : JournalRecord) : record.header.length = JOURNAL_HEADER_BYTES := by
  simp [JournalRecord.header, JOURNAL_MAGIC, JOURNAL_HEADER_BYTES, U64_BYTES]

/-- A number that stands at an offset is read there. -/
theorem readU64_chunk {chunk : List UInt8} {offset : Nat} (hchunk : chunk.length = U64_BYTES)
    (before after : List UInt8) (hoffset : before.length = offset) :
    readU64 (before ++ (chunk ++ after)) offset = some (leNat chunk) := by
  unfold readU64
  rw [← hoffset, drop_left, take_left' hchunk]
  exact if_pos hchunk

section

variable {magic index length sum : List UInt8} (hmagic : magic.length = 8)
  (hindex : index.length = U64_BYTES) (hlength : length.length = U64_BYTES)
  (hsum : sum.length = U64_BYTES)

include hmagic hindex hlength hsum

/-- The three numbers behind the magic. -/
theorem readU64_fields (rest : List UInt8) :
    readU64 (magic ++ (index ++ (length ++ (sum ++ rest)))) 8 = some (leNat index) ∧
      readU64 (magic ++ (index ++ (length ++ (sum ++ rest)))) 16 = some (leNat length) ∧
      readU64 (magic ++ (index ++ (length ++ (sum ++ rest)))) 24 = some (leNat sum) := by
  refine ⟨readU64_chunk hindex _ _ hmagic, ?_, ?_⟩
  · rw [← append_assoc]
    exact readU64_chunk hlength _ _ (by simp [hmagic, hindex, U64_BYTES])
  · rw [← append_assoc, ← append_assoc]
    exact readU64_chunk hsum _ _ (by simp [hmagic, hindex, hlength, U64_BYTES])

/-- One round of the loop, on bytes that begin with the fields of a header. -/
theorem replayFrom_fields (rounds cursor : Nat) (lastIndex : Option Nat) (rest : List UInt8) :
    replayFrom (rounds + 1) cursor (magic ++ (index ++ (length ++ (sum ++ rest)))) lastIndex =
      if magic ≠ JOURNAL_MAGIC then .error .corruptRecord
      else if 2 ^ 64 ≤ cursor + (JOURNAL_HEADER_BYTES + leNat length) then .error .corruptRecord
      else if rest.length < leNat length then
        .ok { records := [], warning := some (.truncatedTail cursor) }
      else if (checksum (rest.take (leNat length))).toNat ≠ leNat sum then .error .corruptRecord
      else if lastIndex.any (leNat index ≤ ·) then .error .corruptRecord
      else
        (replayFrom rounds (cursor + (JOURNAL_HEADER_BYTES + leNat length))
          (rest.drop (leNat length)) (some (leNat index))).map fun replay =>
            { replay with
              records := ⟨leNat index, rest.take (leNat length)⟩ :: replay.records } := by
  have hheader : (magic ++ (index ++ (length ++ (sum ++ [])))).length = JOURNAL_HEADER_BYTES := by
    simp [hmagic, hindex, hlength, hsum, JOURNAL_HEADER_BYTES, U64_BYTES]
  have hsplit : magic ++ (index ++ (length ++ (sum ++ rest))) =
      magic ++ (index ++ (length ++ (sum ++ []))) ++ rest := by simp
  have hne : magic ++ (index ++ (length ++ (sum ++ []))) ++ rest ≠ [] := by
    intro hnil
    rw [(append_eq_nil_iff.1 hnil).1] at hheader
    cases hheader
  obtain ⟨hindexAt, hlengthAt, hsumAt⟩ := readU64_fields hmagic hindex hlength hsum []
  rw [hsplit, replayFrom, if_neg hne, if_neg (by rw [length_append]; omega)]
  simp only [take_left' hheader, take_left' hmagic, hindexAt, hlengthAt, hsumAt,
    length_append, hheader, Nat.add_lt_add_iff_left, ← drop_drop, drop_left' hheader]

end

variable {records : List JournalRecord}

section

variable {rounds cursor : Nat} {lastIndex : Option Nat} {torn bytes : List UInt8}

/-- The numbers in the header of a record. -/
theorem JournalRecord.Fits.numbers (hfits : record.Fits) :
    leNat (leBytes U64_BYTES record.index) = record.index ∧
      leNat (leBytes U64_BYTES record.bytes.length) = record.bytes.length ∧
      leNat (leBytes U64_BYTES (checksum record.bytes).toNat) = (checksum record.bytes).toNat := by
  have hbytes := hfits.bytes
  refine ⟨leNat_leBytes hfits.index, leNat_leBytes ?_, leNat_leBytes (UInt64.toNat_lt _)⟩
  unfold U64_BYTES
  omega

/-- A whole record is read, and the loop goes on behind it. -/
theorem replayFrom_record (hfits : record.Fits) (rest : List UInt8)
    (hcursor : cursor + (encodeJournalRecord record).length < 2 ^ 64)
    (hindex : ∀ last, lastIndex = some last → last < record.index) :
    replayFrom (rounds + 1) cursor (encodeJournalRecord record ++ rest) lastIndex =
      (replayFrom rounds (cursor + (encodeJournalRecord record).length) rest
        (some record.index)).map fun replay =>
          { replay with records := record :: replay.records } := by
  have hany : lastIndex.any (record.index ≤ ·) = false := by
    cases lastIndex with
    | none => rfl
    | some last => simpa using hindex last rfl
  obtain ⟨hindex, hlength, hsum⟩ := hfits.numbers
  rw [length_encodeJournalRecord] at hcursor ⊢
  rw [encodeJournalRecord_eq, JournalRecord.header]
  simp only [append_assoc]
  rw [replayFrom_fields rfl (length_leBytes _ _) (length_leBytes _ _) (length_leBytes _ _), hindex,
    hlength, hsum, take_left' rfl, drop_left' rfl, if_neg (by simp),
    if_neg (not_le.2 hcursor), if_neg (by simp), if_neg (by simp), hany]
  rfl

/-- Bytes that end inside a record are a truncated tail. -/
theorem replayFrom_torn (hfits : record.Fits) {rest : List UInt8}
    (htorn : encodeJournalRecord record = torn ++ rest) (hne : torn ≠ []) (hrest : rest ≠ [])
    (hcursor : cursor + (encodeJournalRecord record).length < 2 ^ 64) :
    replayFrom (rounds + 1) cursor torn lastIndex =
      .ok { records := [], warning := some (.truncatedTail cursor) } := by
  rw [length_encodeJournalRecord] at hcursor
  by_cases hshort : torn.length < JOURNAL_HEADER_BYTES
  · unfold replayFrom
    rw [if_neg hne, if_pos hshort]
  -- the header is complete, so the payload is not
  have hheader := length_header record
  rw [encodeJournalRecord_eq] at htorn
  obtain ⟨begun, rfl⟩ : record.header <+: torn :=
    prefix_of_prefix_length_le ⟨record.bytes, htorn⟩ ⟨rest, rfl⟩ (by omega)
  rw [append_assoc, append_cancel_left_eq] at htorn
  have hlength : begun.length < record.bytes.length := by
    have hpos := length_pos_iff.2 hrest
    rw [htorn, length_append]
    omega
  simp only [JournalRecord.header, append_assoc]
  rw [replayFrom_fields rfl (length_leBytes _ _) (length_leBytes _ _) (length_leBytes _ _),
    hfits.numbers.2.1, if_neg (by simp), if_neg (not_le.2 hcursor), if_pos hlength]

section

variable (hfits : ∀ record ∈ records, record.Fits)
  (horder : records.Pairwise fun earlier later => earlier.index < later.index)
  (htorn : torn = [] ∨ ∃ record : JournalRecord, record.Fits ∧ ∃ rest,
    encodeJournalRecord record = torn ++ rest ∧ rest ≠ [])

include hfits horder htorn

/-- A journal whose last record may be torn: the records are read back, and a torn record is
reported together with where the whole ones end. -/
theorem replayFrom_journal
    (hindex : ∀ last, lastIndex = some last → ∀ record ∈ records, last < record.index)
    (hrounds : (encodeJournal records ++ torn).length ≤ rounds)
    (hcursor : cursor + (encodeJournal records ++ torn).length < 2 ^ 63) :
    replayFrom rounds cursor (encodeJournal records ++ torn) lastIndex = .ok {
      records
      warning := if torn = [] then none
        else some (.truncatedTail (cursor + (encodeJournal records).length)) } := by
  induction records generalizing rounds cursor lastIndex with
  | nil =>
    rw [encodeJournal, flatMap_nil, nil_append] at hrounds ⊢
    cases rounds with
    | zero =>
      have hnil : torn = [] := length_eq_zero_iff.1 (Nat.le_zero.1 hrounds)
      simp [replayFrom, hnil]
    | succ =>
    rcases htorn with rfl | ⟨record, hrecord, _, heq, hrest⟩
    · simp [replayFrom]
    by_cases hnil : torn = []
    · simp [replayFrom, hnil]
    have hlength : (encodeJournalRecord record).length < 2 ^ 63 := by
      rw [length_encodeJournalRecord]
      exact hrecord.bytes
    rw [replayFrom_torn hrecord heq hnil hrest (by omega), if_neg hnil]
    rfl
  | cons record records ih =>
  obtain ⟨hfirst, horder⟩ := pairwise_cons.1 horder
  have hne := length_pos_iff.2 (encodeJournalRecord_ne_nil record)
  have happend : encodeJournal (record :: records) ++ torn =
      encodeJournalRecord record ++ (encodeJournal records ++ torn) := by
    rw [encodeJournal, flatMap_cons, append_assoc]
    rfl
  rw [happend, length_append] at hrounds hcursor
  obtain ⟨rounds, rfl⟩ : ∃ n, rounds = n + 1 := ⟨rounds - 1, by omega⟩
  rw [happend, replayFrom_record (hfits record (by simp)) _ (by omega)
    fun last hlast => hindex last hlast record (by simp),
    ih (fun other hother => hfits other (mem_cons_of_mem _ hother)) horder
      (fun last hlast other hother => Option.some.inj hlast ▸ hfirst other hother)
      (by omega) (by omega)]
  simp [Except.map, encodeJournal, add_assoc]

theorem replayJournalBytes_journal (hlength : (encodeJournal records ++ torn).length < 2 ^ 63) :
    replayJournalBytes (encodeJournal records ++ torn) = .ok {
      records
      warning := if torn = [] then none
        else some (.truncatedTail (encodeJournal records).length) } := by
  rw [replayJournalBytes, replayFrom_journal hfits horder htorn (by simp) le_rfl (by omega),
    zero_add]

end

/-- Bytes that are long enough begin with the fields of a header. -/
theorem exists_fields (hlong : JOURNAL_HEADER_BYTES ≤ bytes.length) :
    ∃ magic index length sum rest, bytes = magic ++ (index ++ (length ++ (sum ++ rest))) ∧
      magic.length = 8 ∧ index.length = U64_BYTES ∧ length.length = U64_BYTES ∧
      sum.length = U64_BYTES := by
  have hpart (n : Nat) : (bytes.drop n).take 8 ++ bytes.drop (n + 8) = bytes.drop n := by
    rw [← drop_drop, take_append_drop]
  refine ⟨(bytes.drop 0).take 8, (bytes.drop 8).take 8, (bytes.drop 16).take 8,
    (bytes.drop 24).take 8, bytes.drop 32, ?_, ?_⟩
  · rw [hpart 24, hpart 16, hpart 8, hpart 0, drop_zero]
  · simp only [JOURNAL_HEADER_BYTES, U64_BYTES, length_take, length_drop] at hlong ⊢
    omega

/-- A round that does not fail ends the replay or reads one record. -/
theorem replayFrom_cases {replay : JournalReplay}
    (hreplay : replayFrom (rounds + 1) cursor bytes lastIndex = .ok replay) :
    bytes = [] ∧ replay = ⟨[], none⟩ ∨ replay = ⟨[], some (.truncatedTail cursor)⟩ ∨
      ∃ record rest later, bytes = encodeJournalRecord record ++ rest ∧
        replayFrom rounds (cursor + (encodeJournalRecord record).length) rest
          (some record.index) = .ok later ∧
        replay = { later with records := record :: later.records } := by
  by_cases hnil : bytes = []
  · subst hnil
    cases hreplay
    exact .inl ⟨rfl, rfl⟩
  by_cases hshort : bytes.length < JOURNAL_HEADER_BYTES
  · rw [replayFrom, if_neg hnil, if_pos hshort] at hreplay
    cases hreplay
    exact .inr (.inl rfl)
  obtain ⟨_, index, length, _, rest, rfl, hmagic, hindex, hlength, hsum⟩ :=
    exists_fields (not_lt.1 hshort)
  rw [replayFrom_fields hmagic hindex hlength hsum] at hreplay
  split_ifs at hreplay with hknown _ hbegun hsame <;> try cases hreplay
  · exact .inr (.inl rfl)
  cases hlater : replayFrom rounds (cursor + (JOURNAL_HEADER_BYTES + leNat length))
      (rest.drop (leNat length)) (some (leNat index)) with
  | error => simp [hlater, Except.map] at hreplay
  | ok later =>
    rw [hlater] at hreplay
    cases hreplay
    have htake := length_take_of_le (not_lt.1 hbegun)
    have hbytes {chunk : List UInt8} (hchunk : chunk.length = U64_BYTES) :
        leBytes U64_BYTES (leNat chunk) = chunk := hchunk ▸ leBytes_leNat chunk
    refine .inr (.inr ⟨⟨leNat index, rest.take (leNat length)⟩, rest.drop (leNat length), later,
      ?_, ?_, rfl⟩)
    · rw [encodeJournalRecord, htake, not_not.1 hsame, hbytes hindex, hbytes hlength, hbytes hsum,
        not_not.1 hknown]
      simp only [append_assoc, take_append_drop]
    · rw [length_encodeJournalRecord, htake]
      exact hlater

/-- What a replay returns is what the bytes before its warning encode. -/
theorem encodeJournal_of_replayFrom {replay : JournalReplay} (hrounds : bytes.length ≤ rounds)
    (hreplay : replayFrom rounds cursor bytes lastIndex = .ok replay) :
    replay.warning = none ∧ encodeJournal replay.records = bytes ∨
      ∃ length, replay.warning = some (.truncatedTail (cursor + length)) ∧
        encodeJournal replay.records = bytes.take length := by
  induction rounds generalizing cursor bytes lastIndex replay with
  | zero =>
    cases hreplay
    exact .inl ⟨rfl, (length_eq_zero_iff.1 (Nat.le_zero.1 hrounds)).symm⟩
  | succ _ ih =>
  obtain ⟨rfl, rfl⟩ | rfl | ⟨record, _, _, rfl, hlater, rfl⟩ := replayFrom_cases hreplay
  · exact .inl ⟨rfl, rfl⟩
  · exact .inr ⟨0, rfl, rfl⟩
  have hpos := length_pos_iff.2 (encodeJournalRecord_ne_nil record)
  rw [length_append] at hrounds
  obtain ⟨hnone, hrest⟩ | ⟨length, hwarning, hrest⟩ := ih (by omega) hlater
  · refine .inl ⟨hnone, ?_⟩
    rw [← hrest]
    rfl
  refine .inr ⟨(encodeJournalRecord record).length + length, ?_, ?_⟩
  · rw [← add_assoc]
    exact hwarning
  · rw [take_length_add_append, ← hrest]
    rfl

/-- A journal file: these records, and perhaps the beginning of one more. -/
structure Written (records : List JournalRecord) (file : List UInt8) : Prop where
  order : records.Pairwise fun earlier later => earlier.index < later.index
  fits : ∀ record ∈ records, record.Fits
  bytes : ∃ torn, file = encodeJournal records ++ torn ∧
    (torn = [] ∨ ∃ record : JournalRecord, record.Fits ∧ ∃ rest,
      encodeJournalRecord record = torn ++ rest ∧ rest ≠ [])
  length : file.length < 2 ^ 63

variable {file : List UInt8}

section

variable (hwritten : Written records file)

include hwritten

/-- The replay of a journal file returns its records, and a warning if bytes follow them. -/
theorem Written.replay : replayJournalBytes file = .ok
      { records
        warning := if file = encodeJournal records then none
          else some (.truncatedTail (encodeJournal records).length) } := by
  obtain ⟨_, rfl, htorn⟩ := hwritten.bytes
  rw [replayJournalBytes_journal hwritten.fits hwritten.order htorn hwritten.length]
  simp

theorem Written.repairedFile_eq : repairedFile file = encodeJournal records := by
  have hreplay := hwritten.replay
  obtain ⟨_, hfile, -⟩ := hwritten.bytes
  unfold repairedFile
  rw [hreplay]
  by_cases hclean : file = encodeJournal records
  · rw [if_pos hclean]
    exact hclean
  rw [if_neg hclean]
  dsimp only
  rw [hfile, take_left' rfl]

theorem Written.length_le : (encodeJournal records).length ≤ file.length := by
  obtain ⟨_, rfl, -⟩ := hwritten.bytes
  rw [length_append]
  exact Nat.le_add_right _ _

/-- The file without the beginning of one more record. -/
theorem Written.repaired : Written records (encodeJournal records) where
  __ := hwritten
  bytes := ⟨[], (append_nil _).symm, .inl rfl⟩
  length := hwritten.length_le.trans_lt hwritten.length

end

theorem encodeJournal_concat (records : List JournalRecord) (record : JournalRecord) :
    encodeJournal (records ++ [record]) = encodeJournal records ++ encodeJournalRecord record := by
  simp [encodeJournal]

variable (hwritten : Written records file)

include hwritten

/-- The file after a record was appended in order. -/
theorem Written.append (horder : ∀ earlier ∈ records, earlier.index < record.index)
    (hfits : record.Fits) (hlength : (encodeJournal (records ++ [record])).length < 2 ^ 63) :
    Written (records ++ [record]) (encodeJournal (records ++ [record])) where
  order := pairwise_append.2 ⟨hwritten.order, pairwise_singleton _ _, by
    simpa using horder⟩
  fits := forall_mem_append.2 ⟨hwritten.fits, by simpa using hfits⟩
  bytes := ⟨[], (append_nil _).symm, .inl rfl⟩
  length := hlength

/-- The file after an append that was cut off. -/
theorem Written.tear {cut : Nat} (hfits : record.Fits)
    (hcut : cut < (encodeJournalRecord record).length)
    (hlength : (encodeJournal records ++ (encodeJournalRecord record).take cut).length < 2 ^ 63) :
    Written records (encodeJournal records ++ (encodeJournalRecord record).take cut) where
  __ := hwritten
  bytes := by
    refine ⟨(encodeJournalRecord record).take cut, rfl,
      .inr ⟨record, hfits, (encodeJournalRecord record).drop cut, ?_, ?_⟩⟩
    · rw [take_append_drop]
    · rw [ne_eq, drop_eq_nil_iff]
      omega
  length := hlength

/-- An index is in order when it is above that of the last record. -/
theorem Written.last_lt_iff {index : Nat} :
    records.getLast?.all (·.index < index) = true ↔
      ∀ record ∈ records, record.index < index := by
  cases hlast : records.getLast? with
  | none => simp [getLast?_eq_none_iff.1 hlast]
  | some last =>
  obtain ⟨_, rfl⟩ := getLast?_eq_some_iff.1 hlast
  have horder := (pairwise_append.1 hwritten.order).2.2
  simp only [Option.all_some, decide_eq_true_eq, mem_append, mem_singleton]
  constructor
  · rintro hindex record (hrecord | rfl)
    · exact lt_trans (horder record hrecord last (by simp)) hindex
    · exact hindex
  · exact fun hall => hall last (.inr rfl)

omit hwritten

/-- Replay inverts encoding. A prefix of a journal is read as the records that are whole in it, with
a warning unless it ends with the last of them; and what is read from any bytes encodes to the bytes
before the warning. A byte string has fewer than `2 ^ 63` bytes. -/
theorem replay_inverts_encode :
    (∀ (records : List JournalRecord) (bytes : List UInt8), (∀ record ∈ records, record.Fits) →
      records.Pairwise (fun earlier later => earlier.index < later.index) →
      bytes <+: encodeJournal records → bytes.length < 2 ^ 63 →
      let whole := framesWithin encodeJournalRecord bytes.length records
      replayJournalBytes bytes = .ok
        { records := whole
          warning := if bytes = encodeJournal whole then none
            else some (.truncatedTail (encodeJournal whole).length) }) ∧
    ∀ bytes replay, replayJournalBytes bytes = .ok replay →
      encodeJournal replay.records = match replay.warning with
        | none => bytes
        | some (.truncatedTail validPrefixLen) => bytes.take validPrefixLen := by
  refine ⟨fun records bytes hfits horder hbytes hlength => ?_, fun bytes replay hreplay => ?_⟩
  · obtain ⟨torn, htake, htorn⟩ := take_flatMap_frames encodeJournalRecord bytes.length records
    have hpre := framesWithin_isPrefix encodeJournalRecord bytes.length records
    have hwritten : Written (framesWithin encodeJournalRecord bytes.length records) bytes :=
      { order := horder.sublist hpre.sublist
        fits := fun record hrecord => hfits record (hpre.subset hrecord)
        bytes := ⟨torn, (prefix_iff_eq_take.1 hbytes).trans htake, htorn.imp id
          fun ⟨record, hrecord, hrest⟩ => ⟨record, hfits record hrecord, hrest⟩⟩
        length := hlength }
    exact hwritten.replay
  · obtain ⟨hnone, hrest⟩ | ⟨_, hwarning, hrest⟩ := encodeJournal_of_replayFrom le_rfl hreplay
    · rw [hnone]
      exact hrest
    · rw [hwarning, zero_add]
      exact hrest

/-- Two records, the second of them torn. -/
theorem replay_of_torn_pair : replayJournalBytes ((encodeJournal [⟨1, [7]⟩, ⟨2, []⟩]).take 40) =
      .ok { records := [⟨1, [7]⟩], warning := some (.truncatedTail 33) } := by
  have hreplay := replay_inverts_encode.1 [⟨1, [7]⟩, ⟨2, []⟩]
    ((encodeJournal [⟨1, [7]⟩, ⟨2, []⟩]).take 40)
    (by simpa using ⟨⟨by decide, by decide⟩, ⟨by decide, by decide⟩⟩) (by decide)
    ⟨_, take_append_drop _ _⟩ (by decide)
  exact hreplay.trans (by decide +kernel)

end

end Tina.Persistence
