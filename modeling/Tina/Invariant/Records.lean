import Tina.Invariant.Slots

/-!
Where the child records come from. Every record that an act leaves was there before, with
the same parent, ordinal and owner, or is one of the few that acts create.
-/

namespace Tina

variable {h : Host} {s t : Runtime h} {kind : Kind}

/-- The acts that do not touch the child records. -/
def Kind.KeepsRecords : Kind → Bool
  | .own | .host | .restart | .restartHosted | .restartRemote | .settle | .stop | .prune _
  | .reply => false
  | _ => true

theorem Act.childRecords_eq (hact : Act kind s t) (hkind : kind.KeepsRecords = true) :
    t.childRecords = s.childRecords := by
  cases hact with
  | owned | observed | hosted | restarted | restartedObserved | restartedHosted
  | restartedRemotely | unreserved | settled | stopped | pruned | replied | adopted =>
    simp [Kind.KeepsRecords] at hkind
  | _ => rfl

theorem Runtime.Settle.childRecords_eq {index : Nat} (hsettle : Runtime.Settle index s t) :
    ∃ record generation, s.childRecords[index]? = some record ∧
      t.childRecords = s.childRecords.set index (record.settle generation) := by
  cases hsettle with
  | unreserved generation hrecord | released generation hrecord
  | delivered generation _ hrecord => exact ⟨_, generation, hrecord, rfl⟩

theorem ChildRecord.Rebinds.refl {P : Payload} (record : ChildRecord P) : record.Rebinds record :=
  ⟨rfl, rfl, rfl, rfl⟩

/-- A record that an act creates. -/
inductive Created (record : ChildRecord h) : Kind → Prop where
  | owned (howner : record.remoteOwner = none) : Created record .own
  | adopted (howner : record.remoteOwner = none) : Created record .reply
  | hosted (howner : record.remoteOwner ≠ none)
      (hcontinuation : record.terminalContinuation = none) : Created record .host

section

variable {index : Nat} {record before : ChildRecord h} {records : List (ChildRecord h)}

theorem rebinds_of_mem_set {after : ChildRecord h} (hrecord : record ∈ records.set index after)
    (hbefore : records[index]? = some before) (hrebinds : before.Rebinds after) :
    ∃ original ∈ records, original.Rebinds record := by
  rcases List.mem_or_eq_of_mem_set hrecord with hmem | rfl
  · exact ⟨record, hmem, .refl record⟩
  · exact ⟨before, List.mem_of_getElem? hbefore, hrebinds⟩

theorem Runtime.Settle.origin (hsettle : Runtime.Settle index s t)
    (hrecord : record ∈ t.childRecords) : ∃ original ∈ s.childRecords, original.Rebinds record := by
  obtain ⟨_, _, hbefore, hrecords⟩ := hsettle.childRecords_eq
  rw [hrecords] at hrecord
  exact rebinds_of_mem_set hrecord hbefore ⟨rfl, rfl, rfl, rfl⟩

theorem Act.record_origin (hact : Act kind s t) (hrecord : record ∈ t.childRecords) :
    (∃ original ∈ s.childRecords, original.Rebinds record) ∨ Created record kind := by
  have hpushed : ∀ new, t.childRecords = s.childRecords ++ [new] → Created new kind →
      (∃ original ∈ s.childRecords, original.Rebinds record) ∨ Created record kind := by
    intro new hrecords hcreated
    rw [hrecords, List.mem_append, List.mem_singleton] at hrecord
    rcases hrecord with hmem | rfl
    · exact .inl ⟨record, hmem, .refl record⟩
    · exact .inr hcreated
  cases hact with
  | owned new howner | observed new howner => exact hpushed new rfl (.owned howner)
  | hosted new howner _ hcontinuation => exact hpushed new rfl (.hosted howner hcontinuation)
  | adopted new _ _ _ howner => exact hpushed new rfl (.adopted howner)
  | restarted _ hbefore hrebinds | restartedObserved _ hbefore hrebinds
  | restartedHosted _ hbefore hrebinds =>
    exact .inl (rebinds_of_mem_set hrecord hbefore hrebinds)
  | restartedRemotely _ hbefore =>
    exact .inl (rebinds_of_mem_set hrecord hbefore ⟨rfl, rfl, rfl, rfl⟩)
  | settled hsettle => exact .inl (hsettle.origin hrecord)
  | stopped _ _ _ _ hsettle =>
    rcases hsettle with ⟨rfl, -⟩ | ⟨_, _, -, -, -, hsettle⟩
    · exact .inl ⟨record, hrecord, .refl record⟩
    · exact .inl (hsettle.origin hrecord)
  | pruned =>
    obtain ⟨original, horiginal, hparent, -, hordinal, -, howner, hcontinuation, -⟩ :=
      Runtime.mem_prune hrecord
    exact .inl ⟨original, horiginal, hparent, hordinal, howner, hcontinuation⟩
  | _ => exact .inl ⟨record, hrecord, .refl record⟩

end

/-- A record that is held for an owner on another shard observes nothing. -/
def HostedUnobserved (s : Runtime h) : Prop :=
  ∀ record ∈ s.childRecords, record.remoteOwner ≠ none → record.terminalContinuation = none

theorem Act.keeps_hostedUnobserved (hact : Act kind s t) (hs : HostedUnobserved s) :
    HostedUnobserved t := by
  intro record hrecord howner
  rcases hact.record_origin hrecord with ⟨original, horiginal, hrebinds⟩ | hcreated
  · rw [hrebinds.terminalContinuation]
    exact hs original horiginal (hrebinds.remoteOwner ▸ howner)
  cases hcreated with
  | owned hnone | adopted hnone => exact absurd hnone howner
  | hosted _ hcontinuation => exact hcontinuation

end Tina
