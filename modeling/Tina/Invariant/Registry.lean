import Tina.Invariant.Acts

/-!
The registry: isolate ids are never used twice, and the index of an id is the position of
its entry.
-/

namespace Tina

open List Option

variable {h : Host} {s t : Runtime h} {kind : Kind}

/-- Who is registered, in registration order. -/
def Runtime.keys (s : Runtime h) : List (IsolateId × AddressGeneration) :=
  s.entries.map fun entry => (entry.id, entry.generation)

open Tina.Runtime

structure Registry (s : Runtime h) : Prop where
  nodup : (s.keys.map Prod.fst).Nodup
  indexed : ∀ id index, s.entryIndexes id = some index ↔
    ∃ generation, s.keys[index]? = some (id, generation)
  below : ∀ key ∈ s.keys, key.1 < s.nextIsolateId ∧ key.2 = 0

open Registry

namespace Registry

variable {entry : RegisteredEntry h} {index : Nat}

section

variable (hs : Registry s) {entry other : RegisteredEntry h}

include hs

theorem frame (hkeys : t.keys = s.keys) (hindexes : t.entryIndexes = s.entryIndexes)
    (hnext : t.nextIsolateId = s.nextIsolateId) :
    Registry t where
  nodup := hkeys ▸ hs.nodup
  indexed := by
    intro id index
    rw [hindexes, hkeys]
    exact hs.indexed id index
  below := by
    rw [hkeys, hnext]
    exact hs.below

theorem entry_below (hentry : entry ∈ s.entries) : entry.id < s.nextIsolateId :=
  (hs.below _ (mem_map_of_mem hentry)).1

theorem generation_eq (hentry : entry ∈ s.entries) : entry.generation = 0 :=
  (hs.below _ (mem_map_of_mem hentry)).2

theorem entryIndexes_eq_some {id : IsolateId} :
    s.entryIndexes id = some index ↔ ∃ entry, s.entries[index]? = some entry ∧ entry.id = id := by
  rw [hs.indexed]
  simp only [Runtime.keys, getElem?_map, map_eq_some_iff, Prod.mk.injEq]
  constructor
  · rintro ⟨generation, entry, hentry, hid, -⟩
    exact ⟨entry, hentry, hid⟩
  · rintro ⟨entry, hentry, hid⟩
    exact ⟨entry.generation, entry, hentry, hid, rfl⟩

/-- Two positions with the same id are one position. -/
theorem entry_unique {i j : Nat} (hentry : s.entries[i]? = some entry)
    (hother : s.entries[j]? = some other) (hid : entry.id = other.id) : i = j := by
  have hi := hs.entryIndexes_eq_some.2 ⟨entry, hentry, rfl⟩
  have hj := hs.entryIndexes_eq_some.2 ⟨other, hother, rfl⟩
  rw [hid] at hi
  exact some.inj (hi.symm.trans hj)

theorem eq_of_mem_of_id (hentry : entry ∈ s.entries) (hother : other ∈ s.entries)
    (hid : entry.id = other.id) :
    entry = other := by
  obtain ⟨i, hi⟩ := mem_iff_getElem?.1 hentry
  obtain ⟨j, hj⟩ := mem_iff_getElem?.1 hother
  obtain rfl := hs.entry_unique hi hj hid
  exact some.inj (hi.symm.trans hj)

theorem nextIsolateId_not_mem {generation : AddressGeneration} :
    s.keys[index]? ≠ some (s.nextIsolateId, generation) := by
  intro hget
  exact Nat.lt_irrefl _ (hs.below _ (mem_of_getElem? hget)).1

end

theorem keys_register (hid : entry.id = s.nextIsolateId) (hgeneration : entry.generation = 0) :
    (s.register entry).keys = s.keys ++ [(s.nextIsolateId, 0)] := by
  simp [Runtime.keys, register, hid, hgeneration]

theorem register (hs : Registry s) (hid : entry.id = s.nextIsolateId)
    (hgeneration : entry.generation = 0) :
    Registry (s.register entry) := by
  have hkeys := keys_register hid hgeneration
  have hlength : s.keys.length = s.entries.length := by simp [Runtime.keys]
  refine ⟨?_, ?_, ?_⟩
  · rw [hkeys, map_append, nodup_append]
    refine ⟨hs.nodup, by simp, ?_⟩
    rintro a ha b hb rfl
    obtain ⟨key, hkey, rfl⟩ := mem_map.1 ha
    simp only [map_cons, map_nil, mem_singleton] at hb
    exact Nat.lt_irrefl _ (hb ▸ (hs.below key hkey).1)
  · intro id index
    rw [hkeys, getElem?_append]
    simp only [Runtime.register]
    by_cases hsame : id = s.nextIsolateId
    · subst hsame
      rw [if_pos rfl]
      by_cases hlt : index < s.keys.length
      · simp only [if_pos hlt, hs.nextIsolateId_not_mem, exists_false, iff_false]
        rintro ⟨⟩
        omega
      rw [if_neg hlt]
      constructor
      · rintro ⟨⟩
        exact ⟨0, by simp [hlength]⟩
      rintro ⟨generation, hget⟩
      have hbound := Lib.lt_of_getElem? hget
      simp only [length_singleton] at hbound
      congr 1
      omega
    · rw [if_neg hsame, hs.indexed]
      by_cases hlt : index < s.keys.length
      · rw [if_pos hlt]
      rw [if_neg hlt]
      have hnone : s.keys[index]? = none := getElem?_eq_none (by omega)
      constructor
      · rintro ⟨generation, hget⟩
        simp [hnone] at hget
      rintro ⟨_, hget⟩
      have hmem := mem_of_getElem? hget
      simp only [mem_singleton, Prod.mk.injEq] at hmem
      exact absurd hmem.1 hsame
  · intro key hkey
    rw [hkeys, mem_append, mem_singleton] at hkey
    rcases hkey with hkey | rfl
    · exact ⟨Nat.lt_succ_of_lt (hs.below key hkey).1, (hs.below key hkey).2⟩
    · exact ⟨Nat.lt_succ_self _, rfl⟩

theorem keys_putEntry {entry' : RegisteredEntry h} (hentry : s.entries[index]? = some entry)
    (hid : entry'.id = entry.id) (hgeneration : entry'.generation = entry.generation) :
    (s.putEntry index entry').keys = s.keys :=
  Lib.map_set_of_eq _ hentry (by rw [hid, hgeneration])

theorem mark (hs : Registry s) (path : StopPath) (hentry : s.entries[index]? = some entry) :
    Registry (s.mark index entry path) :=
  hs.frame (keys_putEntry (s := s) hentry rfl rfl) rfl rfl

end Registry

theorem EntryStep.key_eq {P : Payload} {known : Option MessageCallContext → Prop}
    {entry entry' : RegisteredEntry P} {happenings : List (Happening P)}
    (hstep : EntryStep known entry entry' happenings) :
    entry'.id = entry.id ∧ entry'.generation = entry.generation := by
  cases hstep with
  | quiet hid hgeneration => exact ⟨hid, hgeneration⟩
  | accept | park | unpark | receive => exact ⟨rfl, rfl⟩

theorem Runtime.Settle.keys_eq {index : Nat} (hsettle : Settle index s t) :
    t.keys = s.keys ∧ t.entryIndexes = s.entryIndexes ∧ t.nextIsolateId = s.nextIsolateId := by
  cases hsettle with
  | unreserved => exact ⟨rfl, rfl, rfl⟩
  | released _ _ _ hparent | delivered _ _ _ _ hparent =>
    exact ⟨keys_putEntry hparent rfl rfl, rfl, rfl⟩

/-- Only registration and collection change who is registered. -/
theorem Act.keys_eq (hact : Act kind s t) (hregister : kind ≠ .register)
    (hcollect : kind ≠ .collect) :
    t.keys = s.keys ∧ t.entryIndexes = s.entryIndexes ∧ t.nextIsolateId = s.nextIsolateId := by
  cases hact with
  | entry hentry hstep =>
    exact ⟨keys_putEntry hentry hstep.key_eq.1 hstep.key_eq.2, rfl, rfl⟩
  | openedLocally _ _ _ _ hentry =>
    exact ⟨keys_putEntry hentry rfl rfl, rfl, rfl⟩
  | observed _ _ _ _ _ _ _ hparent | restartedObserved _ _ _ _ _ _ _ _ _ _ hparent =>
    exact ⟨keys_putEntry hparent rfl rfl, rfl, rfl⟩
  | settled hsettle => exact hsettle.keys_eq
  | stopped path hentry _ _ hsettle =>
    have hmark : (s.mark _ _ path).keys = s.keys := keys_putEntry (s := s) hentry rfl rfl
    rcases hsettle with ⟨rfl, -⟩ | ⟨_, _, -, -, -, hsettle⟩
    · exact ⟨hmark, rfl, rfl⟩
    · exact ⟨hsettle.keys_eq.1.trans hmark, hsettle.keys_eq.2⟩
  | registered | skipped => exact absurd rfl hregister
  | collected => exact absurd rfl hcollect
  | _ => exact ⟨rfl, rfl, rfl⟩

theorem Registry.collect (hs : Registry s) {kept : List (RegisteredEntry h)}
    {indexes : IsolateId → Option Nat} {flag : Bool} {p : RegisteredEntry h → Bool}
    (hkept : kept.Perm (s.entries.filter p))
    (hindexes : ∀ id index, indexes id = some index ↔
      ∃ entry, kept[index]? = some entry ∧ entry.id = id) :
    Registry { s with entries := kept, entryIndexes := indexes, hasStoppedEntries := flag } := by
  refine ⟨?_, ?_, ?_⟩
  · have hperm := (hkept.map fun entry => (entry.id, entry.generation)).map Prod.fst
    refine hperm.nodup_iff.2 (hs.nodup.sublist ?_)
    exact (filter_sublist.map _).map _
  · intro id index
    rw [hindexes]
    simp only [Runtime.keys, getElem?_map, map_eq_some_iff, Prod.mk.injEq]
    constructor
    · rintro ⟨entry, hentry, hid⟩
      exact ⟨entry.generation, entry, hentry, hid, rfl⟩
    · rintro ⟨_, entry, hentry, hid, -⟩
      exact ⟨entry, hentry, hid⟩
  · intro key hkey
    obtain ⟨_, hentry, rfl⟩ := mem_map.1 hkey
    exact hs.below _ (mem_map_of_mem (mem_filter.1 (hkept.mem_iff.1 hentry)).1)

theorem Act.keeps_registry (hact : Act kind s t) (hs : Registry s) : Registry t := by
  by_cases hkind : kind = .register ∨ kind = .collect
  · cases hact with
    | registered _ _ hid hgeneration => exact hs.register hid hgeneration
    | skipped =>
      refine ⟨hs.nodup, hs.indexed, fun key hkey => ?_⟩
      exact ⟨Nat.lt_succ_of_lt (hs.below key hkey).1, (hs.below key hkey).2⟩
    | collected _ _ _ hkept hindexes => exact hs.collect hkept hindexes
    | _ => simp at hkind
  · obtain ⟨hregister, hcollect⟩ := not_or.1 hkind
    obtain ⟨hkeys, hindexes, hnext⟩ := hact.keys_eq hregister hcollect
    exact hs.frame hkeys hindexes hnext

end Tina
