import Tina.Runtime.Scripted
import Tina.Spec.Reachable

/-!
The order of a round. Isolates get their ids in the order in which they are registered, and a
round visits the entries by position. A collection fills a gap with the last entry, so that the
positions need not be in the order of the ids afterwards.
-/

namespace Tina

open Lib List

variable {h : Host} {s t : Runtime h} {kind : Kind}

/-- While the flag is down, no entry is stopped. -/
def Flagged (s : Runtime h) : Prop :=
  s.hasStoppedEntries = false → ∀ entry ∈ s.entries, entry.stopped = false

theorem Flagged.putEntry {index : Nat} {entry entry' : RegisteredEntry h}
    (hs : Flagged s) (hentry : s.entries[index]? = some entry)
    (hstopped : entry'.stopped = entry.stopped) : Flagged (s.putEntry index entry') := by
  intro hflag
  refine forall_mem_set (hs hflag) ?_
  rw [hstopped]
  exact hs hflag entry (mem_of_getElem? hentry)

theorem Act.keeps_flagged (hact : Act kind s t) (hkind : kind ≠ .collect) (hs : Flagged s) :
    Flagged t := by
  cases hact with
  | entry hentry hstep =>
    refine hs.putEntry hentry ?_
    cases hstep with
    | quiet _ _ hstopped => exact hstopped
    | accept | park | unpark | receive => rfl
  | openedLocally _ _ _ _ hentry => exact hs.putEntry hentry rfl
  | observed _ _ _ _ _ _ _ hparent | restartedObserved _ _ _ _ _ _ _ _ _ _ hparent =>
    exact hs.putEntry hparent rfl
  | settled hsettle =>
    cases hsettle with
    | unreserved => exact hs
    | released _ _ _ hparent | delivered _ _ _ _ hparent => exact hs.putEntry hparent rfl
  | stopped _ _ _ _ hsettle =>
    -- The stop raises the flag.
    rcases hsettle with ⟨rfl, -⟩ | ⟨_, _, -, -, -, hsettle⟩
    · exact nofun
    · cases hsettle <;> exact nofun
  | registered _ _ _ _ hstopped => exact fun hflag => forall_mem_concat (hs hflag) hstopped
  | collected => exact absurd rfl hkind
  | _ => exact hs

theorem Steps.keeps_flagged (hsteps : Steps (· ≠ .collect) s t) (hs : Consistent s)
    (hflagged : Flagged s) : Flagged t :=
  hsteps.induct hs (fun _ _ _ hkind hact _ => hact.keeps_flagged hkind) hflagged

/-- A collection takes out what it may and nothing else, and derives the flag again. -/
theorem gcStoppedEntries_spec (hs : Flagged s) :
    Ensures (gcStoppedEntries : RuntimeM h Unit) s fun _ t => Flagged t ∧
      t.entries.Perm (s.entries.filter (!s.canGcStoppedEntry ·)) := by
  refine (Ensures.modify_iff _).2 ?_
  split
  · refine ⟨fun hflag entry hentry => ?_, takeWhere_rest s.canGcStoppedEntry s.entries⟩
    simpa using any_eq_false.1 hflag entry hentry
  rename_i hflag
  have hlive := hs (Bool.not_eq_true _ ▸ hflag)
  refine ⟨hs, Perm.of_eq (filter_eq_self.2 fun entry hentry => ?_).symm⟩
  simp [Runtime.canGcStoppedEntry, hlive entry hentry]

theorem deliverRound_flagged (hs : Consistent s) (hflagged : Flagged s) :
    Ensures (deliverRound : RuntimeM h Unit) s fun _ t => Flagged t := by
  refine (deliverRound_induct hs (fun s t hs hsteps => ?_)
    (fun s t _ _ hs hturned => ?_) hflagged).mono fun _ _ hpost => hpost.2
  · exact (hsteps.weaken fun _ hkind => hkind.2).keeps_flagged hs
  · exact (hturned.steps.weaken fun _ hkind => hkind.2.2).keeps_flagged hs

theorem Reachable.flagged (hs : Reachable s) : Flagged s := by
  induction hs with
  | new => rintro - _ ⟨⟩
  | @after s t operation hs hadmissible hrun ih =>
  by_cases hstep : operation = .step
  · subst hstep
    have hround : Ensures (stepWithRemote : RuntimeM h Unit) s fun _ t => Flagged t := by
      rw [stepWithRemote_eq]
      refine Ensures.bind (deliverRound_flagged hs.consistent ih) ?_
      exact fun _ u hu => (gcStoppedEntries_spec hu).mono fun _ _ hpost => hpost.1
    exact hround () t hrun
  · obtain ⟨hsteps, -⟩ := Operation.run_quiet hs.consistent hadmissible hstep _ _ hrun
    exact (hsteps.weaken fun _ hkind => hkind.2).keeps_flagged hs.consistent ih

section

variable {index : Nat}

/-- Who is registered, by position. -/
def Runtime.ids (s : Runtime h) : List IsolateId :=
  s.entries.map (·.id)

/-- The entries stand in the order in which they were registered. -/
def Runtime.InOrder (s : Runtime h) : Prop :=
  s.ids.Pairwise (· < ·)

/-- The isolates whose handlers the turns at `indexes` run, in the order in which they do. -/
def visits : List Nat → Runtime h → List IsolateId
  | [], _ => []
  | index :: rest, s => (s.visitAt index).toList ++ match runTurn index s with
    | .ok (_, t) => visits rest t
    | .error _ => []

/-- The isolates that the next round visits. -/
def Runtime.visited (s : Runtime h) : List IsolateId :=
  match openRound s with
  | .ok (_, t) => visits (List.range t.roundMessages.length) t
  | .error _ => []

open Tina.Runtime

/-- Later entries come after those that are there, and after them in the order as well. -/
def Grows (s t : Runtime h) : Prop :=
  s.ids <+: t.ids ∧ (s.InOrder → t.InOrder)

theorem Grows.refl (s : Runtime h) : Grows s s :=
  ⟨prefix_rfl, id⟩

theorem Grows.trans {u : Runtime h} (hst : Grows s t) (htu : Grows t u) : Grows s u :=
  ⟨hst.1.trans htu.1, htu.2 ∘ hst.2⟩

theorem Runtime.keys_ids : s.keys.map Prod.fst = s.ids := by
  simp [Runtime.keys, ids]

theorem Act.grows (hact : Act kind s t) (hkind : kind ≠ .collect) (hs : Registry s) :
    Grows s t := by
  by_cases hregister : kind = .register
  · cases hact with
    | registered _ entry hid =>
      have hids : (s.register entry).ids = s.ids ++ [entry.id] := map_append
      refine ⟨hids ▸ prefix_append _ _, fun horder => ?_⟩
      rw [InOrder, hids]
      refine pairwise_concat horder (forall_mem_map.2 fun other hother => ?_)
      exact hid ▸ hs.entry_below hother
    | skipped => exact .refl s
    | _ => cases hregister
  · have hids : t.ids = s.ids := by
      rw [← keys_ids, ← keys_ids, (hact.keys_eq hregister hkind).1]
    exact ⟨hids ▸ prefix_rfl, fun horder => by rwa [InOrder, hids]⟩

theorem Steps.grows (hsteps : Steps (· ≠ .collect) s t) (hs : Consistent s) : Grows s t := by
  refine hsteps.induct (I := Grows s) hs (fun _ u v hkind hact hu hgrown => ?_) (.refl s)
  exact hgrown.trans (hact.grows hkind hu.registry)

/-- A turn runs the handler of the entry it visits, and leaves the entries in their places. -/
theorem runTurn_grows (hs : Consistent s) :
    Ensures (runTurn index : RuntimeM h Unit) s fun _ t =>
      Consistent t ∧ Grows s t ∧ t.ran = s.ran ++ (s.visitAt index).toList := by
  refine (runTurn_spec hs).mono ?_
  rintro _ t ⟨u, hsteps, hran, hend⟩
  have hu := hsteps.consistent hs
  have hgrown := (hsteps.weaken fun _ hkind => hkind.2).grows hs
  rcases hend with rfl | ⟨_, _, hturned⟩
  · exact ⟨hu, hgrown, hran⟩
  refine ⟨hturned.steps.consistent hu, hgrown.trans ?_, ?_⟩
  · exact (hturned.steps.weaken fun _ hkind => hkind.2.2).grows hu
  · rw [hturned.steps.ran_eq (·.2.1 rfl) hu, hran]

theorem getElem?_ids_of_visitAt {id : IsolateId} (hvisit : s.visitAt index = some id) :
    s.ids[index]? = some id := by
  unfold visitAt at hvisit
  split at hvisit
  · cases hvisit
  · obtain ⟨_, hentry, rfl⟩ := Option.map_eq_some_iff.1 hvisit
    simp [ids, (Option.filter_eq_some_iff.1 hentry).1]

/-- The turns at consecutive positions visit at most the entry at each, in that order. -/
theorem visits_sublist (count : Nat) : ∀ (start : Nat) (s : Runtime h), Consistent s →
    ∃ t, Consistent t ∧ Grows s t ∧ (visits (range' start count) s).Sublist (t.ids.drop start) := by
  induction count with
  | zero => exact fun start s hs => ⟨s, hs, .refl s, nil_sublist _⟩
  | succ count ih =>
  intro start s hs
  -- The turn leaves the positions as they are, so the rest of the visits come after it.
  obtain ⟨t, ht, hgrows, hrest⟩ : ∃ t, Consistent t ∧ Grows s t ∧ Sublist
      (match runTurn start s with
        | .ok (_, t) => visits (range' (start + 1) count) t
        | .error _ => []) (t.ids.drop (start + 1)) := by
    cases hrun : runTurn start s with
    | error => exact ⟨s, hs, .refl s, nil_sublist _⟩
    | ok out =>
    obtain ⟨hu, hgrown, -⟩ := runTurn_grows hs out.1 out.2 hrun
    obtain ⟨t, ht, hlater, hrest⟩ := ih (start + 1) out.2 hu
    exact ⟨t, ht, hgrown.trans hlater, hrest⟩
  refine ⟨t, ht, hgrows, ?_⟩
  rw [range'_succ, visits]
  cases hvisit : s.visitAt start with
  | none =>
    rw [← tail_drop] at hrest
    exact hrest.trans (tail_sublist _)
  | some id =>
  obtain ⟨hlt, hget⟩ := List.getElem?_eq_some_iff.1 (getElem?_ids_of_visitAt hvisit)
  have hlater := hgrows.1.getElem hlt
  rw [drop_eq_getElem_cons (Nat.lt_of_lt_of_le hlt hgrows.1.length_le), ← hlater, hget]
  exact hrest.cons_cons id

theorem visited_sublist (hs : Consistent s) :
    ∃ t, Consistent t ∧ Grows s t ∧ s.visited.Sublist t.ids := by
  unfold visited
  cases hrun : openRound s with
  | error => exact ⟨s, hs, .refl s, nil_sublist _⟩
  | ok out =>
  obtain ⟨hsteps, -⟩ := openRound_performs
    (Kind.AllowEffect.of_plain fun _ hkind => hkind.1.1.2.2).toAllowStop hs out.1 out.2 hrun
  obtain ⟨t, ht, hlater, hsublist⟩ := visits_sublist out.2.roundMessages.length 0 out.2
    (hsteps.consistent hs)
  rw [← range_eq_range'] at hsublist
  exact ⟨t, ht, (hsteps.grows hs).trans hlater, hsublist⟩

/-- Turns run the handlers of those they visit, in the order of the visits. -/
theorem forM_runTurn_ran (indexes : List Nat) : ∀ s : Runtime h, Consistent s →
    Ensures (indexes.forM runTurn : RuntimeM h PUnit) s fun _ t =>
      Consistent t ∧ t.ran = s.ran ++ visits indexes s := by
  induction indexes with
  | nil => exact fun s hs => .pure ⟨hs, by simp [visits]⟩
  | cons index rest ih =>
  intro s hs
  refine .bind (fun _ _ hrun => hrun) fun _ t hrun => ?_
  obtain ⟨ht, -, hran⟩ := runTurn_grows hs _ t hrun
  refine (ih t ht).mono fun _ u hpost => ⟨hpost.1, ?_⟩
  rw [hpost.2, hran, visits, hrun, append_assoc]

/-- The handlers that a round runs are those of the isolates it visits, in the order of its visits:
the turns that its history gains are these and no others. -/
theorem stepWithRemote_ran (hs : Consistent s) :
    Ensures (stepWithRemote : RuntimeM h Unit) s fun _ t => t.ran = s.ran ++ s.visited := by
  have hkinds := Kind.allowEffect_plain
  have hkeep : ∀ {x : RuntimeM h PUnit} {t : Runtime h} {Q : PUnit → Runtime h → Prop},
      Performs Kind.Plain x t Q → Consistent t ∧ t.ran = s.ran ++ s.visited →
      Ensures x t fun _ u => Consistent u ∧ u.ran = s.ran ++ s.visited := by
    intro x t Q hx ht
    refine Ensures.mono hx fun _ u hpost => ⟨hpost.1.consistent ht.1, ?_⟩
    rw [hpost.1.ran_eq Kind.not_plain_turn ht.1, ht.2]
  have hround : Ensures (deliverRound : RuntimeM h Unit) s fun _ t =>
      Consistent t ∧ t.ran = s.ran ++ s.visited := by
    refine .bind (fun _ _ hopen => hopen) fun _ t hopen => ?_
    obtain ⟨hsteps, -⟩ := openRound_performs hkinds.toAllowStop hs _ t hopen
    rw [Ensures.get_bind]
    refine .bind (forM_runTurn_ran _ t (hsteps.consistent hs)) fun _ u hu => ?_
    refine .bind (hkeep (.modify (.act (.round [] (by simp)) hkinds.queue)) ⟨hu.1, ?_⟩)
      fun _ v hv => ?_
    · rw [hu.2, hsteps.ran_eq Kind.not_plain_turn hs, visited, hopen]
    · exact hkeep (sweepDroppedDeferredSlots_performs hkinds.call hv.1 hkinds.queue) hv
  rw [stepWithRemote_eq]
  refine .bind hround fun _ t ht => (Ensures.modify_iff _).2 ?_
  split <;> exact ht.2

/-- A collection keeps the order of registration if all that it takes out stands behind what stays.
A gap before an entry that stays is filled with the last one. -/
theorem gcStoppedEntries_inOrder (horder : s.InOrder)
    (hbehind : (s.entries.filter (!s.canGcStoppedEntry ·)) <+: s.entries) :
    Ensures (gcStoppedEntries : RuntimeM h Unit) s fun _ t => t.InOrder := by
  refine (Ensures.modify_iff _).2 ?_
  split
  · change ((takeWhere s.canGcStoppedEntry s.entries).2.map (·.id)).Pairwise _
    rw [takeWhere_of_isPrefix hbehind]
    exact horder.sublist (filter_sublist.map _)
  · exact horder

end

/-- In every reachable state the index maps the ids of the entries to their positions. A round takes
out exactly the stopped entries that nothing refers to, visits no entry twice, and visits them in
the order of registration if they stand in that order when it starts. A removal may break that
order, since the last entry takes the place of the one removed. -/
theorem rounds_keep_registration_order (hs : Reachable s) :
    (∀ id index, s.entryIndexes id = some index ↔
      ∃ entry, s.entries[index]? = some entry ∧ entry.id = id) ∧
    (∀ t u, deliverRound s = .ok (⟨⟩, t) → gcStoppedEntries t = .ok (⟨⟩, u) →
      u.entries.Perm (t.entries.filter (!t.canGcStoppedEntry ·))) ∧
    s.visited.Nodup ∧ (s.InOrder → s.visited.Pairwise (· < ·)) := by
  have hconsistent := hs.consistent
  obtain ⟨t, ht, hgrows, hsublist⟩ := visited_sublist hconsistent
  refine ⟨fun id index => hconsistent.registry.entryIndexes_eq_some, fun t u hround hcollect => ?_,
    ?_, fun horder => (hgrows.2 horder).sublist hsublist⟩
  · have hflagged := deliverRound_flagged hconsistent hs.flagged () t hround
    exact (gcStoppedEntries_spec hflagged () u hcollect).2
  · exact (Runtime.keys_ids ▸ ht.registry.nodup).sublist hsublist

/-- Isolate 1 stops on its first message. -/
def stoppingScript : Script
  | 1, _ => some .stop
  | _, _ => some .noop

/-- Three entries with a message each, before anything was collected. -/
theorem round_of_three_in_order : ∃ s : Runtime stoppingScript.host, s.InOrder ∧
    s.visited = [1, 2, 3] ∧ s.visited.Pairwise (· < ·) := by
  obtain ⟨s, hs, hrun⟩ := stoppingScript.exists_reachable 0
    [.registerWithCapacity 1 4, .registerWithCapacity 2 4, .registerWithCapacity 3 4,
      .trySend (scriptAddress 0 1) 5, .trySend (scriptAddress 0 2) 5,
      .trySend (scriptAddress 0 3) 5]
    (fun s => decide (s.ids.Pairwise (· < ·) ∧ s.visited = [1, 2, 3])) (by decide +kernel)
  obtain ⟨horder, hvisited⟩ := of_decide_eq_true hrun
  exact ⟨s, horder, hvisited, (rounds_keep_registration_order hs).2.2.2 horder⟩

/-- The collection of isolate 1 puts isolate 3 in its place, before isolate 2. -/
theorem later_entry_visited_first : ∃ s : Runtime stoppingScript.host, Reachable s ∧
    s.visited = [3, 2] := by
  obtain ⟨s, hs, hrun⟩ := stoppingScript.exists_reachable 0
    [.registerWithCapacity 1 4, .registerWithCapacity 2 4, .registerWithCapacity 3 4,
      .trySend (scriptAddress 0 1) 5, .step, .trySend (scriptAddress 0 2) 5,
      .trySend (scriptAddress 0 3) 5] (fun s => decide (s.visited = [3, 2])) (by decide +kernel)
  exact ⟨s, hs, of_decide_eq_true hrun⟩

end Tina
