import Tina.Rpc.ClientTurns

/-!
The requests that a client has taken up, the frames that it has received and the results that it has
sent. A request is in flight without a result, or out of the map with one.
-/

namespace Tina.Rpc.Client

open List AList

variable {A : Type}

/-- Requests are told apart by the number on the ticket that stands for the address. -/
structure Ticket (A : Type) where
  number : Nat
  address : A

/-- A request, the client that took it up, and how many frames had been received by then. -/
structure Card (A : Type) where
  request : ClientRequest (Ticket A)
  client : Client (Ticket A)
  since : Nat

open Card

/-- A result that was sent, and how many frames had been received by then. -/
structure Answer (A : Type) where
  notice : Notice (Ticket A)
  heard : Nat

namespace Card

def number (card : Card A) : Nat :=
  card.request.replyTo.number

def entry (card : Card A) : InFlight (Ticket A) :=
  ⟨card.request.correlator, card.request.replyTo⟩

def requestId (card : Card A) : Option UInt64 :=
  card.client.allocateRequestId.2

def refusal (card : Card A) : Option ClientResult :=
  card.client.refusal card.request

/-- The first frame for the request that came after it was taken up. -/
def first (card : Card A) (frames : List Frame) : Option Frame :=
  (frames.drop card.since).find? (some ·.requestId = card.requestId)

end Card

def answersTo (answers : List (Answer A)) (number : Nat) : List (Answer A) :=
  answers.filter (·.notice.replyTo.number = number)

/-- The result that is due to a request. -/
inductive Due (frames : List Frame) (fired : List UInt64) (closed : Option ClientResult)
    (card : Card A) (answer : Answer A) : Prop
  | refused (hrefusal : card.refusal = some answer.notice.result)
  | served (frame : Frame) (hadmitted : card.refusal = none)
      (hfirst : card.first frames = some frame)
      (hresult : answer.notice.result = serverResult frame)
  | expired (requestId : UInt64) (hadmitted : card.refusal = none)
      (hheard : answer.heard ≤ frames.length)
      (hfirst : card.first (frames.take answer.heard) = none)
      (hid : card.requestId = some requestId) (hfired : requestId ∈ fired)
      (hresult : answer.notice.result = .timeout)
  | closed (hadmitted : card.refusal = none)
      (hheard : answer.heard ≤ frames.length)
      (hfirst : card.first (frames.take answer.heard) = none)
      (hresult : closed = some answer.notice.result)

/-- A request that waits for its result. -/
structure Waits (frames : List Frame) (inFlight : AList fun _ : UInt64 => InFlight (Ticket A))
    (answers : List (Answer A)) (card : Card A) (requestId : UInt64) : Prop where
  unanswered : answersTo answers card.number = []
  admitted : card.refusal = none
  id : card.requestId = some requestId
  unheard : card.first frames = none
  held : inFlight.lookup requestId = some card.entry

/-- A request that has its result. -/
structure Settled (frames : List Frame) (inFlight : AList fun _ : UInt64 => InFlight (Ticket A))
    (answers : List (Answer A)) (fired : List UInt64) (closed : Option ClientResult)
    (card : Card A) (answer : Answer A) : Prop where
  once : answersTo answers card.number = [answer]
  replyTo : answer.notice.replyTo = card.request.replyTo
  correlator : answer.notice.correlator = card.request.correlator
  due : Due frames fired closed card answer
  free : ∀ requestId, inFlight.lookup requestId ≠ some card.entry

/-- The cards against the map and the results. -/
structure Books (cards : List (Card A)) (frames : List Frame)
    (inFlight : AList fun _ : UInt64 => InFlight (Ticket A)) (answers : List (Answer A))
    (fired : List UInt64) (closed : Option ClientResult) : Prop where
  numbered : ∀ i (card : Card A), cards[i]? = some card → card.number = i
  since : ∀ card ∈ cards, card.since ≤ frames.length
  known : ∀ answer ∈ answers, answer.notice.replyTo.number < cards.length
  held : ∀ requestId entry, inFlight.lookup requestId = some entry →
    ∃ card ∈ cards, card.entry = entry ∧ Waits frames inFlight answers card requestId
  standing : ∀ card ∈ cards, (∃ requestId, Waits frames inFlight answers card requestId) ∨
    ∃ answer, Settled frames inFlight answers fired closed card answer

variable {card card' : Card A}

section

variable {frames more : List Frame} {answer : Answer A}
  {answers : List (Answer A)} {fired : List UInt64} {closed : Option ClientResult}
  {inFlight : AList fun _ : UInt64 => InFlight (Ticket A)} {cards : List (Card A)}

theorem answersTo_append (answers more : List (Answer A)) (number : Nat) :
    answersTo (answers ++ more) number = answersTo answers number ++ answersTo more number :=
  filter_append _ _

theorem lookup_erase_eq_some {requestId other : UInt64} {entry : InFlight (Ticket A)}
    (h : (inFlight.erase requestId).lookup other = some entry) :
    other ≠ requestId ∧ inFlight.lookup other = some entry := by
  have hne : other ≠ requestId := by
    rintro rfl
    rw [lookup_erase] at h
    cases h
  rw [lookup_erase_ne hne] at h
  exact ⟨hne, h⟩

/-- What came first stays first. -/
theorem Card.first_append_of_some {frame : Frame} (h : card.first frames = some frame)
    (more : List Frame) : card.first (frames ++ more) = some frame := by
  unfold first at h ⊢
  by_cases hle : card.since ≤ frames.length
  · rw [drop_append_of_le_length hle, find?_append, h]
    rfl
  · rw [drop_eq_nil_of_le (by omega)] at h
    cases h

theorem Card.first_append_of_none (hsince : card.since ≤ frames.length)
    (h : card.first frames = none) (frame : Frame) :
    card.first (frames ++ [frame]) = if some frame.requestId = card.requestId then some frame
      else none := by
  unfold first at h ⊢
  rw [drop_append_of_le_length hsince, find?_append, h, Option.none_or, find?_singleton]
  simp only [decide_eq_true_eq]

theorem Due.mono (h : Due frames fired closed card answer) (more : List Frame)
    (later : List UInt64) : Due (frames ++ more) (fired ++ later) closed card answer := by
  cases h with
  | refused hrefusal => exact .refused hrefusal
  | served frame hadmitted hfirst hresult =>
    exact .served frame hadmitted (first_append_of_some hfirst more) hresult
  | expired requestId hadmitted hheard _ hid hfired hresult =>
    refine .expired requestId hadmitted ?_ ?_ hid (mem_append_left _ hfired) hresult
    · rw [length_append]
      omega
    · rwa [take_append_of_le_length hheard]
  | closed hadmitted hheard _ hresult =>
  refine .closed hadmitted ?_ ?_ hresult
  · rw [length_append]
    omega
  · rwa [take_append_of_le_length hheard]

theorem Due.shut (h : Due frames fired none card answer) (reason : ClientResult) :
    Due frames fired (some reason) card answer := by
  cases h with
  | refused hrefusal => exact .refused hrefusal
  | served frame hadmitted hfirst hresult => exact .served frame hadmitted hfirst hresult
  | expired requestId hadmitted hheard hfirst hid hfired hresult =>
    exact .expired requestId hadmitted hheard hfirst hid hfired hresult
  | closed _ _ _ hresult => cases hresult

end

namespace Books

variable {frames : List Frame} {answer : Answer A}
  {answers : List (Answer A)} {fired : List UInt64} {closed : Option ClientResult}
  {inFlight : AList fun _ : UInt64 => InFlight (Ticket A)} {cards : List (Card A)}
  {requestId : UInt64} {entry : InFlight (Ticket A)}

section

variable (h : Books cards frames inFlight answers fired closed)

include h

theorem eq_of_number (hcard : card ∈ cards)
    (hcard' : card' ∈ cards) (hnumber : card.number = card'.number) : card = card' := by
  obtain ⟨i, hi⟩ := mem_iff_getElem?.1 hcard
  obtain ⟨j, hj⟩ := mem_iff_getElem?.1 hcard'
  have hij : i = j := by rw [← h.numbered i card hi, ← h.numbered j card' hj, hnumber]
  subst hij
  exact Option.some.inj (hi.symm.trans hj)

theorem eq_of_entry (hcard : card ∈ cards)
    (hcard' : card' ∈ cards) (hentry : card.entry = card'.entry) : card = card' :=
  h.eq_of_number hcard hcard' (congrArg (·.replyTo.number) hentry)

/-- Frames come in that no waiting request is waiting for, and timers fire. -/
theorem extend (more : List Frame) (later : List UInt64) (hunheard : ∀ card ∈ cards, ∀ requestId,
      Waits frames inFlight answers card requestId → card.first (frames ++ more) = none) :
    Books cards (frames ++ more) inFlight answers (fired ++ later) closed where
  __ := h
  since := fun card hcard => by
    have := h.since card hcard
    rw [length_append]
    omega
  held := fun requestId entry hlookup => by
    obtain ⟨card, hcard, hentry, hwaits⟩ := h.held requestId entry hlookup
    exact ⟨card, hcard, hentry, { hwaits with unheard := hunheard card hcard requestId hwaits }⟩
  standing := fun card hcard => by
    refine (h.standing card hcard).imp ?_ ?_
    · rintro ⟨requestId, hwaits⟩
      exact ⟨requestId, { hwaits with unheard := hunheard card hcard requestId hwaits }⟩
    · rintro ⟨answer, hsettled⟩
      exact ⟨answer, { hsettled with due := hsettled.due.mono more later }⟩

end

/-- The client closes before anything that was sent because of it. -/
theorem shut (h : Books cards frames inFlight answers fired none) (reason : ClientResult) :
    Books cards frames inFlight answers fired (some reason) :=
  { h with
    standing := fun card hcard => (h.standing card hcard).imp_right fun ⟨answer, hsettled⟩ =>
      ⟨answer, { hsettled with due := hsettled.due.shut reason }⟩ }

section

variable (h : Books cards frames inFlight answers fired closed) (more : List Frame)

include h more

/-- A request in flight gets its result. -/
theorem settle (later : List UInt64) (answer : Answer A)
    (hlookup : inFlight.lookup requestId = some entry)
    (hreply : answer.notice.replyTo = entry.replyTo)
    (hcorrelator : answer.notice.correlator = entry.correlator)
    (hdue : ∀ card ∈ cards, Waits frames inFlight answers card requestId →
      Due (frames ++ more) (fired ++ later) closed card answer)
    (hunheard : ∀ card ∈ cards, ∀ other, other ≠ requestId →
      Waits frames inFlight answers card other → card.first (frames ++ more) = none) :
    Books cards (frames ++ more) (inFlight.erase requestId) (answers ++ [answer]) (fired ++ later)
      closed := by
  obtain ⟨owner, howner, hentry, hwaits⟩ := h.held requestId entry hlookup
  have hanswer : answer.notice.replyTo.number = owner.number := by rw [hreply, ← hentry]; rfl
  -- Every other request keeps its results, and its place in the map.
  have hothers : ∀ card ∈ cards, card ≠ owner →
      answersTo (answers ++ [answer]) card.number = answersTo answers card.number := by
    intro card hcard hne
    have hnone : answersTo [answer] card.number = [] := by
      refine filter_eq_nil_iff.2 fun other hother => ?_
      rw [mem_singleton.1 hother, decide_eq_true_eq, hanswer]
      exact fun heq => hne (h.eq_of_number hcard howner heq.symm)
    rw [answersTo_append, hnone, append_nil]
  have hkeeps : ∀ card ∈ cards, ∀ other, other ≠ requestId →
      Waits frames inFlight answers card other →
      Waits (frames ++ more) (inFlight.erase requestId) (answers ++ [answer]) card other := by
    intro card hcard other hother hwaits'
    refine ⟨?_, hwaits'.admitted, hwaits'.id, hunheard card hcard other hother hwaits', ?_⟩
    · rw [hothers card hcard, hwaits'.unanswered]
      rintro rfl
      exact hother (Option.some.inj (hwaits'.id.symm.trans hwaits.id))
    · rw [lookup_erase_ne hother, hwaits'.held]
  refine ⟨h.numbered, fun card hcard => ?_, fun other hother => ?_, fun other entry' hlookup' => ?_,
    fun card hcard => ?_⟩
  · have := h.since card hcard
    rw [length_append]
    omega
  · rcases mem_append.1 hother with hbefore | hnew
    · exact h.known other hbefore
    obtain ⟨i, hi⟩ := mem_iff_getElem?.1 howner
    rw [mem_singleton.1 hnew, hanswer, h.numbered i owner hi]
    exact Lib.lt_of_getElem? hi
  · obtain ⟨hne, hlookup'⟩ := lookup_erase_eq_some hlookup'
    obtain ⟨card, hcard, hcardEntry, hwaits'⟩ := h.held other entry' hlookup'
    exact ⟨card, hcard, hcardEntry, hkeeps card hcard other hne hwaits'⟩
  by_cases hcardEq : card = owner
  · subst hcardEq
    refine .inr ⟨answer, ⟨?_, ?_, ?_, hdue card hcard hwaits, fun other hlookup' => ?_⟩⟩
    · rw [answersTo_append, hwaits.unanswered, answersTo, nil_append]
      exact filter_cons_of_pos (by simpa using hanswer)
    · rw [hreply, ← hentry]
      rfl
    · rw [hcorrelator, ← hentry]
      rfl
    · obtain ⟨hne, hlookup'⟩ := lookup_erase_eq_some hlookup'
      obtain ⟨_, hother', hentry', hwaits'⟩ := h.held other _ hlookup'
      rw [h.eq_of_entry hother' hcard hentry'] at hwaits'
      exact hne (Option.some.inj (hwaits'.id.symm.trans hwaits.id))
  · rcases h.standing card hcard with ⟨other, hwaits'⟩ | ⟨answer', hsettled⟩
    · refine .inl ⟨other, hkeeps card hcard other ?_ hwaits'⟩
      rintro rfl
      exact hcardEq
        (h.eq_of_entry hcard howner (Option.some.inj (hwaits'.held.symm.trans hwaits.held)))
    refine .inr ⟨answer', { hsettled with
      once := by rw [hothers card hcard hcardEq, hsettled.once]
      due := hsettled.due.mono more later
      free := fun other hlookup' =>
        hsettled.free other (lookup_erase_eq_some hlookup').2 }⟩

/-- The frames of a read come in, one after the other. -/
theorem hearAll (heard : Nat) : Books cards (frames ++ more) (serve inFlight more).1
      (answers ++ (serve inFlight more).2.map fun notice => ⟨notice, heard⟩) fired closed := by
  induction more generalizing frames inFlight answers with
  | nil => simpa [serve] using h
  | cons frame _ ih =>
  -- A request that waits under another id does not wait for this frame.
  have hother : ∀ card ∈ cards, ∀ requestId, frame.requestId ≠ requestId →
      Waits frames inFlight answers card requestId → card.first (frames ++ [frame]) = none := by
    intro card hcard requestId hne hwaits
    rw [first_append_of_none (h.since card hcard) hwaits.unheard, hwaits.id, if_neg]
    exact fun heq => hne (Option.some.inj heq)
  cases hlookup : inFlight.lookup frame.requestId with
  | none =>
    rw [serve_cons_of_none hlookup, append_cons]
    apply ih
    have hextend := h.extend [frame] [] fun card hcard requestId hwaits => by
      refine hother card hcard requestId ?_ hwaits
      rintro rfl
      cases hlookup.symm.trans hwaits.held
    rwa [append_nil] at hextend
  | some entry =>
  rw [serve_cons_of_some hlookup, append_cons frames, map_cons, append_cons answers]
  apply ih
  have hsettle := h.settle [frame] [] ⟨noticeOf (serverResult frame) entry, heard⟩ hlookup rfl rfl
    (fun card hcard hwaits => ?_) fun card hcard other hne hwaits =>
      hother card hcard other hne.symm hwaits
  · rwa [append_nil] at hsettle
  · refine .served frame hwaits.admitted ?_ rfl
    rw [first_append_of_none (h.since card hcard) hwaits.unheard, hwaits.id, if_pos rfl]

end

theorem erase_insert (inFlight : AList fun _ : UInt64 => InFlight (Ticket A))
    (hfree : requestId ∉ inFlight) :
    (inFlight.insert requestId entry).erase requestId = inFlight := by
  apply ext
  calc kerase requestId (inFlight.insert requestId entry).entries
    _ = kerase requestId (⟨requestId, entry⟩ :: inFlight.entries) := by
      rw [entries_insert_of_notMem hfree]
    _ = inFlight.entries := kerase_cons_eq rfl

/-- Every request in flight gets the result of the close. -/
theorem closeAll {reason : ClientResult}
    (h : Books cards frames inFlight answers fired (some reason)) :
    Books cards frames ∅
      (answers ++ (noticesOf reason inFlight).map fun notice => ⟨notice, frames.length⟩) fired
      (some reason) := by
  induction inFlight using insertRec generalizing answers with
  | H0 => simpa [noticesOf] using h
  | IH requestId entry inFlight hfree ih =>
  have hsettle := h.settle [] [] ⟨noticeOf reason entry, frames.length⟩ (lookup_insert _) rfl rfl
    (fun card _ hwaits => .closed hwaits.admitted (by simp) (by simpa using hwaits.unheard) rfl)
    fun card _ _ _ hwaits => by simpa using hwaits.unheard
  rw [append_nil, append_nil, erase_insert inFlight hfree] at hsettle
  rw [noticesOf, entries_insert_of_notMem hfree, map_cons, map_cons, append_cons]
  exact ih hsettle

variable (h : Books cards frames inFlight answers fired closed)

include h

theorem number_lt (hcard : card ∈ cards) : card.number < cards.length := by
  obtain ⟨i, hi⟩ := mem_iff_getElem?.1 hcard
  rw [h.numbered i card hi]
  exact Lib.lt_of_getElem? hi

theorem numbered_concat (hnumber : card.number = cards.length) (i : Nat) (card' : Card A)
    (hcard' : (cards ++ [card])[i]? = some card') : card'.number = i := by
  rcases lt_trichotomy i cards.length with hlt | heq | _
  · rw [getElem?_append_left hlt] at hcard'
    exact h.numbered i card' hcard'
  · rw [heq, getElem?_concat_length] at hcard'
    cases hcard'
    rw [hnumber, heq]
  · rw [getElem?_eq_none (by simp; omega)] at hcard'
    cases hcard'

theorem answersTo_length : answersTo answers cards.length = [] := by
  refine filter_eq_nil_iff.2 fun answer hanswer => ?_
  have hlt := h.known answer hanswer
  rw [decide_eq_true_eq]
  omega

variable (hnumber : card.number = cards.length)

include hnumber

/-- One more request. The others are as they were. -/
theorem concat (hsince : card.since ≤ frames.length)
    {inFlight' : AList fun _ : UInt64 => InFlight (Ticket A)} {extra : List (Answer A)}
    (hextra : ∀ answer ∈ extra, answer.notice.replyTo.number = cards.length)
    (hkeep : ∀ requestId entry, inFlight.lookup requestId = some entry →
      inFlight'.lookup requestId = some entry)
    (hnew : ∀ requestId entry, inFlight'.lookup requestId = some entry →
      inFlight.lookup requestId = some entry ∨
        card.entry = entry ∧ Waits frames inFlight' (answers ++ extra) card requestId)
    (hstanding : (∃ requestId, Waits frames inFlight' (answers ++ extra) card requestId) ∨
      ∃ answer, Settled frames inFlight' (answers ++ extra) fired closed card answer) :
    Books (cards ++ [card]) frames inFlight' (answers ++ extra) fired closed := by
  have hsame : ∀ card' ∈ cards,
      answersTo (answers ++ extra) card'.number = answersTo answers card'.number := by
    intro card' hcard'
    have hnone : answersTo extra card'.number = [] := by
      refine filter_eq_nil_iff.2 fun answer hanswer => ?_
      have hlt := h.number_lt hcard'
      rw [decide_eq_true_eq, hextra answer hanswer]
      omega
    rw [answersTo_append, hnone, append_nil]
  have hwaits : ∀ card' ∈ cards, ∀ requestId, Waits frames inFlight answers card' requestId →
      Waits frames inFlight' (answers ++ extra) card' requestId :=
    fun card' hcard' requestId hwaits =>
      { hwaits with
        unanswered := (hsame card' hcard').trans hwaits.unanswered
        held := hkeep requestId _ hwaits.held }
  refine ⟨h.numbered_concat hnumber, Lib.forall_mem_concat h.since hsince, fun answer hanswer => ?_,
    fun requestId entry hlookup => ?_, fun card' hcard' => ?_⟩
  · rw [length_append, length_singleton]
    rcases mem_append.1 hanswer with hold | hlast
    · have := h.known answer hold
      omega
    · rw [hextra answer hlast]
      omega
  · rcases hnew requestId entry hlookup with hold | ⟨hentry, hlast⟩
    · obtain ⟨card', hcard', hentry, hheld⟩ := h.held requestId entry hold
      exact ⟨card', mem_append_left _ hcard', hentry, hwaits card' hcard' requestId hheld⟩
    · exact ⟨card, mem_append_right _ mem_cons_self, hentry, hlast⟩
  rcases mem_append.1 hcard' with hold | hlast
  · refine (h.standing card' hold).imp ?_ ?_
    · rintro ⟨requestId, hheld⟩
      exact ⟨requestId, hwaits card' hold requestId hheld⟩
    rintro ⟨answer, hsettled⟩
    refine ⟨answer, { hsettled with
      once := (hsame card' hold).trans hsettled.once
      free := fun requestId hlookup => ?_ }⟩
    rcases hnew requestId _ hlookup with hheld | ⟨hentry, -⟩
    · exact hsettled.free requestId hheld
    have hlt := h.number_lt hold
    have heq : card.number = card'.number := congrArg (·.replyTo.number) hentry
    omega
  · rwa [mem_singleton.1 hlast]

/-- A request is refused. -/
theorem refuse (hsince : card.since ≤ frames.length) (heard : Nat)
    {result : ClientResult} (hrefusal : card.refusal = some result) :
    Books (cards ++ [card]) frames inFlight
      (answers ++ [⟨noticeOf result card.entry, heard⟩]) fired closed := by
  refine h.concat hnumber hsince (fun answer hanswer => ?_) (fun _ _ => id) (fun _ _ => .inl)
    (.inr ⟨⟨noticeOf result card.entry, heard⟩, ?_, rfl, rfl, .refused hrefusal, ?_⟩)
  · rw [mem_singleton.1 hanswer]
    exact hnumber
  · rw [answersTo_append, hnumber, h.answersTo_length, answersTo, nil_append]
    exact filter_cons_of_pos (decide_eq_true hnumber)
  intro requestId hlookup
  obtain ⟨card', hcard', hentry, -⟩ := h.held requestId _ hlookup
  have hlt := h.number_lt hcard'
  have heq : card'.number = card.number := congrArg (·.replyTo.number) hentry
  omega

/-- A request goes into the map. -/
theorem openRequest (hsince : card.since = frames.length) (hrefusal : card.refusal = none)
    (hid : card.requestId = some requestId) (hfree : requestId ∉ inFlight) :
    Books (cards ++ [card]) frames (inFlight.insert requestId card.entry) answers fired closed := by
  have hwaits : Waits frames (inFlight.insert requestId card.entry)
      (answers ++ []) card requestId := by
    refine ⟨?_, hrefusal, hid, ?_, lookup_insert _⟩
    · rw [append_nil, hnumber, h.answersTo_length]
    · rw [first, hsince, drop_length]
      rfl
  have hne : ∀ other entry, inFlight.lookup other = some entry → other ≠ requestId := by
    rintro other entry hlookup rfl
    exact hfree (lookup_isSome.1 (by rw [hlookup]; rfl))
  rw [← append_nil answers]
  refine h.concat hnumber hsince.le nofun (fun other entry hlookup => ?_)
    (fun other entry hlookup => ?_) (.inl ⟨requestId, hwaits⟩)
  · rwa [lookup_insert_ne (hne other entry hlookup)]
  by_cases hother : other = requestId
  · subst hother
    rw [lookup_insert] at hlookup
    exact .inr ⟨Option.some.inj hlookup, hwaits⟩
  · rw [lookup_insert_ne hother] at hlookup
    exact .inl hlookup

end Books

end Tina.Rpc.Client
