import Tina.Http2.Client.Books

/-!
The flow control of a client connection. What its window holds is what the server has granted and no
DATA frame has taken.
-/

namespace Tina.Http2.Client

open Link List Effect Lib Ledger

variable {l m : Ledger} {n : Nat}

/-- The connection credit that an effect brings or, below zero, takes. -/
def Effect.credit : Effect → Int
  | .credited streamId increment => if streamId = 0 then increment else 0
  | .queued frame _ => if frame.ty = frameData then -frame.payload.length else 0
  | _ => 0

/-- The window is the credit of the history, and is not overdrawn. -/
def Ledger.Funded (l : Ledger) : Prop :=
  l.window = defaultWindow + (l.effects.map credit).sum ∧ 0 ≤ l.window

/-- One act keeps the books: DATA takes from the window what it carries, and no more than is there;
connection credit adds to it; nothing else touches it. -/
theorem Act.funded (hact : Act n l m) (h : l.Funded) : m.Funded := by
  cases hact with
  | note effect hquiet =>
    have hzero : effect.credit = 0 := by
      cases effect with
      | credited id => exact if_neg (of_decide_eq_true hquiet)
      | _ => first | rfl | cases hquiet
    simpa [Funded, hzero] using h
  | control _ _ hcontrol => simpa [Funded, Effect.credit, hcontrol.2] using h
  | opened => simpa [Funded, Effect.credit, headersFrame, frameHeaders, frameData] using h
  | data frame _ hty hroom =>
    have hpaid : (frame.payload.length : Int) ≤ l.window := by
      rcases hroom with hnil | hle
      · exact hnil ▸ h.2
      · exact hle
    simp only [Funded, map_append, sum_append] at h ⊢
    simp [Effect.credit, hty]
    omega
  | credit =>
    simp only [Funded, map_append, sum_append] at h ⊢
    simp [Effect.credit]
    omega
  | _ => exact h

/-- In every run, the connection window is the initial one with all credit that the server has
granted, less the DATA bytes that have been queued on all streams, and it is never overdrawn. The
run may bring any messages, resets and broken frames among them; what the server grants to a single
stream, or with a new initial window, does not count here. -/
theorem connection_window_funded {crates : Crates} {target : Http2Target}
    {limits : Http2ClientLimits} {link : Link}
    (hrun : Run (step crates) (fun _ _ => True) (.initial target limits) link) :
    link.conn.sendWindow = defaultWindow + (link.history.map credit).sum ∧
      0 ≤ link.conn.sendWindow := by
  have hlaw := law_of_run (P := Ledger.Funded) (fun _ _ _ h => h) Act.funded
    ⟨rfl, (by decide : 0 ≤ defaultWindow)⟩ hrun
  simpa [Funded, ledger, Turn.ledger] using hlaw

/-- The server grants five bytes after a body of three has gone out. -/
theorem connection_window_funded_of_upload : ∃ link : Link,
    link.conn.sendWindow = defaultWindow + 2 ∧ (link.history.map credit).sum = 5 - 3 := by
  obtain ⟨link, hrun, hgrant⟩ := exists_run (step asciiCrates) (fun _ _ => True)
    (.initial (.h2c []) .default)
    [.start, .connected (some 0), .call (.submit ⟨"POST".toList, "/".toList, [], [1, 2, 3]⟩),
      .read (some (windowUpdateFrame 0 5).encode)]
    (·.conn.sendWindow = defaultWindow + 2) (by decide +kernel)
  have hwindow := of_decide_eq_true hgrant
  have hfunded := (connection_window_funded hrun).1
  exact ⟨link, hwindow, by omega⟩

end Tina.Http2.Client
