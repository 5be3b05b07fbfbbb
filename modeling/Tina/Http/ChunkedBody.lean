import Tina.Http.ChunkedDecoder

/-!
What a chunked body is, as bytes on the wire, and that the decoder reads just that: the bytes it
has consumed are whole chunks and the beginning of one more, whatever pieces it was fed.
-/

namespace Tina.Http

open List Nat Option

/-- A size line and its end: nothing before the end reads as one. -/
structure SizeLine (line : List UInt8) (size : Nat) : Prop where
  first : findCrlf (line ++ CRLF) = some line.length
  parses : parseChunkSizeLine line = .ok size

/-- Chunks with data, one after the other, and the data they carry. -/
inductive Chunks : List UInt8 → List UInt8 → Prop where
  | nil : Chunks [] []
  | concat {wire body line data : List UInt8} (hwire : Chunks wire body)
      (hline : SizeLine line data.length) (hdata : data ≠ []) :
      Chunks (wire ++ (line ++ CRLF ++ data ++ CRLF)) (body ++ data)

/-- A whole chunked body: chunks, a line of size zero and an empty line. -/
def ChunkedBody (wire body : List UInt8) : Prop :=
  ∃ chunks line, Chunks chunks body ∧ SizeLine line 0 ∧ wire = chunks ++ (line ++ CRLF ++ CRLF)

section

variable {input : List UInt8} {i : Nat} {start : List UInt8}

/-- A line of which only the last byte was missing, whatever follows. -/
theorem findCrlf_of_concat_cr {line : List UInt8} (more : List UInt8)
    (hline : findCrlf (line ++ [13]) = none) :
    findCrlf (line ++ CRLF ++ more) = some line.length := by
  induction line with
  | nil => rfl
  | cons _ rest ih =>
  rw [cons_append, findCrlf] at hline
  split at hline
  · cases hline
  rename_i hnot
  have hrest := ih (map_eq_none_iff.1 hline)
  rw [cons_append, cons_append, findCrlf, if_neg, hrest]
  · rfl
  cases rest with
  | nil => simp [CRLF]
  | cons => simpa using hnot

section

variable (hfind : findCrlf input = some i)

include hfind

/-- The first line end stands behind a line. -/
theorem exists_line :
    ∃ line more, input = line ++ CRLF ++ more ∧ line.length = i ∧
      findCrlf (line ++ [13]) = none := by
  induction input generalizing i with
  | nil => cases hfind
  | cons byte _ ih =>
  unfold findCrlf at hfind
  split at hfind
  · rename_i hfound
    cases hfind
    obtain ⟨rfl, hnext⟩ := hfound
    obtain ⟨tail, rfl⟩ := head?_eq_some_iff.1 hnext
    exact ⟨[], tail, rfl, rfl, rfl⟩
  rename_i hnot
  obtain ⟨j, hj, rfl⟩ := map_eq_some_iff.1 hfind
  obtain ⟨line, more, rfl, rfl, hline⟩ := ih hj
  refine ⟨byte :: line, more, rfl, rfl, ?_⟩
  rw [cons_append, findCrlf, if_neg, hline]
  · rfl
  cases line with
  | nil => simp
  | cons => simpa using hnot

theorem findCrlf_lt : i + 2 ≤ input.length ∧ (input.drop i).take 2 = CRLF := by
  obtain ⟨_, _, rfl, rfl, -⟩ := exists_line hfind
  simp [CRLF]

/-- The first line end does not change when bytes follow. -/
theorem findCrlf_append (more : List UInt8) : findCrlf (input ++ more) = some i := by
  obtain ⟨_, rest, rfl, rfl, hline⟩ := exists_line hfind
  rw [append_assoc]
  exact findCrlf_of_concat_cr (rest ++ more) hline

end

/-- The first line end of a line that was read in two pieces. -/
theorem findCrlf_concat (input : List UInt8) (hstart : findCrlf start = none)
    (hlast : start.getLast? ≠ some 13) :
    findCrlf (start ++ input) = (findCrlf input).map (start.length + ·) := by
  induction start with
  | nil => simp
  | cons _ rest ih =>
  unfold findCrlf at hstart
  split at hstart
  · cases hstart
  rename_i hnot
  have hrest := map_eq_none_iff.1 hstart
  rw [cons_append, findCrlf]
  cases rest with
  | nil =>
    rw [getLast?_singleton] at hlast
    rw [if_neg fun hfound => hlast (congrArg some hfound.1)]
    simp [Nat.add_comm]
  | cons =>
  rw [if_neg (by simpa using hnot), ih hrest (by simpa using hlast), Option.map_map]
  congr 1
  funext i
  simp only [Function.comp_apply, length_cons]
  omega

/-- A size line that was found across the line buffer and the input. -/
theorem sizeLine_of_findCrlf {size : Nat} (hstart : findCrlf start = none)
    (hlast : start.getLast? ≠ some 13) (hfind : findCrlf input = some i)
    (hparse : parseChunkSizeLine (start ++ input.take i) = .ok size) :
    SizeLine (start ++ input.take i) size ∧
      start ++ input.take (i + 2) = start ++ input.take i ++ CRLF := by
  obtain ⟨line, _, rfl, rfl, hline⟩ := exists_line hfind
  have hend := findCrlf_of_concat_cr [] hline
  rw [append_assoc line, take_left] at hparse ⊢
  refine ⟨⟨?_, hparse⟩, by rw [take_length_add_append]; simp [CRLF]⟩
  rw [append_nil] at hend
  rw [append_assoc, findCrlf_concat _ hstart hlast, hend, length_append]
  rfl

end

namespace ChunkedDecoder

/-- What a decoder has read of the chunk it is in. -/
def Part (decoder : ChunkedDecoder) (part body out : List UInt8) : Prop :=
  match decoder.state with
  | .size => part = decoder.sizeBuf ∧ findCrlf part = none ∧ out = body
  | .data remaining => ∃ line data, SizeLine line (data.length + remaining) ∧ 0 < remaining ∧
      part = line ++ CRLF ++ data ∧ out = body ++ data
  | .dataCrlf => ∃ line data, SizeLine line data.length ∧ data ≠ [] ∧
      part = line ++ CRLF ++ data ∧ out = body ++ data
  | .trailers => ∃ line, SizeLine line 0 ∧
      part = line ++ CRLF ++ (if decoder.hasTrailerPartial then [13] else []) ∧ out = body
  | .done => ∃ line, SizeLine line 0 ∧ part = line ++ CRLF ++ CRLF ∧ out = body

/-- A decoder that has consumed `wire` and put out `out`. -/
structure Fed (decoder : ChunkedDecoder) (wire out : List UInt8) : Prop where
  parts : ∃ chunks body part, wire = chunks ++ part ∧ Chunks chunks body ∧
    decoder.Part part body out
  sizeBuf : decoder.state ≠ .size → decoder.sizeBuf = []
  trailerPartial : decoder.state ≠ .trailers → decoder.hasTrailerPartial = false

theorem fed_new (maxBodyBytes : Nat) : (new maxBodyBytes).Fed [] [] where
  parts := ⟨[], [], [], rfl, .nil, rfl, rfl, rfl⟩
  sizeBuf := fun hstate => absurd rfl hstate
  trailerPartial := fun _ => rfl

/-- A decoder that is done has read a whole body. -/
theorem Fed.chunkedBody {decoder : ChunkedDecoder} {wire out : List UInt8}
    (hfed : decoder.Fed wire out) (hdone : decoder.state = .done) : ChunkedBody wire out := by
  obtain ⟨chunks, _, _, rfl, hchunks, hpart⟩ := hfed.parts
  rw [Part, hdone] at hpart
  obtain ⟨line, hline, rfl, rfl⟩ := hpart
  exact ⟨chunks, line, hchunks, hline, rfl⟩

/-- A decoder that needs more leaves at most the first of two line end bytes. -/
def Waits (decoder : ChunkedDecoder) (left : List UInt8) : Prop :=
  decoder.state ≠ .done ∧ (left = [] ∨ decoder.state = .dataCrlf ∧ left.length < 2)

/-- What holds after `progress`, with `taken` consumed and `left` not. -/
def Outcome (decoder : ChunkedDecoder) (wire out taken left : List UInt8) : ChunkedProgress → Prop
  | .needMore => decoder.Fed (wire ++ taken) out ∧ decoder.Waits left
  | .chunk data => decoder.Fed (wire ++ taken) (out ++ data) ∧ taken ≠ []
  | .complete => decoder.Fed (wire ++ taken) out ∧ decoder.state = .done
  | .failed _ => decoder.state ≠ .done

/-- The result of a step that started at `input` with `consumed` bytes behind it. -/
def Sound (wire out input : List UInt8) (consumed : Nat)
    (result : ChunkedProgress × Nat × ChunkedDecoder) : Prop :=
  ∃ n, result.2.1 = consumed + n ∧ n ≤ input.length ∧
    result.2.2.Outcome wire out (input.take n) (input.drop n) result.1

variable {decoder : ChunkedDecoder} {wire out input : List UInt8} {consumed : Nat}

/-- A step that goes on with the rest of the input. -/
theorem Sound.drop {n : Nat} {result : ChunkedProgress × Nat × ChunkedDecoder}
    (hn : n ≤ input.length)
    (hresult : Sound (wire ++ input.take n) out (input.drop n) (consumed + n) result) :
    Sound wire out input consumed result := by
  obtain ⟨k, _, hk, houtcome⟩ := hresult
  rw [length_drop] at hk
  refine ⟨n + k, by omega, by omega, ?_⟩
  rw [take_add, ← drop_drop]
  unfold Outcome at houtcome ⊢
  rw [append_assoc] at houtcome
  cases hprogress : result.1 with
  | chunk =>
    rw [hprogress] at houtcome
    exact ⟨houtcome.1, fun hnil => houtcome.2 (append_eq_nil_iff.1 hnil).2⟩
  | needMore | complete | failed =>
    rw [hprogress] at houtcome
    exact houtcome

/-- The result of `feed_all`, which has put out `new`. -/
def AllSound (wire out new input : List UInt8)
    (result : FeedAllResult × Nat × List UInt8 × ChunkedDecoder) : Prop :=
  result.2.1 ≤ input.length ∧ match result.1 with
    | .complete => result.2.2.2.Fed (wire ++ input.take result.2.1) (out ++ new) ∧
        result.2.2.2.state = .done
    | .needMore => result.2.2.2.Fed (wire ++ input.take result.2.1) (out ++ new) ∧
        result.2.2.2.Waits (input.drop result.2.1)
    | .failed _ => result.2.2.2.state ≠ .done

section

variable {remaining : Nat} (hfed : decoder.Fed wire out)

include hfed

theorem Fed.needMore_nil (hstate : decoder.state ≠ .done) :
    Sound wire out [] consumed (.needMore, consumed, decoder) :=
  ⟨0, rfl, le_rfl, by simpa using hfed, hstate, .inl rfl⟩

theorem feedTrailers_sound (hstate : decoder.state = .trailers) :
    Sound wire out input consumed (decoder.feedTrailers input consumed) := by
  obtain ⟨chunks, _, _, rfl, hchunks, hpart⟩ := hfed.parts
  have hsizeBuf := hfed.sizeBuf (by simp [hstate])
  rw [Part, hstate] at hpart
  obtain ⟨line, hline, rfl, rfl⟩ := hpart
  cases input with
  | nil => exact hfed.needMore_nil (by simp [hstate])
  | cons =>
  unfold feedTrailers
  dsimp only
  by_cases htrailer : decoder.hasTrailerPartial = true
  · rw [if_pos htrailer, if_pos htrailer]
    split
    · rename_i hlf
      refine ⟨1, rfl, by simp, ⟨⟨chunks, out, line ++ CRLF ++ CRLF, ?_, hchunks, line, hline,
        rfl, rfl⟩, fun _ => hsizeBuf, fun _ => rfl⟩, rfl⟩
      simp [hlf, CRLF]
    · exact ⟨0, rfl, zero_le _, by simp [Outcome, hstate]⟩
  rw [if_neg htrailer, if_neg htrailer]
  split
  · rename_i hrest
    obtain rfl := hrest
    split
    · rename_i hcr
      refine ⟨1, rfl, by simp, ⟨⟨chunks, out, line ++ CRLF ++ [13], ?_, hchunks, ?_⟩,
        fun _ => hsizeBuf, fun hne => absurd hstate hne⟩, by simp [hstate], .inl rfl⟩
      · simp [hcr]
      · simp only [Part, hstate]
        exact ⟨line, hline, rfl, trivial⟩
    · exact ⟨0, rfl, zero_le _, by simp [Outcome, hstate]⟩
  rename_i hrest
  split
  · rename_i hcrlf
    refine ⟨2, rfl, ?_, ⟨⟨chunks, out, line ++ CRLF ++ CRLF, ?_, hchunks, line, hline, rfl,
      rfl⟩, fun _ => hsizeBuf, fun _ => rfl⟩, rfl⟩
    · have hpos := length_pos_iff.2 hrest
      simp only [length_cons]
      omega
    · rw [hcrlf]
      simp
  · exact ⟨0, rfl, zero_le _, by simp [Outcome, hstate]⟩

theorem feedData_sound (hstate : decoder.state = .data remaining) :
    Sound wire out input consumed (decoder.feedData remaining input consumed) := by
  obtain ⟨chunks, body, _, rfl, hchunks, hpart⟩ := hfed.parts
  have hsizeBuf := hfed.sizeBuf (by simp [hstate])
  have htrailer := hfed.trailerPartial (by simp [hstate])
  rw [Part, hstate] at hpart
  obtain ⟨line, data, _, _, rfl, rfl⟩ := hpart
  unfold feedData
  dsimp only
  split
  · rename_i hempty
    have hnil : input = [] := by
      rcases hempty with hnil | hzero
      · exact hnil
      rcases min_eq_zero_iff.1 hzero with _ | hlength
      · omega
      · exact length_eq_zero_iff.1 hlength
    subst hnil
    exact hfed.needMore_nil (by simp [hstate])
  rename_i htake
  obtain ⟨_, _⟩ := not_or.1 htake
  have hle : Nat.min remaining input.length ≤ input.length := min_le_right _ _
  have hleRemaining : Nat.min remaining input.length ≤ remaining := min_le_left _ _
  set take := Nat.min remaining input.length
  split
  · exact ⟨0, rfl, zero_le _, by simp [Outcome, hstate]⟩
  have hdata : (data ++ input.take take).length = data.length + take := by
    rw [length_append, length_take_of_le hle]
  have hne : input.take take ≠ [] := by
    rw [ne_eq, take_eq_nil_iff]
    tauto
  refine ⟨take, rfl, hle, ⟨⟨chunks, body, line ++ CRLF ++ (data ++ input.take take), by simp,
    hchunks, ?_⟩, fun _ => hsizeBuf, fun _ => htrailer⟩, hne⟩
  by_cases hlast : remaining - take = 0
  · simp only [Part, hlast, if_pos]
    refine ⟨line, data ++ input.take take, ?_, by simp [hne], rfl, by simp⟩
    rwa [hdata, show data.length + take = data.length + remaining by omega]
  · simp only [Part, if_neg hlast]
    refine ⟨line, data ++ input.take take, ?_, by omega, rfl, by simp⟩
    rwa [hdata, show data.length + take + (remaining - take) = data.length + remaining by omega]

/-- What a size line has become of the line buffer and the input. -/
theorem feedSize_sound (input : List UInt8) (hstate : decoder.state = .size) :
    ∃ chunks, Chunks chunks out ∧ match decoder.feedSize input with
      | (.complete size n, result) => n ≤ input.length ∧
          (∃ line, SizeLine line size ∧ wire ++ input.take n = chunks ++ (line ++ CRLF)) ∧
          result = { decoder with sizeBuf := [] }
      | (.needMore n, result) => n = input.length ∧ result.Fed (wire ++ input) out ∧
          result.state = .size
      | (.error _ n, result) => n ≤ input.length ∧ result.state = .size := by
  obtain ⟨chunks, _, _, rfl, hchunks, hpart⟩ := hfed.parts
  have htrailer := hfed.trailerPartial (by simp [hstate])
  rw [Part, hstate] at hpart
  obtain ⟨rfl, hnone, rfl⟩ := hpart
  refine ⟨chunks, hchunks, ?_⟩
  unfold feedSize
  by_cases hlast : decoder.sizeBuf.getLast? = some 13
  · rw [if_pos hlast]
    cases input with
    | nil => exact ⟨rfl, by simpa using hfed, hstate⟩
    | cons byte =>
    dsimp only
    by_cases hlf : byte = 10
    · rw [if_pos hlf]
      obtain ⟨line, hline⟩ := getLast?_eq_some_iff.1 hlast
      have hdrop : decoder.sizeBuf.dropLast = line := by rw [hline, dropLast_concat]
      cases hparse : parseChunkSizeLine decoder.sizeBuf.dropLast with
      | error => exact ⟨by simp, hstate⟩
      | ok =>
      have hend := findCrlf_of_concat_cr [] (hline ▸ hnone)
      rw [append_nil] at hend
      refine ⟨by simp, ⟨line, ⟨hend, hdrop ▸ hparse⟩, ?_⟩, rfl⟩
      simp [hline, hlf, CRLF]
    · rw [if_neg hlf]
      exact ⟨zero_le _, hstate⟩
  rw [if_neg hlast]
  cases hfind : findCrlf input with
  | some i =>
    have hlength := (findCrlf_lt hfind).1
    dsimp only
    by_cases hlong : MAX_SIZE_LINE_LEN ≤ decoder.sizeBuf.length + i
    · rw [if_pos hlong]
      exact ⟨hlength, hstate⟩
    rw [if_neg hlong]
    cases hparse : parseChunkSizeLine (decoder.sizeBuf ++ input.take i) with
    | error => exact ⟨hlength, hstate⟩
    | ok =>
      obtain ⟨hline, hwire⟩ := sizeLine_of_findCrlf hnone hlast hfind hparse
      exact ⟨hlength, ⟨_, hline, by rw [append_assoc, hwire]⟩, rfl⟩
  | none =>
  by_cases hlong : MAX_SIZE_LINE_LEN - decoder.sizeBuf.length ≤ input.length
  · rw [if_pos hlong]
    exact ⟨le_rfl, hstate⟩
  rw [if_neg hlong]
  refine ⟨rfl, ⟨⟨chunks, out, decoder.sizeBuf ++ input, by simp, hchunks, ?_⟩,
    fun hne => absurd hstate hne, fun _ => htrailer⟩, hstate⟩
  simp only [Part, hstate]
  exact ⟨trivial, by rw [findCrlf_concat _ hnone hlast, hfind]; rfl, trivial⟩

theorem feedSizeState_sound (hstate : decoder.state = .size) :
    Sound wire out input consumed (decoder.feedSizeState input consumed) := by
  unfold feedSizeState
  split
  · rename_i hnil
    subst hnil
    exact hfed.needMore_nil (by simp [hstate])
  obtain ⟨chunks, hchunks, hsize⟩ := feedSize_sound hfed input hstate
  have htrailer := hfed.trailerPartial (by simp [hstate])
  cases hfeed : decoder.feedSize input with
  | mk result =>
  rw [hfeed] at hsize
  cases result with
  | needMore =>
    obtain ⟨rfl, hfed', hstate'⟩ := hsize
    exact ⟨input.length, rfl, le_rfl, by simpa using hfed', by simp [hstate'], .inl (by simp)⟩
  | error _ n =>
    obtain ⟨hn, hstate'⟩ := hsize
    exact ⟨n, rfl, hn, by simp [Outcome, hstate']⟩
  | complete _ n =>
  obtain ⟨hn, ⟨line, hline, hwire⟩, rfl⟩ := hsize
  dsimp only
  split
  · rename_i hzero
    subst hzero
    refine .drop hn (feedTrailers_sound ⟨⟨chunks, out, _, hwire, hchunks, line, hline, ?_,
      rfl⟩, fun _ => rfl, fun hne => absurd rfl hne⟩ rfl)
    simp [htrailer]
  rename_i hsize
  split
  · exact ⟨n, rfl, hn, by simp [Outcome, hstate]⟩
  refine .drop hn (feedData_sound ⟨⟨chunks, out, _, hwire, hchunks, line, [], ?_,
    Nat.pos_of_ne_zero hsize, by simp, by simp⟩, fun _ => rfl, fun _ => htrailer⟩ rfl)
  simpa using hline

theorem feedDataCrlf_sound (hstate : decoder.state = .dataCrlf) :
    Sound wire out input consumed (decoder.feedDataCrlf input consumed) := by
  unfold feedDataCrlf
  split
  · rename_i hshort
    exact ⟨0, rfl, zero_le _, by simpa using hfed, by simp [hstate],
      .inr ⟨hstate, by simpa using hshort⟩⟩
  rename_i hlong
  split
  · exact ⟨0, rfl, zero_le _, by simp [Outcome, hstate]⟩
  rename_i hcrlf
  obtain ⟨_, _, _, rfl, hchunks, hpart⟩ := hfed.parts
  have hsizeBuf := hfed.sizeBuf (by simp [hstate])
  have htrailer := hfed.trailerPartial (by simp [hstate])
  rw [Part, hstate] at hpart
  obtain ⟨_, _, hline, hdata, rfl, rfl⟩ := hpart
  refine .drop (by omega) (feedSizeState_sound ⟨⟨_, _, [], ?_, .concat hchunks hline hdata,
    hsizeBuf.symm, rfl, rfl⟩, fun hne => absurd rfl hne, fun _ => htrailer⟩ rfl)
  rw [not_not.1 hcrlf]
  simp

theorem feed_sound (input : List UInt8) : Sound wire out input 0 (decoder.feed input) := by
  unfold feed
  cases hstate : decoder.state with
  | size => exact feedSizeState_sound hfed hstate
  | data => exact feedData_sound hfed hstate
  | dataCrlf => exact feedDataCrlf_sound hfed hstate
  | trailers => exact feedTrailers_sound hfed hstate
  | done => exact ⟨0, rfl, zero_le _, by simpa using hfed, hstate⟩

theorem feedRounds_sound {rounds : Nat} (accumulator : List UInt8)
    (hrounds : input.length < rounds) :
    ∃ new, (feedRounds rounds decoder input accumulator).2.2.1 = accumulator ++ new ∧
      AllSound wire out new input (feedRounds rounds decoder input accumulator) := by
  induction rounds generalizing decoder wire out input accumulator with
  | zero => omega
  | succ rounds ih =>
  obtain ⟨n, hn, hle, houtcome⟩ := feed_sound hfed input
  rw [feedRounds]
  rcases hfeed : decoder.feed input with ⟨progress, consumed, decoder'⟩
  rw [hfeed] at hn houtcome
  obtain rfl : consumed = n := by simpa using hn
  cases progress with
  | needMore | complete => exact ⟨[], by simp, hle, by simpa [Outcome] using houtcome⟩
  | failed => exact ⟨[], by simp, hle, houtcome⟩
  | chunk data =>
  obtain ⟨hfed', htaken⟩ := houtcome
  have hpos : 0 < consumed ∧ 0 < input.length := by
    rw [ne_eq, take_eq_nil_iff, not_or] at htaken
    exact ⟨Nat.pos_of_ne_zero htaken.1, length_pos_iff.2 htaken.2⟩
  have hrest : (input.drop consumed).length < rounds := by
    rw [length_drop]
    omega
  obtain ⟨new, hnew, hall⟩ := ih hfed' (accumulator ++ data) hrest
  rcases hfeedRest : feedRounds rounds decoder' (input.drop consumed) (accumulator ++ data)
    with ⟨result, more, accumulator', decoder''⟩
  rw [hfeedRest] at hnew hall
  obtain ⟨hlength, hresult⟩ := hall
  simp only [hfeedRest]
  dsimp only at hnew hlength hresult
  rw [length_drop] at hlength
  refine ⟨data ++ new, by simpa using hnew, by dsimp only; omega, ?_⟩
  rwa [take_add, ← drop_drop, ← append_assoc, ← append_assoc]

theorem feedAll_sound (input accumulator : List UInt8) :
    ∃ new, (decoder.feedAll input accumulator).2.2.1 = accumulator ++ new ∧
      AllSound wire out new input (decoder.feedAll input accumulator) :=
  feedRounds_sound hfed accumulator (lt_succ_self _)

end

section

variable {raw bytes : List UInt8} {max : Nat}

theorem feedData_nil (remaining : Nat) :
    decoder.feedData remaining [] consumed = (.needMore, consumed, decoder) := by
  simp [feedData]

/-- One byte never brings a size line and anything after it. -/
theorem feedSizeState_short (hshort : input.length ≤ 1) :
    ∀ data, (decoder.feedSizeState input consumed).1 ≠ .chunk data ∧
      (decoder.feedSizeState input consumed).1 ≠ .complete := by
  intro data
  unfold feedSizeState
  split
  · simp
  have hfind : findCrlf input = none := by
    by_contra hsome
    obtain ⟨i, hi⟩ := ne_none_iff_exists'.1 hsome
    have hlt := (findCrlf_lt hi).1
    omega
  split
  · rename_i size n decoder' hfeed
    have hn : input.drop n = [] := by
      have hone : n = 1 := by
        unfold feedSize at hfeed
        dsimp only at hfeed
        split at hfeed
        · split at hfeed
          · cases hfeed
          split at hfeed
          · split at hfeed
            · cases hfeed
              rfl
            · cases hfeed
          · cases hfeed
        · rw [hfind] at hfeed
          dsimp only at hfeed
          split at hfeed <;> cases hfeed
      rw [hone]
      exact drop_eq_nil_of_le hshort
    rw [hn]
    split
    · simp [feedTrailers]
    split
    · simp
    · simp [feedData_nil]
  · simp
  · simp

/-- A read of at most the preferred size is consumed whole, if it ends a chunk's data or the
body. -/
theorem feed_exact (hfed : decoder.Fed wire out) (hwaits : decoder.Waits raw)
    (hwant : bytes.length ≤ decoder.preferredReadSize max)
    (hprogress : (decoder.feed (raw ++ bytes)).1 = .complete ∨
      ∃ data, (decoder.feed (raw ++ bytes)).1 = .chunk data) :
    (decoder.feed (raw ++ bytes)).2.1 = (raw ++ bytes).length := by
  obtain ⟨_, _, _, -, -, hpart⟩ := hfed.parts
  unfold feed at hprogress ⊢
  cases hdecoder : decoder.state with
  | done => exact absurd hdecoder hwaits.1
  | size =>
    obtain rfl : raw = [] := by simpa [Waits, hdecoder] using hwaits
    have hshort : ([] ++ bytes).length ≤ 1 := by simpa [preferredReadSize, hdecoder] using hwant
    simp only [hdecoder] at hprogress
    rcases hprogress with hcomplete | ⟨data, hchunk⟩
    · exact absurd hcomplete (feedSizeState_short hshort []).2
    · exact absurd hchunk (feedSizeState_short hshort data).1
  | dataCrlf =>
    simp only [hdecoder] at hprogress
    have hraw : raw.length < 2 := by
      rcases hwaits.2 with hnil | hcr
      · simp [hnil]
      · exact hcr.2
    have hone : bytes.length ≤ 1 := by simpa [preferredReadSize, hdecoder] using hwant
    have hdrop : ((raw ++ bytes).drop 2).length ≤ 1 := by simp; omega
    unfold feedDataCrlf at hprogress
    split at hprogress
    · simp at hprogress
    split at hprogress
    · simp at hprogress
    rcases hprogress with hcomplete | ⟨data, hchunk⟩
    · exact absurd hcomplete (feedSizeState_short hdrop []).2
    · exact absurd hchunk (feedSizeState_short hdrop data).1
  | data remaining =>
    obtain rfl : raw = [] := by simpa [Waits, hdecoder] using hwaits
    simp only [hdecoder] at hprogress
    rw [Part, hdecoder] at hpart
    obtain ⟨_, _, -, hremaining, -⟩ := hpart
    have hle : bytes.length ≤ remaining := by
      simp only [preferredReadSize, hdecoder] at hwant
      have hmin : min remaining max ≤ remaining := min_le_left _ _
      have hmax := Nat.max_le.2 ⟨hmin, hremaining⟩
      exact hwant.trans hmax
    unfold feedData at hprogress ⊢
    dsimp only at hprogress ⊢
    split at hprogress
    · simp at hprogress
    rename_i hsome
    rw [if_neg hsome]
    split at hprogress
    · simp at hprogress
    rename_i hlarge
    rw [if_neg hlarge]
    exact (Nat.zero_add _).trans (min_eq_right hle)
  | trailers =>
  obtain rfl : raw = [] := by simpa [Waits, hdecoder] using hwaits
  have hone : bytes.length ≤ 1 := by simpa [preferredReadSize, hdecoder] using hwant
  simp only [hdecoder, nil_append] at hprogress ⊢
  cases bytes with
  | nil => simp [feedTrailers] at hprogress
  | cons _ rest =>
  obtain rfl : rest = [] := by simpa using hone
  unfold feedTrailers at hprogress ⊢
  dsimp only at hprogress ⊢
  split
  · rename_i htrailer
    rw [if_pos htrailer] at hprogress
    split
    · rfl
    rename_i hlf
    rw [if_neg hlf] at hprogress
    simp at hprogress
  · rename_i htrailer
    rw [if_neg htrailer, if_pos rfl] at hprogress
    split at hprogress <;> simp at hprogress

/-- Nothing is left behind a body that such a read completes. -/
theorem feedAll_exact (accumulator : List UInt8) (hfed : decoder.Fed wire out)
    (hwaits : decoder.Waits raw) (hwant : bytes.length ≤ decoder.preferredReadSize max)
    (hcomplete : (decoder.feedAll (raw ++ bytes) accumulator).1 = .complete) :
    (decoder.feedAll (raw ++ bytes) accumulator).2.1 = (raw ++ bytes).length := by
  have hexact := feed_exact hfed hwaits hwant
  obtain ⟨n, _, _, houtcome⟩ := feed_sound hfed (raw ++ bytes)
  unfold feedAll at hcomplete ⊢
  rw [feedRounds] at hcomplete ⊢
  rcases hfeed : decoder.feed (raw ++ bytes) with ⟨progress, consumed, decoder'⟩
  rw [hfeed] at hexact houtcome hcomplete
  cases progress with
  | needMore | failed => simp at hcomplete
  | complete => exact hexact (.inl rfl)
  | chunk data =>
  have hconsumed : consumed = (raw ++ bytes).length := hexact (.inr ⟨data, rfl⟩)
  obtain ⟨hfed', htaken⟩ := houtcome
  have hnil : (raw ++ bytes).drop consumed = [] := by rw [hconsumed, drop_length]
  have hpos : 0 < (raw ++ bytes).length := by
    rw [length_pos_iff]
    intro hempty
    simp [hempty] at htaken
  have hshort : ((raw ++ bytes).drop consumed).length < (raw ++ bytes).length := by
    rw [hnil]
    exact hpos
  obtain ⟨_, -, hlength, -⟩ := feedRounds_sound hfed' (accumulator ++ data) hshort
  dsimp only at hlength ⊢
  rcases hrest : feedRounds (raw ++ bytes).length decoder' ((raw ++ bytes).drop consumed)
    (accumulator ++ data) with ⟨result, more, accumulator', decoder''⟩
  rw [hrest, hnil] at hlength
  have hmore : more = 0 := le_zero.1 hlength
  rw [hmore, hconsumed, Nat.add_zero]

end

end ChunkedDecoder

end Tina.Http
