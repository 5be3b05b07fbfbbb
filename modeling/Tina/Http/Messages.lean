import Tina.Http.ChunkedBody
import Tina.Http.Connection

/-!
The reading of a byte stream message by message, which the connection is measured against: a head,
then exactly the bytes of its body, then the next head. It knows no buffers, no segments and no
service.
-/

namespace Tina.Http

open List Option HttpConnection

/-- A chunked body at the start of `input`: its data and the bytes it takes on the wire. -/
def readChunkedBody : Nat → Bytes → Option (Bytes × Nat)
  | 0, _ => none
  | fuel + 1, input =>
    match findCrlf input with
    | none => none
    | some lineLen =>
      match parseChunkSizeLine (input.take lineLen) with
      | .error _ => none
      | .ok size =>
        let rest := input.drop (lineLen + 2)
        if (rest.drop size).take 2 ≠ CRLF then none
        else if size = 0 then some ([], lineLen + 4)
        else
          (readChunkedBody fuel (rest.drop (size + 2))).map fun (body, wireLen) =>
            (rest.take size ++ body, lineLen + 2 + (size + 2) + wireLen)

/-- The bytes that the body behind `head` takes, when it is complete. -/
def bodyLength (head : HttpRequestHead) (rest : Bytes) : Option Nat :=
  if head.chunked then (readChunkedBody (rest.length + 1) rest).map (·.2)
  else if rest.length < head.contentLength then none
  else some head.contentLength

/-- The request that a head and the bytes behind it are. -/
def requestOf (limits : HttpLimits) (head : HttpRequestHead) (rest : Bytes) : HttpRequest :=
  if HttpConnection.streams limits head then
    head.intoStreamingRequest ⟨if head.chunked then 0 else head.contentLength, head.chunked⟩
  else head.intoRequest (rest.take head.contentLength)

namespace Crates

/-- A streamed request is there with its head, any other with its body. -/
def readRequests (crates : Crates) (limits : HttpLimits) : Nat → Bytes → List HttpRequest
  | 0, _ => []
  | fuel + 1, stream =>
    match crates.parseRequestHead limits stream with
    | .complete head headLen =>
      let rest := stream.drop headLen
      match bodyLength head rest with
      | some length =>
        requestOf limits head rest :: crates.readRequests limits fuel (rest.drop length)
      | none => if HttpConnection.streams limits head then [requestOf limits head rest] else []
    | .needMore | .failed _ => []

/-- The requests of a stream. -/
def requests (crates : Crates) (limits : HttpLimits) (stream : Bytes) : List HttpRequest :=
  crates.readRequests limits (stream.length + 1) stream

/-- `wire` is one whole message. -/
def Message (crates : Crates) (limits : HttpLimits) (wire : Bytes) (request : HttpRequest) : Prop :=
  ∃ head headLen, crates.parseRequestHead limits wire = .complete head headLen ∧
    bodyLength head (wire.drop headLen) = some (wire.length - headLen) ∧
    request = requestOf limits head (wire.drop headLen)

/-- `wire` is whole messages, one after the other. -/
inductive Messages (crates : Crates) (limits : HttpLimits) : Bytes → List HttpRequest → Prop where
  | nil : Messages crates limits [] []
  | concat {wire message requests request} (hwire : Messages crates limits wire requests)
      (hmessage : crates.Message limits message request) :
      Messages crates limits (wire ++ message) (requests ++ [request])

end Crates

section

variable {input : Bytes} {result : Bytes × Nat} {wire body : Bytes} {fuel : Nat}

theorem readChunkedBody_append (more : Bytes) (hread : readChunkedBody fuel input = some result) :
    readChunkedBody fuel (input ++ more) = some result := by
  induction fuel generalizing input result with
  | zero => cases hread
  | succ _ ih =>
  rw [readChunkedBody] at hread ⊢
  cases hfind : findCrlf input with
  | none => simp [hfind] at hread
  | some lineLen =>
  obtain ⟨hline, -⟩ := findCrlf_lt hfind
  have htake : (input ++ more).take lineLen = input.take lineLen :=
    take_append_of_le_length (by omega)
  have hdrop : (input ++ more).drop (lineLen + 2) = input.drop (lineLen + 2) ++ more :=
    drop_append_of_le_length hline
  simp only [hfind, findCrlf_append hfind more, htake, hdrop] at hread ⊢
  cases hparse : parseChunkSizeLine (input.take lineLen) with
  | error => simp [hparse] at hread
  | ok size =>
  simp only [hparse] at hread ⊢
  set rest := input.drop (lineLen + 2)
  by_cases hcrlf : (rest.drop size).take 2 = CRLF
  · have hlong : size + 2 ≤ rest.length := by
      have hlength := congrArg length hcrlf
      simp only [length_take, length_drop, CRLF, length_cons, length_nil] at hlength
      omega
    have hcrlf' : ((rest ++ more).drop size).take 2 = CRLF := by
      rw [drop_append_of_le_length (by omega),
        take_append_of_le_length (by rw [length_drop]; omega), hcrlf]
    rw [if_neg (not_not.2 hcrlf)] at hread
    rw [if_neg (not_not.2 hcrlf')]
    by_cases hzero : size = 0
    · rw [if_pos hzero] at hread ⊢
      exact hread
    rw [if_neg hzero, map_eq_some_iff] at hread
    obtain ⟨_, hrest, rfl⟩ := hread
    rw [if_neg hzero, drop_append_of_le_length hlong, ih hrest, map_some,
      take_append_of_le_length (by omega)]
  · rw [if_pos hcrlf] at hread
    cases hread

theorem readChunkedBody_le (hread : readChunkedBody fuel input = some result) :
    result.2 ≤ input.length := by
  induction fuel generalizing input result with
  | zero => cases hread
  | succ _ ih =>
  rw [readChunkedBody] at hread
  split at hread
  · cases hread
  rename_i lineLen hfind
  split at hread
  · cases hread
  rename_i size hparse
  dsimp only at hread
  split at hread
  · cases hread
  rename_i hcrlf
  obtain ⟨_, -⟩ := findCrlf_lt hfind
  have hlength := congrArg length (not_not.1 hcrlf)
  simp only [length_take, length_drop, CRLF, length_cons, length_nil] at hlength
  split at hread
  · cases hread
    omega
  obtain ⟨_, hrest, rfl⟩ := map_eq_some_iff.1 hread
  have hle := ih hrest
  rw [length_drop, length_drop] at hle
  omega

theorem readChunkedBody_fuel {fuel' : Nat} (hfuel : fuel ≤ fuel')
    (hread : readChunkedBody fuel input = some result) :
    readChunkedBody fuel' input = some result := by
  induction fuel generalizing fuel' input result with
  | zero => cases hread
  | succ _ ih =>
  obtain ⟨fuel', rfl⟩ : ∃ more, fuel' = more + 1 := ⟨fuel' - 1, by omega⟩
  rw [readChunkedBody] at hread ⊢
  split at hread
  · cases hread
  split at hread
  · cases hread
  dsimp only at hread ⊢
  split at hread
  · cases hread
  rename_i hcrlf
  rw [if_neg hcrlf]
  split at hread
  · rename_i hzero
    rw [if_pos hzero]
    exact hread
  · rename_i hzero
    obtain ⟨_, hrest, rfl⟩ := map_eq_some_iff.1 hread
    rw [if_neg hzero, ih (Nat.le_of_succ_le_succ hfuel) hrest, map_some]

/-- One chunk with data, in front of whatever follows. -/
theorem readChunkedBody_chunk {line data : Bytes} (fuel : Nat) (rest : Bytes)
    (hline : SizeLine line data.length) (hdata : data ≠ []) :
    readChunkedBody (fuel + 1) (line ++ CRLF ++ data ++ CRLF ++ rest) =
      (readChunkedBody fuel rest).map fun (body, wireLen) =>
        (data ++ body, (line ++ CRLF ++ data ++ CRLF).length + wireLen) := by
  have hfind : findCrlf (line ++ CRLF ++ data ++ CRLF ++ rest) = some line.length := by
    simpa [append_assoc] using findCrlf_append hline.first (data ++ CRLF ++ rest)
  have htake : (line ++ CRLF ++ data ++ CRLF ++ rest).take line.length = line := by simp
  have hdrop : (line ++ CRLF ++ data ++ CRLF ++ rest).drop (line.length + 2) =
      data ++ CRLF ++ rest := by
    rw [show line.length + 2 = (line ++ CRLF).length by simp [CRLF],
      show line ++ CRLF ++ data ++ CRLF ++ rest = (line ++ CRLF) ++ (data ++ CRLF ++ rest) by simp,
      drop_left]
  have hcrlf : ((data ++ CRLF ++ rest).drop data.length).take 2 = CRLF := by
    rw [append_assoc, drop_left]
    rfl
  have hsize : (data ++ CRLF ++ rest).drop (data.length + 2) = rest := by
    rw [show data.length + 2 = (data ++ CRLF).length by simp [CRLF], drop_left]
  rw [readChunkedBody, hfind]
  simp only [htake, hline.parses, hdrop, hcrlf, hsize]
  rw [if_neg (by simp), if_neg (by simpa using hdata)]
  congr 1
  funext pair
  refine Prod.ext (by simp) ?_
  simp only [CRLF, length_append, length_cons, length_nil]
  omega

theorem readChunkedBody_chunks (hchunks : Chunks wire body) :
    ∃ count ≤ wire.length, ∀ fuel rest, readChunkedBody (fuel + count) (wire ++ rest) =
      (readChunkedBody fuel rest).map fun (body', wireLen) =>
        (body ++ body', wire.length + wireLen) := by
  induction hchunks with
  | nil => exact ⟨0, le_rfl, fun fuel rest => by simp⟩
  | @concat wire body line data hwire hline hdata ih =>
  obtain ⟨count, _, hread⟩ := ih
  refine ⟨count + 1, by simp [CRLF]; omega, fun fuel rest => ?_⟩
  rw [show fuel + (count + 1) = fuel + 1 + count by omega, append_assoc, hread,
    readChunkedBody_chunk fuel rest hline hdata, Option.map_map]
  congr 1
  funext pair
  simp [Nat.add_assoc]

/-- A whole chunked body is read as one. -/
theorem ChunkedBody.read (hbody : ChunkedBody wire body) :
    readChunkedBody (wire.length + 1) wire = some (body, wire.length) := by
  obtain ⟨_, line, hchunks, hline, rfl⟩ := hbody
  obtain ⟨_, _, hread⟩ := readChunkedBody_chunks hchunks
  have hlast : readChunkedBody 1 (line ++ CRLF ++ CRLF) = some ([], line.length + 4) := by
    have hfind : findCrlf (line ++ CRLF ++ CRLF) = some line.length :=
      findCrlf_append hline.first CRLF
    have hdrop : (line ++ CRLF ++ CRLF).drop (line.length + 2) = CRLF := by
      rw [show line.length + 2 = (line ++ CRLF).length by simp [CRLF], drop_left]
    rw [readChunkedBody, hfind]
    simp only [hdrop, show (line ++ CRLF ++ CRLF).take line.length = line by simp, hline.parses]
    rfl
  have hall := hread 1 (line ++ CRLF ++ CRLF)
  rw [hlast] at hall
  refine readChunkedBody_fuel ?_ (hall.trans ?_)
  · rw [length_append]
    omega
  · simp [CRLF]

end

variable {limits : HttpLimits} {crates : Crates}

section

variable {head : HttpRequestHead} {rest : Bytes} {length : Nat} {buffer : Bytes} {headLen : Nat}

theorem bodyLength_append (more : Bytes) (hbody : bodyLength head rest = some length) :
    bodyLength head (rest ++ more) = some length := by
  unfold bodyLength at hbody ⊢
  split
  · rename_i hchunked
    rw [if_pos hchunked, map_eq_some_iff] at hbody
    obtain ⟨_, hread, rfl⟩ := hbody
    have hread' := readChunkedBody_append more hread
    rw [readChunkedBody_fuel (by simp) hread', map_some]
  rename_i hchunked
  rw [if_neg hchunked] at hbody
  split at hbody
  · cases hbody
  · rw [if_neg (by rw [length_append]; omega)]
    exact hbody

theorem bodyLength_le (hbody : bodyLength head rest = some length) : length ≤ rest.length := by
  unfold bodyLength at hbody
  split at hbody
  · obtain ⟨_, hread, rfl⟩ := map_eq_some_iff.1 hbody
    exact readChunkedBody_le hread
  split at hbody
  · cases hbody
  rename_i hlong
  cases hbody
  exact Nat.le_of_not_lt hlong

theorem bodyLength_sized (hchunked : head.chunked = false)
    (hbody : bodyLength head rest = some length) : length = head.contentLength := by
  rw [bodyLength, if_neg (by simp [hchunked])] at hbody
  split at hbody
  · cases hbody
  · exact (some.inj hbody).symm

/-- A head whose body is chunked was accepted only because bodies are streamed. -/
theorem streams_of_chunked (hparse : crates.parseRequestHead limits buffer = .complete head headLen)
    (hchunked : head.chunked = true) : streams limits head = true := by
  obtain ⟨_, -, -, hbuild⟩ := Crates.parseRequestHead_eq_complete.1 hparse
  simp only [streams, hchunked, Bool.or_true, Bool.and_true]
  simp only [Crates.buildHead, bind, Except.bind, pure, Except.pure] at hbuild
  split at hbuild
  · cases hbuild
  split at hbuild
  · cases hbuild
  rename_i scan hscan
  split at hbuild
  · cases hbuild
  split at hbuild
  · cases hbuild
  split at hbuild
  · cases hbuild
  rename_i hstream
  cases hbuild
  dsimp only at hchunked
  simpa [hchunked, isSome_iff_ne_none] using hstream

/-- Bytes that follow do not change the request of a complete message. -/
theorem requestOf_append (more : Bytes)
    (hparse : crates.parseRequestHead limits buffer = .complete head headLen)
    (hbody : bodyLength head rest = some length) :
    requestOf limits head (rest ++ more) = requestOf limits head rest := by
  unfold requestOf
  split
  · rfl
  rename_i hstreams
  have hchunked : head.chunked = false := by
    by_contra htrue
    exact hstreams (streams_of_chunked hparse (by simpa using htrue))
  rw [← bodyLength_sized hchunked hbody, take_append_of_le_length (bodyLength_le hbody)]

theorem requestOf_streams (rest rest' : Bytes) (hstreams : streams limits head = true) :
    requestOf limits head rest = requestOf limits head rest' := by
  simp [requestOf, hstreams]

end

namespace Crates

variable {fuel fuel' : Nat} {wire : Bytes}

theorem readRequests_fuel {stream : Bytes} (hfuel : stream.length < fuel)
    (hfuel' : stream.length < fuel') :
    crates.readRequests limits fuel stream = crates.readRequests limits fuel' stream := by
  induction fuel generalizing fuel' stream with
  | zero => omega
  | succ _ ih =>
  obtain ⟨fuel', rfl⟩ : ∃ more, fuel' = more + 1 := ⟨fuel' - 1, by omega⟩
  rw [readRequests, readRequests]
  cases hparse : crates.parseRequestHead limits stream with
  | needMore | failed => rfl
  | complete =>
  dsimp only
  split
  · rename_i length hbody
    have hpos := parseRequestHead_pos hparse
    have hle := parseRequestHead_le hparse
    refine congrArg _ (ih ?_ ?_) <;> simp only [length_drop] <;> omega
  · rfl

/-- The first request of a stream whose first message is complete. -/
theorem Message.requests_append {request : HttpRequest} (rest : Bytes)
    (hmessage : crates.Message limits wire request) :
    crates.requests limits (wire ++ rest) = request :: crates.requests limits rest := by
  obtain ⟨_, headLen, hparse, hbody, rfl⟩ := hmessage
  have hle := parseRequestHead_le hparse
  have hpos := parseRequestHead_pos hparse
  have hdrop : (wire ++ rest).drop headLen = wire.drop headLen ++ rest :=
    drop_append_of_le_length hle
  have hrest : (wire.drop headLen ++ rest).drop (wire.length - headLen) = rest := by
    rw [show wire.length - headLen = (wire.drop headLen).length by simp, drop_left]
  rw [requests, readRequests, parseRequestHead_append rest hparse]
  simp only [hdrop, bodyLength_append rest hbody, requestOf_append rest hparse hbody, hrest]
  rw [requests, readRequests_fuel]
  · rw [length_append]
    omega
  · exact Nat.lt_succ_self _

theorem Messages.requests_append {requests : List HttpRequest} (rest : Bytes)
    (hmessages : Messages crates limits wire requests) :
    crates.requests limits (wire ++ rest) = requests ++ crates.requests limits rest := by
  induction hmessages generalizing rest with
  | nil => rfl
  | concat _ hmessage ih =>
    rw [append_assoc, ih, hmessage.requests_append, append_assoc]
    rfl

/-- More bytes only add requests. -/
theorem readRequests_prefix {stream more : Bytes} (hfuel : stream.length < fuel)
    (hfuel' : (stream ++ more).length < fuel') :
    crates.readRequests limits fuel stream <+: crates.readRequests limits fuel'
      (stream ++ more) := by
  induction fuel generalizing fuel' stream with
  | zero => omega
  | succ _ ih =>
  obtain ⟨fuel', rfl⟩ : ∃ n, fuel' = n + 1 := ⟨fuel' - 1, by omega⟩
  rw [readRequests]
  cases hparse : crates.parseRequestHead limits stream with
  | needMore | failed => exact nil_prefix
  | complete head headLen =>
  have hle := parseRequestHead_le hparse
  have hpos := parseRequestHead_pos hparse
  rw [readRequests, parseRequestHead_append more hparse]
  dsimp only
  rw [drop_append_of_le_length hle]
  cases hbody : bodyLength head (stream.drop headLen) with
  | none =>
    dsimp only
    split
    · rename_i hstreams
      rw [requestOf_streams _ (stream.drop headLen ++ more) hstreams]
      split
      · exact cons_prefix_cons.2 ⟨rfl, nil_prefix⟩
      · exact prefix_rfl
    · exact nil_prefix
  | some =>
  rw [bodyLength_append more hbody, requestOf_append more hparse hbody]
  dsimp only
  rw [drop_append_of_le_length (bodyLength_le hbody)]
  refine cons_prefix_cons.2 ⟨rfl, ih ?_ ?_⟩
  · rw [length_drop, length_drop]
    omega
  rw [length_append, length_drop, length_drop]
  rw [length_append] at hfuel'
  omega

theorem requests_prefix (stream more : Bytes) :
    crates.requests limits stream <+: crates.requests limits (stream ++ more) :=
  readRequests_prefix (Nat.lt_succ_self _) (Nat.lt_succ_self _)

end Crates

end Tina.Http
