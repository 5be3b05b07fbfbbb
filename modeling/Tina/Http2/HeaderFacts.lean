import Tina.Http2.Headers

/-!
The compact reading of a header list agrees with the storing one on everything but the map, and the
gRPC facts of a block are the first values that its map holds.
-/

namespace Tina.Http2

open HeaderMap HeaderBlock
open Http (Bytes trim)

/-- A block without its public map. -/
abbrev HeaderBlock.compact (block : HeaderBlock) : HeaderBlock :=
  { block with headers := [] }

section

variable (crates : Crates) (out : HeaderBlock) (name value : Text)

theorem addPseudoHeader_compact : addPseudoHeader crates out.compact name value =
      (addPseudoHeader crates out name value).map compact := by
  unfold addPseudoHeader
  -- methods and statuses are parsed; every other field is taken as it is
  repeat rw [apply_ite (Except.map compact)]
  cases crates.methodFromBytes value <;> cases crates.statusFromBytes value <;> rfl

theorem addFacts_compact :
    addFacts out.compact name value = (addFacts out name value).map compact := by
  unfold addFacts
  repeat rw [apply_ite (Except.map compact)]
  cases parseContentLength value <;> rfl

variable {crates out name value} {block : HeaderBlock} {maxHeaderBytes : Nat}

theorem storeHeader_compact (h : storeHeader crates true out name value = .ok block) :
    block.compact = out.compact := by
  simp only [storeHeader, if_true] at h
  cases hname : crates.headerNameFromBytes name with
  | none => simp [hname] at h
  | some =>
  cases hvalue : crates.headerValueFromStr value with
  | none => simp [hname, hvalue] at h
  | some =>
    simp only [hname, hvalue, Except.ok.injEq] at h
    rw [← h]

theorem addRegularHeader_compact (h : addRegularHeader crates true out name value = .ok block) :
    addRegularHeader crates false out.compact name value = .ok block.compact := by
  unfold addRegularHeader at h ⊢
  split_ifs at h ⊢
  have hfacts : addFacts { out.compact with sawRegular := true } name value = _ :=
    addFacts_compact { out with sawRegular := true } name value
  cases hout : addFacts { out with sawRegular := true } name value with
  | error => simp [hout] at h
  | ok =>
  simp only [hout] at h hfacts
  rw [hfacts, storeHeader_compact h]
  rfl

theorem addHeaderWithStorage_compact
    (h : addHeaderWithStorage crates true maxHeaderBytes out name value = .ok block) :
    addHeaderWithStorage crates false maxHeaderBytes out.compact name value =
      .ok block.compact := by
  unfold addHeaderWithStorage at h ⊢
  dsimp only at h ⊢
  split_ifs at h ⊢ with hmax hpseudo
  · have hcompact := addPseudoHeader_compact crates
      { out with bytes := out.bytes + ((asBytes name).length + (asBytes value).length) } name value
    rw [h] at hcompact
    exact hcompact
  · exact addRegularHeader_compact h

variable {fields : List (Bytes × Bytes)}

theorem readFields_compact (h : readFields crates true maxHeaderBytes out fields = .ok block) :
    readFields crates false maxHeaderBytes out.compact fields = .ok block.compact := by
  induction fields generalizing out with
  | nil =>
    cases h
    rfl
  | cons field _ ih =>
  unfold readFields addDecoded at h ⊢
  cases hname : crates.fromUtf8 field.1 with
  | none => simp [hname] at h
  | some name =>
  cases hvalue : crates.fromUtf8 field.2 with
  | none => simp [hname, hvalue] at h
  | some value =>
  simp only [hname, hvalue] at h ⊢
  cases hadd : addHeaderWithStorage crates true maxHeaderBytes out name value with
  | error => simp [hadd] at h
  | ok =>
  simp only [hadd] at h
  simp only [addHeaderWithStorage_compact hadd]
  exact ih h

end

theorem HeaderMap.get_append (headers more : HeaderMap) (name : Text) :
    get (headers ++ more) name = (headers.get name).or (more.get name) := by
  simp [get, List.find?_append, Option.map_or]

/-- The gRPC facts of a block are the first values in its map. -/
structure HeaderBlock.Reported (block : HeaderBlock) : Prop where
  saw : block.sawGrpcStatus = (block.headers.get grpcStatusName).isSome
  status : block.grpcStatus =
    (block.headers.get grpcStatusName).bind fun value => parseU16 (trim value)
  message : block.grpcMessage = block.headers.get grpcMessageName

/-- The first value of a field in a header list. -/
def firstValue (crates : Crates) (name : Text) (fields : List (Bytes × Bytes)) : Option Text :=
  (fields.find? (crates.fromUtf8 ·.1 = some name)).bind fun field =>
    crates.fromUtf8 field.2

section

variable {crates : Crates} {out block : HeaderBlock} {name value : Text} {maxHeaderBytes : Nat}

/-- A block with the map and the gRPC facts of another one. -/
abbrev HeaderBlock.withFacts (block other : HeaderBlock) : HeaderBlock :=
  { block with
    headers := other.headers
    sawGrpcStatus := other.sawGrpcStatus
    grpcStatus := other.grpcStatus
    grpcMessage := other.grpcMessage }

/-- Fields that carry no gRPC fact leave the facts and the map as they were. -/
theorem eq_withFacts_of_ok {result : Except Http2ProtocolError HeaderBlock}
    (hmap : result = result.map (·.withFacts out)) (h : result = .ok block) :
    block = block.withFacts out := by
  rw [h] at hmap
  exact Except.ok.inj hmap

theorem addPseudoHeader_facts (h : addPseudoHeader crates out name value = .ok block) :
    block = block.withFacts out := by
  refine eq_withFacts_of_ok ?_ h
  unfold addPseudoHeader
  repeat rw [apply_ite (Except.map _)]
  cases crates.methodFromBytes value <;> cases crates.statusFromBytes value <;> rfl

theorem addFacts_of_ne (hstatus : name ≠ grpcStatusName) (hmessage : name ≠ grpcMessageName)
    (h : addFacts out name value = .ok block) : block = block.withFacts out := by
  refine eq_withFacts_of_ok ?_ h
  unfold addFacts
  rw [if_neg hstatus, if_neg hmessage]
  repeat rw [apply_ite (Except.map _)]
  cases parseContentLength value <;> rfl

theorem storeHeader_headers (hname : (asBytes name).any isAsciiUppercase = false)
    (h : storeHeader crates true out name value = .ok block) :
    block = { out with headers := out.headers ++ [(name, value)] } := by
  simp only [storeHeader, if_true] at h
  cases hstored : crates.headerNameFromBytes name with
  | none => simp [hstored] at h
  | some =>
  cases hvalue : crates.headerValueFromStr value with
  | none => simp [hstored, hvalue] at h
  | some =>
  simp only [hstored, hvalue, Except.ok.injEq] at h
  obtain rfl := crates.headerName_eq hname hstored
  obtain rfl := crates.headerValue_eq hvalue
  exact h.symm

theorem HeaderMap.get_singleton (name value key : Text) :
    get [(name, value)] key = if name = key then some value else none := by
  by_cases hkey : name = key <;> simp [get, List.find?, hkey]

theorem addFacts_grpcStatus (out : HeaderBlock) (value : Text) :
    addFacts out grpcStatusName value = .ok (if out.sawGrpcStatus then out
        else { out with sawGrpcStatus := true, grpcStatus := parseU16 (trim value) }) := by
  have hhost : grpcStatusName ≠ hostName := by decide
  have htype : grpcStatusName ≠ contentTypeName := by decide
  have hencoding : grpcStatusName ≠ grpcEncodingName := by decide
  have hlength : grpcStatusName ≠ contentLengthName := by decide
  simp only [addFacts, hhost, htype, hencoding, hlength, if_false, if_true]
  split_ifs <;> rfl

theorem addFacts_grpcMessage (out : HeaderBlock) (value : Text) :
    addFacts out grpcMessageName value =
      .ok { out with grpcMessage := out.grpcMessage.or (some value) } := by
  have hhost : grpcMessageName ≠ hostName := by decide
  have htype : grpcMessageName ≠ contentTypeName := by decide
  have hencoding : grpcMessageName ≠ grpcEncodingName := by decide
  have hlength : grpcMessageName ≠ contentLengthName := by decide
  have hstatus : grpcMessageName ≠ grpcStatusName := by decide
  simp only [addFacts, hhost, htype, hencoding, hlength, hstatus, if_false, if_true]
  cases hout : out.grpcMessage with
  | none => rfl
  | some =>
    rw [if_neg (by simp), Option.some_or, ← hout]

/-- What a regular field leaves of the gRPC facts. -/
theorem addFacts_facts (h : addFacts out name value = .ok block) : block.headers = out.headers ∧
      block.sawGrpcStatus = (out.sawGrpcStatus || name = grpcStatusName) ∧
      block.grpcStatus =
        (if name = grpcStatusName ∧ out.sawGrpcStatus = false then parseU16 (trim value)
         else out.grpcStatus) ∧
      block.grpcMessage =
        (if name = grpcMessageName then out.grpcMessage.or (some value) else out.grpcMessage) := by
  have hnames : grpcStatusName ≠ grpcMessageName := by decide
  by_cases hstatus : name = grpcStatusName
  · subst hstatus
    rw [addFacts_grpcStatus] at h
    cases h
    cases hsaw : out.sawGrpcStatus <;> simp [hsaw, hnames]
  by_cases hmessage : name = grpcMessageName
  · subst hmessage
    rw [addFacts_grpcMessage] at h
    cases h
    simp [hstatus]
  · rw [addFacts_of_ne hstatus hmessage h]
    simp [hstatus, hmessage]

theorem addRegularHeader_reported (h : addRegularHeader crates true out name value = .ok block)
    (hout : out.Reported) :
    block.headers = out.headers ++ [(name, value)] ∧ block.Reported := by
  unfold addRegularHeader at h
  split_ifs at h with hcase
  cases hfacts : addFacts { out with sawRegular := true } name value with
  | error => simp [hfacts] at h
  | ok =>
  simp only [hfacts] at h
  obtain rfl := storeHeader_headers (by simpa using hcase) h
  obtain ⟨hheaders, hsaw, hstatus, hmessage⟩ := addFacts_facts hfacts
  refine ⟨by simp [hheaders], ?_, ?_, ?_⟩
  · simp only [hheaders, hsaw, hout.saw, get_append, get_singleton]
    by_cases hname : name = grpcStatusName <;> simp [hname]
  · simp only [hheaders, hstatus, hout.status, hout.saw, get_append, get_singleton]
    by_cases hname : name = grpcStatusName
    · cases hget : out.headers.get grpcStatusName <;> simp [hname]
    · simp [hname]
  · simp only [hheaders, hmessage, hout.message, get_append, get_singleton]
    by_cases hname : name = grpcMessageName <;> simp [hname]

/-- One field of a header list: a pseudo header, or an entry of the map. -/
theorem addHeaderWithStorage_reported
    (h : addHeaderWithStorage crates true maxHeaderBytes out name value = .ok block)
    (hout : out.Reported) :
    block.headers = out.headers ++ (if name.head? = some ':' then [] else [(name, value)]) ∧
      block.Reported := by
  unfold addHeaderWithStorage at h
  dsimp only at h
  have hbytes : Reported { out with
      bytes := out.bytes + ((asBytes name).length + (asBytes value).length) } :=
    { hout with }
  split_ifs at h with hmax hpseudo
  · rw [addPseudoHeader_facts h, if_pos hpseudo]
    exact ⟨by simp, hout.saw, hout.status, hout.message⟩
  rw [if_neg hpseudo]
  obtain ⟨hheaders, hblock⟩ := addRegularHeader_reported h hbytes
  exact ⟨hheaders, hblock⟩

/-- A list that is read with its map: the facts are those of the map, and the map gives the first
value of every regular field. -/
theorem readFields_reported
    (h : readFields crates true maxHeaderBytes out fields = .ok block) (hout : out.Reported) :
    block.Reported ∧ ∀ key : Text, key.head? ≠ some ':' →
      block.headers.get key = (out.headers.get key).or (firstValue crates key fields) := by
  induction fields generalizing out with
  | nil =>
    cases h
    exact ⟨hout, fun key _ => by simp [firstValue]⟩
  | cons field _ ih =>
  unfold readFields addDecoded at h
  cases hname : crates.fromUtf8 field.1 with
  | none => simp [hname] at h
  | some name =>
  cases hvalue : crates.fromUtf8 field.2 with
  | none => simp [hname, hvalue] at h
  | some value =>
  simp only [hname, hvalue] at h
  cases hadd : addHeaderWithStorage crates true maxHeaderBytes out name value with
  | error => simp [hadd] at h
  | ok =>
  simp only [hadd] at h
  obtain ⟨hheaders, hadded⟩ := addHeaderWithStorage_reported hadd hout
  obtain ⟨hblock, hget⟩ := ih h hadded
  refine ⟨hblock, fun key hkey => ?_⟩
  rw [hget key hkey, hheaders, get_append, Option.or_assoc]
  congr 1
  by_cases heq : name = key
  · subst heq
    simp [firstValue, hkey, get_singleton, hname, hvalue]
  have hskip : HeaderMap.get (if name.head? = some ':' then [] else [(name, value)]) key =
      none := by
    split_ifs <;> simp [HeaderMap.get, heq]
  rw [hskip, Option.none_or]
  simp [firstValue, hname, heq]

end

end Tina.Http2
