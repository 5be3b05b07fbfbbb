import Tina.Http.Parse
import Tina.Http2.Frame

/-!
Header blocks: the fast path for literal fields, the checks in front of the HPACK decoder, and
what a decoded header list becomes. The `hpack` and `http` crates and UTF-8 decoding stand
outside the source: they are the fields of `Crates`. The intern cache of request paths only
shares memory and is left out.
-/

namespace Tina.Http2

open Http (Bytes StatusCode ascii isAsciiDigit isWhitespace trim eqIgnoreAsciiCase parseUsize)

abbrev Text := List Char

/-- The header map of the `http` crate: the entries in the order they were appended. -/
abbrev HeaderMap := List (Text × Text)

def HeaderMap.get (headers : HeaderMap) (name : Text) : Option Text :=
  (headers.find? (·.1 = name)).map (·.2)

def asBytes (text : Text) : Bytes :=
  text.flatMap String.utf8EncodeChar

structure Crates where
  /-- `hpack::Decoder::decode`: the fields of a block, given the blocks that the decoder has been
  handed before it. -/
  decode : List Bytes → Bytes → Option (List (Bytes × Bytes))
  fromUtf8 : Bytes → Option Text
  methodFromBytes : Text → Option Text
  statusFromBytes : Text → Option StatusCode
  headerNameFromBytes : Text → Option Text
  headerValueFromStr : Text → Option Text
  /-- `HeaderValue::to_str`. -/
  toStr : Text → Option Text
  /-- Names in lower case are kept as they are. -/
  headerName_eq : ∀ {name stored}, (asBytes name).any (fun byte => 65 ≤ byte && byte ≤ 90) = false →
      headerNameFromBytes name = some stored → stored = name
  headerValue_eq : ∀ {value stored}, headerValueFromStr value = some stored → stored = value
  toStr_eq : ∀ {value text}, toStr value = some text → text = value

structure HeaderBlock where
  method : Option Text := none
  path : Option Text := none
  sawScheme : Bool := false
  sawAuthority : Bool := false
  authorityNonEmpty : Bool := false
  status : Option StatusCode := none
  headers : HeaderMap := []
  bytes : Nat := 0
  sawRegular : Bool := false
  hostNonEmpty : Bool := false
  grpcContentType : Bool := false
  grpcEncodingUnsupported : Bool := false
  contentLength : Option Nat := none
  sawContentLength : Bool := false
  grpcStatus : Option Nat := none
  sawGrpcStatus : Bool := false
  grpcMessage : Option Text := none

section

def isAsciiUppercase (byte : UInt8) : Bool :=
  65 ≤ byte && byte ≤ 90

def isTokenByte (byte : UInt8) : Bool :=
  (48 ≤ byte && byte ≤ 57) || (65 ≤ byte && byte ≤ 90) || (97 ≤ byte && byte ≤ 122) ||
    (ascii "!#$%&*+-.^_|~").contains byte || byte = 39 || byte = 96

def isValidHeaderName (name : Text) : Bool :=
  !name.isEmpty && (asBytes name).all isTokenByte

def isValidHeaderValue (value : Text) : Bool :=
  (asBytes value).all fun byte => byte = 9 || (32 ≤ byte && byte ≠ 127)

def parseContentLength (value : Text) : Except Http2ProtocolError Nat :=
  if value.isEmpty || !(asBytes value).all (fun byte => 48 ≤ byte && byte ≤ 57) then
    .error .contentLengthMismatch
  else
    match parseUsize value with
    | none => .error .contentLengthMismatch
    | some length => .ok length

/-- `str::parse::<u16>`: a sign, then digits. -/
def parseU16 (text : Text) : Option Nat :=
  let digits := if text.head? = some '+' then text.tail else text
  if digits.isEmpty || !digits.all isAsciiDigit then none
  else
    let value := digits.foldl (fun value digit => 10 * value + (digit.toNat - '0'.toNat)) 0
    if 2 ^ 16 ≤ value then none else some value

def isGrpcContentType (value : Text) : Bool :=
  let contentType := trim (value.takeWhile (· ≠ ';'))
  eqIgnoreAsciiCase contentType "application/grpc".toList ||
    eqIgnoreAsciiCase contentType "application/grpc+proto".toList

def methodName : Text := ":method".toList
def pathName : Text := ":path".toList
def schemeName : Text := ":scheme".toList
def authorityName : Text := ":authority".toList
def statusName : Text := ":status".toList
def hostName : Text := "host".toList
def contentTypeName : Text := "content-type".toList
def grpcEncodingName : Text := "grpc-encoding".toList
def contentLengthName : Text := "content-length".toList
def teName : Text := "te".toList
def grpcStatusName : Text := "grpc-status".toList
def grpcMessageName : Text := "grpc-message".toList

/-- The names that a connection may not forward. -/
def connectionHeaders : List Text :=
  ["connection", "keep-alive", "proxy-connection", "transfer-encoding", "upgrade"].map String.toList

variable (crates : Crates)

def addPseudoHeader (out : HeaderBlock) (name value : Text) :
    Except Http2ProtocolError HeaderBlock :=
  if out.sawRegular then .error .invalidPseudoHeaders
  else if name = methodName then
    if out.method.isSome then .error .invalidPseudoHeaders
    else
      match crates.methodFromBytes value with
      | none => .error .invalidPseudoHeaders
      | some method => .ok { out with method := some method }
  else if name = pathName then
    if out.path.isSome then .error .invalidPseudoHeaders
    else .ok { out with path := some value }
  else if name = schemeName then
    if out.sawScheme then .error .invalidPseudoHeaders
    else .ok { out with sawScheme := true }
  else if name = authorityName then
    if out.sawAuthority then .error .invalidPseudoHeaders
    else .ok { out with sawAuthority := true, authorityNonEmpty := !value.isEmpty }
  else if name = statusName then
    if out.status.isSome then .error .invalidPseudoHeaders
    else
      match crates.statusFromBytes value with
      | none => .error .invalidPseudoHeaders
      | some status => .ok { out with status := some status }
  else .error .invalidPseudoHeaders

/-- The facts that admission and gRPC read from a regular field. -/
def addFacts (out : HeaderBlock) (name value : Text) : Except Http2ProtocolError HeaderBlock :=
  if name = hostName then .ok { out with hostNonEmpty := !value.isEmpty }
  else if name = contentTypeName then
    .ok { out with grpcContentType := isGrpcContentType value }
  else if name = grpcEncodingName then
    if eqIgnoreAsciiCase value "identity".toList then .ok out
    else .ok { out with grpcEncodingUnsupported := true }
  else if name = contentLengthName then
    if out.sawContentLength then .error .contentLengthMismatch
    else
      match parseContentLength value with
      | .error error => .error error
      | .ok length => .ok { out with contentLength := some length, sawContentLength := true }
  else if name = grpcStatusName then
    if out.sawGrpcStatus then .ok out
    else .ok { out with sawGrpcStatus := true, grpcStatus := parseU16 (trim value) }
  else if name = grpcMessageName then
    if out.grpcMessage.isNone then .ok { out with grpcMessage := some value } else .ok out
  else .ok out

/-- A regular field goes to the public map only where one is kept. -/
def storeHeader (store : Bool) (out : HeaderBlock) (name value : Text) :
    Except Http2ProtocolError HeaderBlock :=
  if store then
    match crates.headerNameFromBytes name with
    | none => .error .invalidPseudoHeaders
    | some headerName =>
      match crates.headerValueFromStr value with
      | none => .error .invalidPseudoHeaders
      | some headerValue => .ok { out with headers := out.headers ++ [(headerName, headerValue)] }
  else .ok out

def addRegularHeader (store : Bool) (out : HeaderBlock) (name value : Text) :
    Except Http2ProtocolError HeaderBlock :=
  if (asBytes name).any isAsciiUppercase then .error .invalidPseudoHeaders
  else if connectionHeaders.contains name then .error .invalidPseudoHeaders
  else if name = teName && !eqIgnoreAsciiCase (trim value) "trailers".toList then
    .error .invalidPseudoHeaders
  else if !isValidHeaderName name || !isValidHeaderValue value then .error .invalidPseudoHeaders
  else
    match addFacts { out with sawRegular := true } name value with
    | .error error => .error error
    | .ok out => storeHeader crates store out name value

def addHeaderWithStorage (store : Bool) (maxHeaderBytes : Nat) (out : HeaderBlock)
    (name value : Text) : Except Http2ProtocolError HeaderBlock :=
  let bytes := out.bytes + ((asBytes name).length + (asBytes value).length)
  if maxHeaderBytes < bytes then .error .headersTooLarge
  else if name.head? = some ':' then addPseudoHeader crates { out with bytes } name value
  else addRegularHeader crates store { out with bytes } name value

/-- One field as the decoder returns it. -/
def addDecoded (store : Bool) (maxHeaderBytes : Nat) (out : HeaderBlock) (field : Bytes × Bytes) :
    Except Http2ProtocolError HeaderBlock :=
  match crates.fromUtf8 field.1, crates.fromUtf8 field.2 with
  | some name, some value => addHeaderWithStorage crates store maxHeaderBytes out name value
  | _, _ => .error .hpackUnsupported

/-- The loop over a decoded header list. -/
def readFields (store : Bool) (maxHeaderBytes : Nat) (out : HeaderBlock) :
    List (Bytes × Bytes) → Except Http2ProtocolError HeaderBlock
  | [] => .ok out
  | field :: rest =>
    match addDecoded crates store maxHeaderBytes out field with
    | .error error => .error error
    | .ok out => readFields store maxHeaderBytes out rest

end

/-- The continuation octets of `decode_hpack_integer_7`. -/
def decodeHpackOctets (value shift cursor : Nat) : Bytes → Except Http2ProtocolError (Nat × Nat)
  | [] => .error .hpackUnsupported
  | byte :: rest =>
    let part := (byte &&& 0x7f).toNat
    -- `checked_shl` refuses the shift amount only: bits that leave the word are lost
    let value := value + part * 2 ^ shift % 2 ^ 64
    if 2 ^ 64 ≤ value then .error .hpackUnsupported
    else if byte &&& 0x80 = 0 then .ok (value, cursor + 1)
    else if 64 ≤ shift + 7 then .error .hpackUnsupported
    else decodeHpackOctets value (shift + 7) (cursor + 1) rest

def decodeHpackInteger7 (input : Bytes) : Except Http2ProtocolError (Nat × Nat) :=
  match input with
  | [] => .error .hpackUnsupported
  | byte :: rest =>
    let first := (byte &&& 0x7f).toNat
    if first < 0x7f then .ok (first, 1) else decodeHpackOctets 0x7f 0 1 rest

/-- The continuation octets of `hpack_take_integer`: at most five octets in all. -/
def hpackTakeOctets (value shift total : Nat) : Bytes → Option (Nat × Nat)
  | [] => none
  | byte :: rest =>
    let value := value + (byte &&& 0x7f).toNat * 2 ^ shift
    if byte &&& 0x80 = 0 then some (value, total + 1)
    else if total + 1 = 5 then none
    else hpackTakeOctets value (shift + 7) (total + 1) rest

def hpackTakeInteger (buf : Bytes) (prefixBits : Nat) : Option (Nat × Nat) :=
  match buf with
  | [] => none
  | first :: rest =>
    let mask := 2 ^ prefixBits - 1
    let value := first.toNat % 2 ^ prefixBits
    if value < mask then some (value, 1) else hpackTakeOctets value 0 1 rest

def hpackSkipString (buf : Bytes) : Option Bytes :=
  match hpackTakeInteger buf 7 with
  | none => none
  | some (len, consumed) =>
    if buf.length < consumed + len then none else some (buf.drop (consumed + len))

/-- The representation at the front of a block: its integer prefix, and whether strings follow. -/
def representation (first : UInt8) : Nat × Bool :=
  if first &&& 0x80 ≠ 0 then (7, false)
  else if first &&& 0x40 ≠ 0 then (6, true)
  else if first &&& 0x20 ≠ 0 then (5, false)
  else (4, true)

/-- The strings of a literal field. -/
def hpackSkipLiteral (index : Nat) (buf : Bytes) : Option Bytes :=
  if index = 0 then (hpackSkipString buf).bind hpackSkipString else hpackSkipString buf

/-- Each round takes at least one byte, so the length of the block is fuel enough. -/
def hpackRepresentationsSound : Nat → Bytes → Bool
  | _, [] => true
  | 0, _ :: _ => false
  | fuel + 1, first :: rest =>
    match hpackTakeInteger (first :: rest) (representation first).1 with
    | none => false
    | some (index, consumed) =>
      let buf := (first :: rest).drop consumed
      if (representation first).2 then
        match hpackSkipLiteral index buf with
        | none => false
        | some buf => hpackRepresentationsSound fuel buf
      else hpackRepresentationsSound fuel buf

def hpackBlockIsSound (block : Bytes) : Bool :=
  hpackRepresentationsSound block.length block

section

variable (crates : Crates)

/-- A plain string and the bytes it takes; `none` for a Huffman coded one. -/
def decodePlainHpackString (input : Bytes) : Except Http2ProtocolError (Option (Text × Nat)) :=
  match input with
  | [] => .error .hpackUnsupported
  | first :: _ =>
    if first &&& 0x80 ≠ 0 then .ok none
    else
      match decodeHpackInteger7 input with
      | .error error => .error error
      | .ok (len, start) =>
        if input.length < start + len then .error .hpackUnsupported
        else
          match crates.fromUtf8 ((input.drop start).take len) with
          | none => .error .hpackUnsupported
          | some text => .ok (some (text, start + len))

/-- The fast path: literal fields without indexing, with new names and plain strings only. `none`
hands the block to the full decoder. -/
def decodeFastLiteralHeaders (store : Bool) (maxHeaderBytes : Nat) :
    Nat → HeaderBlock → Bytes → Except Http2ProtocolError (Option HeaderBlock)
  | _, out, [] => .ok (some out)
  | 0, _, _ :: _ => .ok none
  | fuel + 1, out, first :: block =>
    if first ≠ 0 then .ok none
    else
      match decodePlainHpackString crates block with
      | .error error => .error error
      | .ok none => .ok none
      | .ok (some (name, used)) =>
        match decodePlainHpackString crates (block.drop used) with
        | .error error => .error error
        | .ok none => .ok none
        | .ok (some (value, valueUsed)) =>
          match addHeaderWithStorage crates store maxHeaderBytes out name value with
          | .error error => .error error
          | .ok out =>
            decodeFastLiteralHeaders store maxHeaderBytes fuel out (block.drop (used + valueUsed))

/-- Decode a block, with the blocks that the decoder has seen, and what it has seen then. The fast
path and a refused block leave the decoder alone. -/
def decodeHeadersBlockWithStorage (store : Bool) (maxHeaderBytes : Nat) (decoder : List Bytes)
    (block : Bytes) : Except Http2ProtocolError HeaderBlock × List Bytes :=
  match decodeFastLiteralHeaders crates store maxHeaderBytes block.length {} block with
  | .error error => (.error error, decoder)
  | .ok (some headers) => (.ok headers, decoder)
  | .ok none =>
    if !hpackBlockIsSound block then (.error .hpackUnsupported, decoder)
    else
      match crates.decode decoder block with
      | none => (.error .hpackUnsupported, decoder ++ [block])
      | some fields => (readFields crates store maxHeaderBytes {} fields, decoder ++ [block])

def decodeHeadersBlockWith := decodeHeadersBlockWithStorage crates true
def decodeHeadersBlockCompactWith := decodeHeadersBlockWithStorage crates false

end

/-- The digits that `encode_integer` writes after a full prefix. -/
def encodeIntegerOctets : Nat → Nat → Bytes
  | 0, value => [UInt8.ofNat value]
  | fuel + 1, value =>
    if 128 ≤ value then (UInt8.ofNat (value % 128) ||| 0x80) :: encodeIntegerOctets fuel
      (value / 128)
    else [UInt8.ofNat value]

def encodeInteger (value prefixBits : Nat) (pattern : UInt8) : Bytes :=
  let max := 2 ^ prefixBits - 1
  if value < max then [pattern ||| UInt8.ofNat value]
  else (pattern ||| UInt8.ofNat max) :: encodeIntegerOctets (value - max) (value - max)

def encodeString (value : Text) : Bytes :=
  encodeInteger (asBytes value).length 7 0 ++ asBytes value

def encodeLiteralHeader (name value : Text) : Bytes :=
  0 :: (encodeString name ++ encodeString value)

def validateResponseHeaders (headers : HeaderBlock) : Except Http2ProtocolError Unit :=
  if headers.status.isNone then .error .invalidPseudoHeaders
  else if headers.method.isSome || headers.path.isSome || headers.sawScheme ||
      headers.sawAuthority then .error .invalidPseudoHeaders
  else .ok ()

def validateTrailerBlock (headers : HeaderBlock) : Except Http2ProtocolError Unit :=
  if headers.method.isSome || headers.path.isSome || headers.sawScheme ||
      headers.sawAuthority || headers.status.isSome then .error .invalidTrailerPseudoHeader
  else if headers.sawContentLength then .error .contentLengthMismatch
  else .ok ()

/-- Libraries that know ASCII only and take every name and value. -/
def asciiCrates : Crates where
  decode := fun _ _ => none
  fromUtf8 := fun bytes =>
    if bytes.all (· < 128) then some (bytes.map (Char.ofNat ·.toNat)) else none
  methodFromBytes := some
  statusFromBytes := parseU16
  headerNameFromBytes := some
  headerValueFromStr := some
  toStr := fun value =>
    if value.all fun char => 32 ≤ char.toNat && char.toNat < 127 then some value else none
  headerName_eq := fun _ h => (Option.some.inj h).symm
  headerValue_eq := fun h => (Option.some.inj h).symm
  toStr_eq := by
    intro value text h
    split at h
    · exact (Option.some.inj h).symm
    · cases h

end Tina.Http2
