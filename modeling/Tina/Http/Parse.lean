import Tina.Http.ChunkedDecoder
import Tina.Http.Types

/-!
The request head parser and the response head encoder. `httparse`, the constructors of the `http`
crate and UTF-8 decoding stand outside the source: they are the fields of `Crates`, with the laws
that the connection relies on.
-/

namespace Tina.Http

/-- What `httparse::Request` holds after a parse. -/
structure RawRequest where
  method : Option Bytes
  path : Option Bytes
  version : Option Nat
  headers : List (Bytes × Bytes)

inductive RawProgress where
  | incomplete
  | complete (request : RawRequest) (headLen : Nat)
  | tooManyHeaders
  | error

structure Crates where
  /-- `httparse::Request::parse` with the given number of header slots. -/
  parseRequest : Nat → Bytes → RawProgress
  methodFromBytes : Bytes → Option Bytes
  headerNameFromBytes : Bytes → Option Bytes
  headerValueFromBytes : Bytes → Option Bytes
  fromUtf8 : Bytes → Option (List Char)
  canonicalReason : StatusCode → Option Bytes
  /-- A head is not empty and lies in the buffer. -/
  headLen_pos : ∀ {slots buffer request headLen},
    parseRequest slots buffer = .complete request headLen → 0 < headLen
  headLen_le : ∀ {slots buffer request headLen},
    parseRequest slots buffer = .complete request headLen → headLen ≤ buffer.length
  /-- Bytes behind a complete head do not change it. -/
  parseRequest_append : ∀ {slots buffer request headLen} (more : Bytes),
    parseRequest slots buffer = .complete request headLen →
      parseRequest slots (buffer ++ more) = .complete request headLen
  /-- Neither do the bytes that are missing behind it. -/
  parseRequest_take : ∀ {slots buffer request headLen},
    parseRequest slots buffer = .complete request headLen →
      parseRequest slots (buffer.take headLen) = .complete request headLen

structure HttpRequestHead where
  method : Bytes
  path : Bytes
  version : Version
  headers : HeaderMap
  contentLength : Nat
  chunked : Bool
  connectionClose : Bool

def HttpRequestHead.intoRequest (head : HttpRequestHead) (body : Bytes) : HttpRequest where
  method := head.method
  path := head.path
  version := head.version
  headers := head.headers
  body := .buffered body

def HttpRequestHead.intoStreamingRequest (head : HttpRequestHead) (stream : RequestStream) :
    HttpRequest where
  method := head.method
  path := head.path
  version := head.version
  headers := head.headers
  body := .stream stream

inductive ParseProgress where
  | needMore
  | complete (head : HttpRequestHead) (headLen : Nat)
  | failed (error : RequestParseError)

/-- The bytes of an ASCII text. -/
def ascii (text : String) : Bytes :=
  text.toList.map (UInt8.ofNat ·.toNat)

/-- `char::is_whitespace`. -/
def isWhitespace (char : Char) : Bool :=
  let code := char.toNat
  (9 ≤ code && code ≤ 13) || code = 0x20 || code = 0x85 || code = 0xA0 || code = 0x1680 ||
    (0x2000 ≤ code && code ≤ 0x200A) || code = 0x2028 || code = 0x2029 || code = 0x202F ||
    code = 0x205F || code = 0x3000

def trim (text : List Char) : List Char :=
  (text.dropWhile isWhitespace).rdropWhile isWhitespace

def eqIgnoreAsciiCase (text other : List Char) : Bool :=
  text.map Char.toLower = other.map Char.toLower

def isAsciiDigit (char : Char) : Bool :=
  '0' ≤ char && char ≤ '9'

/-- `str::parse::<usize>` on a text of digits. -/
def parseUsize (digits : List Char) : Option Nat :=
  let value := digits.foldl (fun value digit => 10 * value + (digit.toNat - '0'.toNat)) 0
  if 2 ^ 64 ≤ value then none else some value

def isValidOriginFormRequestTarget (target : Bytes) : Bool :=
  target.head? = some 47 && target.take 2 ≠ [47, 47] &&
    target.all fun byte => 32 < byte && byte ≠ 127

structure TransferEncodingFlags where
  chunked : Bool
  unsupported : Bool

/-- One token of a `Transfer-Encoding` value; the state is `unsupported`, `saw_token` and
`final_token_chunked`. -/
def transferEncodingToken : Bool × Bool × Bool → List Char → Bool × Bool × Bool
  | (unsupported, sawToken, finalTokenChunked), token =>
    let token := trim token
    if token = [] then (true, sawToken, finalTokenChunked)
    else if eqIgnoreAsciiCase token "chunked".toList then (unsupported, true, true)
    else (true, true, false)

def parseTransferEncoding (value : List Char) : TransferEncodingFlags :=
  let (unsupported, sawToken, finalTokenChunked) :=
    (value.splitOn ',').foldl transferEncodingToken (false, false, false)
  if sawToken && finalTokenChunked then ⟨true, unsupported⟩ else ⟨false, true⟩

/-- What the header loop of `build_head` has found. -/
structure HeaderScan where
  headers : HeaderMap
  contentLength : Option Nat
  transferEncodingChunked : Bool
  transferEncodingUnsupported : Bool
  connectionClose : Bool

namespace Crates

variable (crates : Crates)

def parseContentLength (limits : HttpLimits) (value : Bytes) (previous : Option Nat) :
    Except RequestParseError Nat :=
  match crates.fromUtf8 value with
  | none => .error .invalidContentLength
  | some text =>
    let trimmed := trim text
    if trimmed = [] || !trimmed.all isAsciiDigit then .error .invalidContentLength
    else
      match parseUsize trimmed with
      | none => .error .invalidContentLength
      | some parsedLen =>
        if limits.maxBodyBytes < parsedLen then .error .bodyTooLarge
        else if previous.any (· ≠ parsedLen) then .error .invalidContentLength
        else .ok parsedLen

/-- The body of the header loop. A `keep-alive` token never changes the flag: the source sets it
to false only where it is false. -/
def scanHeader (limits : HttpLimits) (scan : HeaderScan) (header : Bytes × Bytes) :
    Except RequestParseError HeaderScan :=
  if header.1 = [] then .ok scan
  else
    match crates.headerNameFromBytes header.1, crates.headerValueFromBytes header.2 with
    | some name, some value =>
      let scan' := { scan with headers := scan.headers ++ [(name, value)] }
      if name = ascii "content-length" then
        match crates.parseContentLength limits header.2 scan.contentLength with
        | .error error => .error error
        | .ok parsedLen => .ok { scan' with contentLength := some parsedLen }
      else if name = ascii "transfer-encoding" then
        let flags := parseTransferEncoding ((crates.fromUtf8 header.2).getD [])
        .ok { scan' with
          transferEncodingChunked := scan.transferEncodingChunked || flags.chunked
          transferEncodingUnsupported := scan.transferEncodingUnsupported || flags.unsupported }
      else if name = ascii "connection" then
        let hasClose := (((crates.fromUtf8 header.2).getD []).splitOn ',').any fun token =>
          eqIgnoreAsciiCase (trim token) "close".toList
        .ok { scan' with connectionClose := scan.connectionClose || hasClose }
      else .ok scan'
    | _, _ => .error .badRequestLine

/-- The request line: method, target and version, checked in this order. -/
def buildRequestLine (parsed : RawRequest) :
    Except RequestParseError (Bytes × Bytes × Version) :=
  match parsed.method.bind crates.methodFromBytes with
  | none => .error .badRequestLine
  | some method =>
    match parsed.path with
    | none => .error .badRequestLine
    | some path =>
      if !isValidOriginFormRequestTarget path then .error .unsupportedRequestTarget
      else
        match parsed.version with
        | some 0 => .ok (method, path, .http10)
        | some 1 => .ok (method, path, .http11)
        | some _ => .error .unsupportedHttpVersion
        | none => .error .badRequestLine

def buildHead (limits : HttpLimits) (parsed : RawRequest) :
    Except RequestParseError HttpRequestHead := do
  let (method, path, version) ← crates.buildRequestLine parsed
  let scan ← parsed.headers.foldlM (crates.scanHeader limits)
    { headers := [], contentLength := none, transferEncodingChunked := false,
      transferEncodingUnsupported := false, connectionClose := version = .http10 }
  if scan.transferEncodingUnsupported then throw .unsupportedTransferEncoding
  if scan.transferEncodingChunked && scan.contentLength.isSome then throw .invalidContentLength
  if scan.transferEncodingChunked && limits.inboundStreamChunkSize.isNone then
    throw .unsupportedTransferEncoding
  return {
    method
    path
    version
    headers := scan.headers
    contentLength := scan.contentLength.getD 0
    chunked := scan.transferEncodingChunked
    connectionClose := scan.connectionClose }

def parseRequestHead (limits : HttpLimits) (buffer : Bytes) : ParseProgress :=
  match crates.parseRequest limits.maxHeaders buffer with
  | .incomplete =>
    if limits.maxHeaderBytes ≤ buffer.length then .failed .headersTooLarge else .needMore
  | .complete request headLen =>
    if limits.maxHeaderBytes < headLen then .failed .headersTooLarge
    else
      match crates.buildHead limits request with
      | .ok head => .complete head headLen
      | .error error => .failed error
  | .tooManyHeaders => .failed .headersTooLarge
  | .error => .failed .badRequestLine

/-- The framing lines of a response, picked from the kind of its body. -/
def framingLines (body : HttpResponseBody) : Bytes :=
  match body, body.declaredLength with
  | .webSocket, _ => []
  | _, some length => ascii "Content-Length: " ++ ascii (toString length) ++ CRLF
  | _, none => ascii "Transfer-Encoding: chunked\r\n"

/-- Headers the response carries on the wire: framing is the encoder's, and so is `Connection`
when the connection closes. -/
def wireHeaders (response : HttpResponse) (connectionClose : Bool) : HeaderMap :=
  response.headers.filter fun header =>
    header.1 ≠ ascii "content-length" && header.1 ≠ ascii "transfer-encoding" &&
      !(connectionClose && header.1 = ascii "connection")

def encodeResponseHead (response : HttpResponse) (connectionClose : Bool) : Bytes :=
  let version := match response.version with
    | .http10 => ascii "HTTP/1.0"
    | .http11 => ascii "HTTP/1.1"
  version ++ [32] ++ ascii (toString response.status) ++ [32] ++
    (crates.canonicalReason response.status).getD [] ++ CRLF ++
    (wireHeaders response connectionClose).flatMap
      (fun header => header.1 ++ ascii ": " ++ header.2 ++ CRLF) ++
    framingLines response.body ++
    (if connectionClose then ascii "Connection: close\r\n" else []) ++ CRLF

variable {crates}

section

variable {limits : HttpLimits} {buffer : Bytes} {head : HttpRequestHead} {headLen : Nat}

/-- When a head is complete. -/
theorem parseRequestHead_eq_complete :
    crates.parseRequestHead limits buffer = .complete head headLen ↔
      ∃ request, crates.parseRequest limits.maxHeaders buffer = .complete request headLen ∧
        headLen ≤ limits.maxHeaderBytes ∧ crates.buildHead limits request = .ok head := by
  unfold parseRequestHead
  constructor
  · intro hparse
    split at hparse
    · split at hparse <;> cases hparse
    · rename_i request n hraw
      split at hparse
      · cases hparse
      rename_i hlen
      split at hparse
      · rename_i head' hbuild
        cases hparse
        exact ⟨request, hraw, Nat.le_of_not_lt hlen, hbuild⟩
      · cases hparse
    · cases hparse
    · cases hparse
  · rintro ⟨request, hraw, hlen, hbuild⟩
    simp [hraw, hbuild, not_lt.2 hlen]

section

variable (hparse : crates.parseRequestHead limits buffer = .complete head headLen)

include hparse

theorem parseRequestHead_pos : 0 < headLen := by
  obtain ⟨_, hraw, -⟩ := parseRequestHead_eq_complete.1 hparse
  exact crates.headLen_pos hraw

theorem parseRequestHead_le : headLen ≤ buffer.length := by
  obtain ⟨_, hraw, -⟩ := parseRequestHead_eq_complete.1 hparse
  exact crates.headLen_le hraw

end

theorem parseRequestHead_append (more : Bytes)
    (hparse : crates.parseRequestHead limits buffer = .complete head headLen) :
    crates.parseRequestHead limits (buffer ++ more) = .complete head headLen := by
  obtain ⟨request, hraw, hrest⟩ := parseRequestHead_eq_complete.1 hparse
  exact parseRequestHead_eq_complete.2 ⟨request, crates.parseRequest_append more hraw, hrest⟩

theorem parseRequestHead_take
    (hparse : crates.parseRequestHead limits buffer = .complete head headLen) :
    crates.parseRequestHead limits (buffer.take headLen) = .complete head headLen := by
  obtain ⟨request, hraw, hrest⟩ := parseRequestHead_eq_complete.1 hparse
  exact parseRequestHead_eq_complete.2 ⟨request, crates.parseRequest_take hraw, hrest⟩

end

end Crates

end Tina.Http
