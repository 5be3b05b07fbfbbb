import Mathlib.Data.List.DropRight
import Mathlib.Tactic.Ring

/-!
The incremental decoder for chunked request bodies, and what the bytes of such a body are.
-/

namespace Tina.Http

def CRLF : List UInt8 := [13, 10]

inductive ChunkedError where
  | badChunkSize
  | missingCrlf
  | bodyTooLarge
  | trailersNotSupported

/-- The offset of the first line end. -/
def findCrlf : List UInt8 → Option Nat
  | [] => none
  | byte :: rest =>
    if byte = 13 ∧ rest.head? = some 10 then some 0 else (findCrlf rest).map (· + 1)

def isBlank (byte : UInt8) : Bool :=
  byte = 32 || byte = 9

def hexDigit (byte : UInt8) : Option Nat :=
  if 48 ≤ byte ∧ byte ≤ 57 then some (byte.toNat - 48)
  else if 97 ≤ byte ∧ byte ≤ 102 then some (byte.toNat - 87)
  else if 65 ≤ byte ∧ byte ≤ 70 then some (byte.toNat - 55)
  else none

def parseChunkSizeLine (line : List UInt8) : Except ChunkedError Nat :=
  if line = [] then .error .badChunkSize
  else if line.head?.any isBlank then .error .badChunkSize
  else
    let sizePart := line.takeWhile (· ≠ 59)
    let trimmed := if sizePart.all isBlank then sizePart else sizePart.rdropWhile isBlank
    if trimmed = [] then .error .badChunkSize
    else
      match trimmed.mapM hexDigit with
      | none => .error .badChunkSize
      | some digits =>
        let size := digits.foldl (fun size digit => 16 * size + digit) 0
        if 2 ^ 64 ≤ size then .error .badChunkSize else .ok size

def MAX_SIZE_LINE_LEN : Nat := 64

inductive ChunkedState where
  | size
  | data (remaining : Nat)
  | dataCrlf
  | trailers
  | done
deriving DecidableEq

inductive ChunkedProgress where
  | needMore
  | chunk (bytes : List UInt8)
  | complete
  | failed (error : ChunkedError)

inductive SizeResult where
  | complete (size consumed : Nat)
  | needMore (consumed : Nat)
  | error (error : ChunkedError) (consumed : Nat)

inductive FeedAllResult where
  | complete
  | failed (error : ChunkedError)
  | needMore

structure ChunkedDecoder where
  maxBodyBytes : Nat
  decodedTotal : Nat
  state : ChunkedState
  /-- The part of a size line that has been read. -/
  sizeBuf : List UInt8
  /-- The last line end is half read. -/
  hasTrailerPartial : Bool

namespace ChunkedDecoder

def new (maxBodyBytes : Nat) : ChunkedDecoder where
  maxBodyBytes
  decodedTotal := 0
  state := .size
  sizeBuf := []
  hasTrailerPartial := false

def isComplete (decoder : ChunkedDecoder) : Bool :=
  decoder.state = .done

def preferredReadSize (decoder : ChunkedDecoder) (max : Nat) : Nat :=
  match decoder.state with
  | .data remaining => Nat.max (Nat.min remaining max) 1
  | _ => 1

/-- Read a size line; the line buffer is kept only while the line is incomplete. -/
def feedSize (decoder : ChunkedDecoder) (input : List UInt8) : SizeResult × ChunkedDecoder :=
  let cleared := { decoder with sizeBuf := [] }
  let finish (line : List UInt8) (consumed : Nat) : SizeResult × ChunkedDecoder :=
    match parseChunkSizeLine line with
    | .ok size => (.complete size consumed, cleared)
    | .error error => (.error error consumed, cleared)
  if decoder.sizeBuf.getLast? = some 13 then
    match input with
    | [] => (.needMore 0, decoder)
    | byte :: _ =>
      if byte = 10 then finish decoder.sizeBuf.dropLast 1 else (.error .missingCrlf 0, cleared)
  else
    match findCrlf input with
    | some i =>
      if MAX_SIZE_LINE_LEN ≤ decoder.sizeBuf.length + i then (.error .badChunkSize (i + 2), cleared)
      else finish (decoder.sizeBuf ++ input.take i) (i + 2)
    | none =>
      if MAX_SIZE_LINE_LEN - decoder.sizeBuf.length ≤ input.length then
        (.error .badChunkSize input.length, cleared)
      else (.needMore input.length, { decoder with sizeBuf := decoder.sizeBuf ++ input })

/-- The loop of `feed` in state `Trailers`. -/
def feedTrailers (decoder : ChunkedDecoder) (input : List UInt8) (consumed : Nat) :
    ChunkedProgress × Nat × ChunkedDecoder :=
  let done := { decoder with state := .done, hasTrailerPartial := false }
  match input with
  | [] => (.needMore, consumed, decoder)
  | byte :: rest =>
    if decoder.hasTrailerPartial then
      if byte = 10 then (.complete, consumed + 1, done)
      else (.failed .trailersNotSupported, consumed, { decoder with hasTrailerPartial := false })
    else if rest = [] then
      if byte = 13 then (.needMore, consumed + 1, { decoder with hasTrailerPartial := true })
      else (.failed .trailersNotSupported, consumed, decoder)
    else if input.take 2 = CRLF then (.complete, consumed + 2, done)
    else (.failed .trailersNotSupported, consumed, decoder)

/-- The loop of `feed` in state `Data`. -/
def feedData (decoder : ChunkedDecoder) (dataRemaining : Nat) (input : List UInt8)
    (consumed : Nat) : ChunkedProgress × Nat × ChunkedDecoder :=
  let take := Nat.min dataRemaining input.length
  if input = [] ∨ take = 0 then (.needMore, consumed, decoder)
  else if 2 ^ 64 ≤ decoder.decodedTotal + take then (.failed .bodyTooLarge, consumed, decoder)
  else
    let state := if dataRemaining - take = 0 then .dataCrlf else .data (dataRemaining - take)
    (.chunk (input.take take), consumed + take,
      { decoder with decodedTotal := decoder.decodedTotal + take, state })

/-- The loop of `feed` in state `Size`. -/
def feedSizeState (decoder : ChunkedDecoder) (input : List UInt8) (consumed : Nat) :
    ChunkedProgress × Nat × ChunkedDecoder :=
  if input = [] then (.needMore, consumed, decoder)
  else
    match decoder.feedSize input with
    | (.complete size n, decoder) =>
      if size = 0 then feedTrailers { decoder with state := .trailers } (input.drop n)
        (consumed + n)
      else if 2 ^ 64 ≤ decoder.decodedTotal + size ∨
          decoder.maxBodyBytes < decoder.decodedTotal + size then
        (.failed .bodyTooLarge, consumed + n, decoder)
      else feedData { decoder with state := .data size } size (input.drop n) (consumed + n)
    | (.needMore n, decoder) => (.needMore, consumed + n, decoder)
    | (.error error n, decoder) => (.failed error, consumed + n, decoder)

/-- The loop of `feed` in state `DataCrlf`. -/
def feedDataCrlf (decoder : ChunkedDecoder) (input : List UInt8) (consumed : Nat) :
    ChunkedProgress × Nat × ChunkedDecoder :=
  if input.length < 2 then (.needMore, consumed, decoder)
  else if input.take 2 ≠ CRLF then (.failed .missingCrlf, consumed, decoder)
  else feedSizeState { decoder with state := .size } (input.drop 2) (consumed + 2)

/-- Read up to the next piece of data; `feed` goes through its states in one order, so the loop
is the chain of the functions above. -/
def feed (decoder : ChunkedDecoder) (input : List UInt8) :
    ChunkedProgress × Nat × ChunkedDecoder :=
  match decoder.state with
  | .size => decoder.feedSizeState input 0
  | .data remaining => decoder.feedData remaining input 0
  | .dataCrlf => decoder.feedDataCrlf input 0
  | .trailers => decoder.feedTrailers input 0
  | .done => (.complete, 0, decoder)

/-- The loop of `feed_all`; every round but the last takes a byte. -/
def feedRounds : Nat → ChunkedDecoder → List UInt8 → List UInt8 →
    FeedAllResult × Nat × List UInt8 × ChunkedDecoder
  | 0, decoder, _, accumulator => (.needMore, 0, accumulator, decoder)
  | rounds + 1, decoder, input, accumulator =>
    match decoder.feed input with
    | (.chunk data, n, decoder) =>
      let (result, consumed, accumulator, decoder) :=
        feedRounds rounds decoder (input.drop n) (accumulator ++ data)
      (result, n + consumed, accumulator, decoder)
    | (.complete, n, decoder) => (.complete, n, accumulator, decoder)
    | (.failed error, n, decoder) => (.failed error, n, accumulator, decoder)
    | (.needMore, n, decoder) => (.needMore, n, accumulator, decoder)

def feedAll (decoder : ChunkedDecoder) (input accumulator : List UInt8) :
    FeedAllResult × Nat × List UInt8 × ChunkedDecoder :=
  feedRounds (input.length + 1) decoder input accumulator

end ChunkedDecoder

end Tina.Http
