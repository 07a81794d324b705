import WebTransportGos.H3.Frame
import WebTransportGos.H3.Packages

/-!
Package h3, response_writer.go, over a stream that accepts every byte; the code drops
the stream's errors. A `bufio.Writer` of 4096 bytes stands before the stream.
-/

namespace WebTransportGos.H3

open GoReader GoText

set_option autoImplicit false

/-- `buffered` has not reached the stream yet, `written` has. -/
structure BufferedStream where
  buffered : List UInt8
  written : List UInt8
  deriving DecidableEq, Repr

namespace BufferedStream

def size : Nat := 4096

/-- `bufio.Writer.Write`: bytes that do not fit fill the buffer and flush it, and what is
larger than an empty buffer goes straight to the stream. -/
def write (stream : BufferedStream) (bytes : List UInt8) : BufferedStream :=
  let available := size - stream.buffered.length
  if bytes.length ≤ available then { stream with buffered := stream.buffered ++ bytes }
  else if stream.buffered = [] then { stream with written := stream.written ++ bytes }
  else
    let flushed := stream.written ++ stream.buffered ++ bytes.take available
    let rest := bytes.drop available
    if rest.length ≤ size then ⟨rest, flushed⟩ else ⟨[], flushed ++ rest⟩

def flush (stream : BufferedStream) : BufferedStream :=
  ⟨[], stream.written ++ stream.buffered⟩

def all (stream : BufferedStream) : List UInt8 := stream.written ++ stream.buffered

@[simp] theorem all_flush (stream : BufferedStream) : stream.flush.all = stream.all := by
  simp [flush, all]

@[simp] theorem all_write (stream : BufferedStream) (bytes : List UInt8) :
    (stream.write bytes).all = stream.all ++ bytes := by
  simp only [write, all]
  split_ifs with fits empty small
  · simp
  · simp [empty]
  · simp
  · simp

@[simp] theorem written_flush (stream : BufferedStream) : stream.flush.written = stream.all := rfl

end BufferedStream

structure ResponseWriter where
  stream : BufferedStream
  header : Header
  status : Int
  headerWritten : Bool
  dataStreamUsed : Bool

def newResponseWriter : ResponseWriter := ⟨⟨[], []⟩, Header.empty, 0, false, false⟩

def bodyAllowedForStatus (status : Int) : Bool :=
  if 100 ≤ status ∧ status ≤ 199 then false
  else if status = 204 then false
  else if status = 304 then false
  else true

variable (packages : Packages)

namespace ResponseWriter

def addHeader (writer : ResponseWriter) (key value : GoString) : ResponseWriter :=
  { writer with header := writer.header.add key value }

def flush (writer : ResponseWriter) : ResponseWriter :=
  { writer with stream := writer.stream.flush }

/-- The fields of the header block, the header map visited in the order `walk`. -/
def headerFields (status : Int) (walk : List (GoString × List GoString)) : List HeaderField :=
  ⟨lit ":status", itoa status⟩ ::
    walk.flatMap fun entry => entry.2.map fun value => ⟨toLower entry.1, value⟩

def headerBlock (status : Int) (walk : List (GoString × List GoString)) : List UInt8 :=
  packages.qpack.blockPrefix ++ (headerFields status walk).flatMap packages.qpack.encodeField

def writeHeader (writer : ResponseWriter) (status : Int)
    (walk : List (GoString × List GoString)) : ResponseWriter :=
  if writer.headerWritten then writer
  else
    let final : Bool := status < 100 ∨ 200 ≤ status
    let block := headerBlock packages status walk
    let stream := (writer.stream.write (headersFrameWrite packages.varint block.length)).write block
    let after := { writer with stream := stream, status := status, headerWritten := final }
    if final then after else after.flush

/-- `Write`: `http.ErrBodyNotAllowed` is the error of a status without a body. -/
def write (writer : ResponseWriter) (body : List UInt8)
    (walk : List (GoString × List GoString)) : Option Error × ResponseWriter :=
  let writer := if writer.headerWritten then writer else writer.writeHeader packages 200 walk
  if !bodyAllowedForStatus writer.status then
    (some (.text "http: request method or response status code does not allow body"), writer)
  else
    (none, { writer with
      stream := (writer.stream.write (dataFrameWrite packages.varint body.length)).write body })

def dataStream (writer : ResponseWriter) : ResponseWriter :=
  { writer with dataStreamUsed := true }.flush

end ResponseWriter

end WebTransportGos.H3
