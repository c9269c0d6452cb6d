import FprimeGds.Machine.Reentrant

/-! # The handlers of CfsTlmStripper

The component is passive and keeps no state: everything it knows arrives with a call, and everything
it does is one call of an output port, after rewriting the caller's bytes in place. Byte accesses go
through the buffer's own extent, as the indexing of `data.getData()` does. `FwSizeType` is taken at
sixty-four bits where its wraparound shows, which is the length computation; sizes themselves never
wrap and are natural numbers.

`ComCfg::FrameContext` is configured outside this repository. The handlers read none of its fields
and write one, so the others are kept as a single opaque value.
-/

namespace FprimeGds.Model

open Machine

/-- `Fw::Buffer`: a context word naming the buffer, and the bytes it currently points at. -/
structure Buffer where
  context : UInt32
  data : ℕ
  size : ℕ
deriving DecidableEq, Repr

namespace Buffer

def extent (buffer : Buffer) : Extent := ⟨buffer.data, buffer.size⟩

def setData (buffer : Buffer) (data : ℕ) : Buffer := { buffer with data := data }

def setSize (buffer : Buffer) (size : ℕ) : Buffer := { buffer with size := size }

end Buffer

/-- `ComCfg::FrameContext`: the field the component sets, and all others together. -/
structure FrameContext (Rest : Type) where
  hasSecHdr : Bool
  others : Rest
deriving DecidableEq, Repr

/-- `Fw::Success`, the payload of the communication status ports. -/
inductive Success where
  | success
  | failure
deriving DecidableEq, Repr

namespace CfsTlmStripper

/-- Size in bytes of the CCSDS space packet primary header. -/
def priHdrSize : ℕ := 6

/-- Size in bytes of the cFS telemetry secondary header: seconds, subseconds and four spare bytes. -/
def secHdrSize : ℕ := 10

/-- Secondary header flag mask within the high byte of the stream identifier. -/
def secHdrFlag : UInt8 := 0x08

/-- Packet type (command) bit mask within the high byte of the stream identifier. -/
def typeFlag : UInt8 := 0x10

/-- Byte offset of the packet data length field within the primary header. -/
def lengthOffset : ℕ := 4

/-- What arrives on the input ports. -/
inductive Input (Rest : Type) where
  | dataIn (data : Buffer) (context : FrameContext Rest)
  | dataReturnIn (frameBuffer : Buffer) (context : FrameContext Rest)
  | comStatusIn (portNum : ℕ) (condition : Success)
deriving DecidableEq, Repr

/-- What leaves on the output ports; the warning event is one of them. -/
inductive Output (Rest : Type) where
  | dataOut (data : Buffer) (context : FrameContext Rest)
  | dataReturnOut (data : Buffer) (context : FrameContext Rest)
  | comStatusOut (portNum : ℕ) (condition : Success)
  | malformedPacket (size : UInt32)
deriving DecidableEq, Repr

variable {Rest : Type}

/-- A data or status port call runs the receiver, which may call back; reporting an event does not. -/
def Output.yields : Output Rest → Bool
  | .malformedPacket _ => false
  | _ => true

/-- The part of `dataIn_handler` under `if (strip)`: rebuild the primary header just ahead of the
payload and move the buffer up to it. -/
def stripInPlace (data : Buffer) (outContext : FrameContext Rest) :
    Code (Output Rest) (Buffer × FrameContext Rest) := do
  let high ← Code.readAt data.extent lengthOffset
  let low ← Code.readAt data.extent (lengthOffset + 1)
  let lengthToken := ((high.toUInt64 <<< 8) ||| low.toUInt64) - UInt64.ofNat secHdrSize
  Code.moveWithin data.extent secHdrSize 0 priHdrSize
  -- `outBytes[i]` is offset `secHdrSize + i` of the incoming buffer
  let streamId ← Code.readAt data.extent secHdrSize
  Code.writeAt data.extent secHdrSize (streamId &&& ~~~secHdrFlag)
  Code.writeAt data.extent (secHdrSize + lengthOffset) ((lengthToken >>> 8) &&& 0xFF).toUInt8
  Code.writeAt data.extent (secHdrSize + (lengthOffset + 1)) (lengthToken &&& 0xFF).toUInt8
  return ((data.setData (data.data + secHdrSize)).setSize (data.size - secHdrSize),
    { outContext with hasSecHdr := false })

/-- `bool strip` of `dataIn_handler`, on the first byte and the size. -/
def strips (first : UInt8) (size : ℕ) : Bool :=
  (first &&& typeFlag == 0) && (first &&& secHdrFlag != 0) &&
    decide (priHdrSize + secHdrSize + 1 ≤ size)

def dataInHandler (data : Buffer) (context : FrameContext Rest) : Code (Output Rest) Unit :=
  if data.size < priHdrSize then do
    Code.call (.malformedPacket (UInt32.ofNat data.size))
    Code.call (.dataReturnOut data context)
  else do
    let first ← Code.readAt data.extent 0
    if strips first data.size then
      let (out, outContext) ← stripInPlace data context
      Code.call (.dataOut out outContext)
    else
      Code.call (.dataOut data context)

/-- `comStatusOut` is called only where the topology connected it. -/
def comStatusInHandler (isConnected : ℕ → Bool) (portNum : ℕ) (condition : Success) :
    Code (Output Rest) Unit :=
  if isConnected portNum then Code.call (.comStatusOut portNum condition) else pure ()

def dataReturnInHandler (frameBuffer : Buffer) (context : FrameContext Rest) :
    Code (Output Rest) Unit :=
  Code.call (.dataReturnOut frameBuffer context)

/-- Every input port has one handler. -/
def handler (isConnected : ℕ → Bool) : Input Rest → Code (Output Rest) Unit
  | .dataIn data context => dataInHandler data context
  | .dataReturnIn frameBuffer context => dataReturnInHandler frameBuffer context
  | .comStatusIn portNum condition => comStatusInHandler isConnected portNum condition

/-- The component as its environment meets it. -/
def component (isConnected : ℕ → Bool) : Component (Input Rest) (Output Rest) where
  handler := handler isConnected
  yields := Output.yields

end CfsTlmStripper

end FprimeGds.Model
