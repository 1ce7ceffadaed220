import SolarTwin.Error
import SolarTwin.Modbus.Octets

namespace SolarTwin.Modbus

/-!
# Frames

On a connection every protocol data unit follows a seven-byte header: a transaction number, a
protocol number that must be zero, the number of bytes from the unit on, and the unit.

* `Header.ofBytes?` reads a header and `Header.check` rejects a bad one, `Frame.encode` writes a
  whole frame;
* `Frame.next` cuts the first frame off a byte stream.
-/

/-- The longest frame, header included. -/
def maxFrame : Nat := 260

/-- The length of a header. -/
def headerSize : Nat := 7

/-- A header of a frame. -/
structure Header where
  transaction : UInt16
  protocol : UInt16
  length : UInt16
  unit : UInt8
  deriving DecidableEq

/-- A received frame. -/
structure Frame where
  header : Header
  pdu : List UInt8
  deriving DecidableEq

namespace Header

/-- What is wrong with a header: the protocol number, or else the length. -/
def fault? (h : Header) : Option FrameFault :=
  if h.protocol ≠ 0 then some (.protocolId h.protocol.toNat)
  else if h.length.toNat < 2 ∨ maxFrame - 6 < h.length.toNat then some (.length h.length.toNat)
  else none

/-- The header in the first seven bytes, unchecked. -/
def ofBytes? : List UInt8 → Option Header
  | t₁ :: t₀ :: p₁ :: p₀ :: l₁ :: l₀ :: unit :: _ =>
    some ⟨ofOctets t₁ t₀, ofOctets p₁ p₀, ofOctets l₁ l₀, unit⟩
  | _ => none

/-- The header, if nothing is wrong with it. -/
def check (h : Header) : Except Error Header :=
  match h.fault? with
  | some fault => .error (.frame fault)
  | none => .ok h

/-- The number of bytes behind the header. -/
def pduLength (h : Header) : Nat := h.length.toNat - 1

/-- The seven bytes of a header. -/
def encode (h : Header) : List UInt8 :=
  octets h.transaction ++ octets h.protocol ++ octets h.length ++ [h.unit]

end Header

namespace Frame

/-- The frame around a protocol data unit.  The length is taken modulo `2 ^ 16`. -/
def encode (transaction : UInt16) (unit : UInt8) (pdu : List UInt8) : List UInt8 :=
  Header.encode ⟨transaction, 0, UInt16.ofNat (pdu.length + 1), unit⟩ ++ pdu

/-- The length of a received frame. -/
def size (f : Frame) : Nat := headerSize + f.pdu.length

/-- What a byte stream begins with. -/
inductive Next where
  /-- A whole frame; `rest` is what follows it. -/
  | frame (f : Frame) (rest : List UInt8)
  /-- A header that is rejected. -/
  | malformed (e : Error)
  /-- Less than a frame. -/
  | incomplete

/-- Cuts the first frame off a byte stream. -/
def next (bytes : List UInt8) : Next :=
  match Header.ofBytes? bytes with
  | none => .incomplete
  | some h =>
    match h.check with
    | .error e => .malformed e
    | .ok h =>
      let body := bytes.drop headerSize
      if body.length < h.pduLength then .incomplete
      else .frame ⟨h, body.take h.pduLength⟩ (body.drop h.pduLength)

theorem headerSize_le_of_ofBytes? {bytes : List UInt8} {h : Header}
    (hh : Header.ofBytes? bytes = some h) : headerSize ≤ bytes.length := by
  unfold Header.ofBytes? at hh
  split at hh
  · simp [headerSize]
  · simp at hh

/-- What follows a frame is shorter than the stream. -/
theorem length_lt_of_next {bytes rest : List UInt8} {f : Frame}
    (h : next bytes = .frame f rest) : rest.length < bytes.length := by
  unfold next at h
  split at h
  · cases h
  · rename_i hh
    have hlen := headerSize_le_of_ofBytes? hh
    split at h
    · cases h
    · simp only at h
      split at h
      · cases h
      · cases h
        simp only [List.length_drop, headerSize] at *
        omega

end Frame

end SolarTwin.Modbus
