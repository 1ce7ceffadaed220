import SolarTwin.Error
import SolarTwin.Indexing
import SolarTwin.Register.Format
import SolarTwin.Register.Value

namespace SolarTwin

/-!
# Registers

A register is a named slot of the device: a value of a fixed kind at a start address, with a
format and an access right.  It owns as many consecutive word addresses as its kind is wide.

Words are found and replaced by their offsets, which are indices into the words of the value.  What
does so, here and wherever it is called from, is written for any use of indices (`wordBy`,
`replaceWordBy`); without one (`word?`, `replaceWord`) indices are used as by `Indexing.lenient`.
-/

/-- What stays of a register when its value changes. -/
structure Slot where
  address : UInt16
  kind : Kind
  format : Format
  access : Access
  name : String
  deriving DecidableEq

/-- One register of the device. -/
structure Register where
  address : UInt16
  value : Value
  format : Format
  access : Access
  name : String
  deriving DecidableEq

namespace Register

/-- A nameless register holding zero. -/
def zero (address : UInt16) (kind : Kind) (format : Format) (access : Access) : Register :=
  ⟨address, Value.zero kind, format, access, ""⟩

/-- The kind of the stored value. -/
def kind (r : Register) : Kind := r.value.kind

/-- The register without its value. -/
def slot (r : Register) : Slot := ⟨r.address, r.kind, r.format, r.access, r.name⟩

/-- The number of words owned. -/
def width (r : Register) : Nat := r.kind.width

/-- One past the last owned address. -/
def endAddress (r : Register) : Nat := r.address.toNat + r.width

/-- Whether an address is one of the owned ones. -/
def owns (r : Register) (a : UInt16) : Bool :=
  r.address.toNat ≤ a.toNat && a.toNat < r.endAddress

/-- The stored value as words. -/
def words (r : Register) : List UInt16 := r.value.words

/-- The register under another name. -/
def named (r : Register) (name : String) : Register := { r with name := name }

/-- The register with another value, which must be of its kind. -/
def setValue (r : Register) (v : Value) : Except Error Register :=
  if v.kind = r.kind then .ok { r with value := v }
  else .error (.typeMismatch r.address.toNat r.kind v.kind)

/-! ### A register keeps its slot -/

/-- What takes the place of a register: one with the same slot. -/
structure Heir (r : Register) where
  register : Register
  slot_eq : register.slot = r.slot

theorem slot_withValue {r : Register} {v : Value} (hv : v.kind = r.kind) :
    ({ r with value := v } : Register).slot = r.slot := by
  rw [slot, slot, kind, hv]

theorem slot_of_setValue {r s : Register} {v : Value} (h : r.setValue v = .ok s) :
    s.slot = r.slot := by
  unfold setValue at h
  split at h
  · next hv =>
    obtain rfl := Except.ok.inj h
    exact slot_withValue hv
  · cases h

/-- The register with its value put together from words. -/
def withWords? (r : Register) (ws : List UInt16) : Except Error r.Heir :=
  match h : Value.ofWords? r.kind ws with
  | .ok v => .ok ⟨{ r with value := v }, slot_withValue (Value.kind_of_ofWords? h)⟩
  | .error e => .error e

/-! ### Words at addresses -/

section Words

variable {m : Type → Type} [Monad m] (ix : Indexing m)

/-- Looks up the word at an address, if it is owned. -/
def wordBy (r : Register) (a : UInt16) : m (Option UInt16) :=
  if r.owns a then ix.get r.words (a.toNat - r.address.toNat) else pure none

/-- Replaces the word at an address, which must be owned: the value is taken apart into words and
    put together again with the new one. -/
def replaceWordBy (r : Register) (a w : UInt16) : m (Except Error r.Heir) :=
  if r.owns a then do
    let ws ← ix.set r.words (a.toNat - r.address.toNat) w
    return r.withWords? ws
  else
    return .error (.unmapped a.toNat)

end Words

/-- The word at an address, if it is owned. -/
def word? (r : Register) (a : UInt16) : Option UInt16 := r.wordBy .lenient a

theorem word?_eq (r : Register) (a : UInt16) :
    r.word? a = if r.owns a then r.words[a.toNat - r.address.toNat]? else none := rfl

/-- The register with the word at an address replaced, which it must own. -/
def replaceWord (r : Register) (a w : UInt16) : Except Error Register :=
  (r.replaceWordBy .lenient a w).map (·.register)

end Register

end SolarTwin
