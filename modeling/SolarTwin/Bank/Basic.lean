import SolarTwin.Bank.Layout
import SolarTwin.Journal

namespace SolarTwin

/-!
# The register bank

The bank holds every register of the device, in address order and well laid.  It is seen in two
ways, both read off the same registers:

* by register, `Bank.logical? a`: the value of the register that starts at `a`;
* by word, `Bank.word? a`: the 16-bit word at address `a`.

Both change through `Bank.exchange`, which puts a register in the place of one with the same slot:
the same address, kind, format, access right and name.
-/

/-- The registers of a device. -/
structure Bank where
  registers : List Register
  wellLaid : Layout.WellLaid registers

/-- Sizes of a bank. -/
structure BankStats where
  logicalRegisters : Nat
  mappedWords : Nat
  writableRegisters : Nat
  deriving DecidableEq

namespace Bank

/-- The bank without registers. -/
def empty : Bank := ⟨[], Layout.wellLaid_nil⟩

/-- The bank of a list of registers, which must have no layout fault. -/
def ofRegisters (rs : List Register) : Except Error Bank :=
  match h : Layout.fault? rs with
  | some fault => .error (.layout fault)
  | none => .ok ⟨Layout.sorted rs, Layout.wellLaid_sorted h⟩

/-- What is written when a list of registers has been accepted. -/
def builtLine (b : Bank) : Line :=
  .debug s!"Register bank initialized with {b.registers.length} logical registers"

/-! ### The view by register -/

/-- The register that starts at an address. -/
def find? (b : Bank) (a : UInt16) : Option Register :=
  b.registers.find? (·.address == a)

/-- The value of the register that starts at an address. -/
def logical? (b : Bank) (a : UInt16) : Option Value :=
  (b.find? a).map (·.value)

/-! ### The view by word -/

/-- The register with the greatest start address not above `a`. -/
def predecessor? (b : Bank) (a : UInt16) : Option Register :=
  (b.registers.takeWhile fun r => r.address.toNat ≤ a.toNat).getLast?

/-- The register that owns an address. -/
def owner? (b : Bank) (a : UInt16) : Option Register :=
  (b.predecessor? a).filter (·.owns a)

/-- Looks up the word at an address. -/
def wordBy {m : Type → Type} [Monad m] (ix : Indexing m) (b : Bank) (a : UInt16) :
    m (Option UInt16) :=
  match b.owner? a with
  | none => pure none
  | some r => r.wordBy ix a

/-- The word at an address. -/
def word? (b : Bank) (a : UInt16) : Option UInt16 := b.wordBy .lenient a

theorem word?_eq (b : Bank) (a : UInt16) : b.word? a = (b.owner? a).bind (·.word? a) := by
  rw [word?, wordBy]
  cases b.owner? a <;> rfl

/-! ### Changes -/

/-- A register `t` of a bank in which the register `r` becomes `s`. -/
def exchanged (r s t : Register) : Register := if t = r then s else t

theorem slot_exchanged {r s : Register} (h : s.slot = r.slot) (t : Register) :
    (exchanged r s t).slot = t.slot := by
  unfold exchanged
  split
  · next ht => rw [h, ht]
  · rfl

/-- The bank in which the register `r` becomes `s`, which takes the same slot. -/
def exchange (b : Bank) (r s : Register) (h : s.slot = r.slot) : Bank where
  registers := b.registers.map (exchanged r s)
  wellLaid := b.wellLaid.map (fun t => congrArg Slot.address (slot_exchanged h t))
    fun t => congrArg Slot.kind (slot_exchanged h t)

/-- Replaces the word at `a` in the register that owns it.  Nothing changes if no register does. -/
def replaceWordBy {m : Type → Type} [Monad m] (ix : Indexing m) (b : Bank) (a w : UInt16) :
    m (Except Error Bank) :=
  match b.owner? a with
  | none => return .ok b
  | some r => do
    let replaced ← r.replaceWordBy ix a w
    return replaced.map fun s => b.exchange r s.register s.slot_eq

/-- The bank with the word at `a` replaced. -/
def replaceWord (b : Bank) (a w : UInt16) : Except Error Bank := b.replaceWordBy .lenient a w

/-- Stores a value in the register that starts at `a`, which must be of the same kind.  Access
    rights do not matter. -/
def setLogical (b : Bank) (a : UInt16) (v : Value) : Except Error Bank :=
  match b.find? a with
  | none => .error (.unmapped a.toNat)
  | some r =>
    match h : r.setValue v with
    | .ok s => .ok (b.exchange r s (Register.slot_of_setValue h))
    | .error e => .error e

/-! ### Sizes -/

/-- The sizes of a bank. -/
def stats (b : Bank) : BankStats where
  logicalRegisters := b.registers.length
  mappedWords := b.registers.foldr (fun r n => r.width + n) 0
  writableRegisters := b.registers.countP (·.access.isWritable)

end Bank

end SolarTwin
