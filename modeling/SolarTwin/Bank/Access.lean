import SolarTwin.Bank.Basic

namespace SolarTwin

/-!
# Client access

Clients read and write words.  A block is read or written as a whole or not at all; writing needs
a writable owner for every word.

* `Bank.refusal? a` says why a client may not write the word at `a`;
* `Bank.setWord` writes one word unless there is a refusal;
* `Bank.writeInPlace` looks for a refusal in the whole block before it replaces word after word,
  and `Bank.writeWords` is its result;
* `Bank.refusalLines` is what a refusal leaves in the journal.
-/

/-- The outcome of a change made in place: the bank it leaves, and why it failed, if it did. -/
structure Attempt where
  bank : Bank
  error? : Option Error

/-- The bank of an attempt that went through. -/
def Attempt.toExcept (t : Attempt) : Except Error Bank :=
  match t.error? with
  | some e => .error e
  | none => .ok t.bank

namespace Bank

/-- An address as a word address, if it is one. -/
def wordAddress? (a : Nat) : Option UInt16 :=
  if a < Layout.addressSpace then some (UInt16.ofNat a) else none

/-! ### Reading -/

section Reading

variable {m : Type → Type} [Monad m] (ix : Indexing m)

/-- Looks up the word at an address of any size. -/
def wordAtBy (b : Bank) (a : Nat) : m (Option UInt16) :=
  match wordAddress? a with
  | none => pure none
  | some a => b.wordBy ix a

/-- Looks up the words at `start`, `start + 1`, … , or the first address without one. -/
def readFromBy (b : Bank) (start : Nat) : Nat → m (Except Error (List UInt16))
  | 0 => return .ok []
  | count + 1 => do
    match ← b.wordAtBy ix start with
    | none => return .error (.unmapped start)
    | some w =>
      let rest ← b.readFromBy (start + 1) count
      return rest.map (w :: ·)

end Reading

/-- The word at an address of any size. -/
def wordAt? (b : Bank) (a : Nat) : Option UInt16 := b.wordAtBy .lenient a

theorem wordAt?_eq (b : Bank) (a : Nat) : b.wordAt? a = (wordAddress? a).bind b.word? := by
  rw [wordAt?, wordAtBy]
  cases wordAddress? a <;> rfl

/-- The words at `start`, `start + 1`, … , or the first address without one. -/
def readFrom (b : Bank) (start count : Nat) : Except Error (List UInt16) :=
  b.readFromBy .lenient start count

@[simp] theorem readFrom_zero (b : Bank) (start : Nat) : b.readFrom start 0 = .ok [] := rfl

theorem readFrom_succ (b : Bank) (start count : Nat) :
    b.readFrom start (count + 1) =
      match b.wordAt? start with
      | none => .error (.unmapped start)
      | some w => (b.readFrom (start + 1) count).map (w :: ·) := rfl

/-- Reads a block of words. -/
def readWords (b : Bank) (start : UInt16) (count : Nat) : Except Error (List UInt16) :=
  b.readFrom start.toNat count

/-! ### Writing -/

/-- Why a client may not write the word at an address: nothing owns it, or its owner is
    read-only. -/
def refusal? (b : Bank) (a : Nat) : Option Error :=
  match (wordAddress? a).bind b.owner? with
  | none => some (.unmapped a)
  | some r => if r.access.isWritable then none else some (.accessDenied r.address.toNat)

/-- The refusal of the first of `count` addresses from `start` on that has one. -/
def firstRefusal? (b : Bank) (start : Nat) : Nat → Option Error
  | 0 => none
  | count + 1 => (b.refusal? start).or (b.firstRefusal? (start + 1) count)

section Writing

variable {m : Type → Type} [Monad m] (ix : Indexing m)

/-- Replaces the words at `start`, `start + 1`, … one after another.  A failure ends it, with the
    words before replaced. -/
def replaceFromBy (b : Bank) (start : Nat) : List UInt16 → m Attempt
  | [] => return ⟨b, none⟩
  | w :: ws => do
    match ← b.replaceWordBy ix (UInt16.ofNat start) w with
    | .ok b' => b'.replaceFromBy (start + 1) ws
    | .error e => return ⟨b, some e⟩

/-- Writes a block of words in place, once no word of it is refused. -/
def writeInPlaceBy (b : Bank) (start : UInt16) (ws : List UInt16) : m Attempt :=
  match b.firstRefusal? start.toNat ws.length with
  | some e => return ⟨b, some e⟩
  | none => b.replaceFromBy ix start.toNat ws

end Writing

/-- Writes one word. -/
def setWord (b : Bank) (a w : UInt16) : Except Error Bank :=
  match b.refusal? a.toNat with
  | some e => .error e
  | none => b.replaceWord a w

/-- The bank with the words at `start`, `start + 1`, … replaced, up to a failure. -/
def replaceFrom (b : Bank) (start : Nat) (ws : List UInt16) : Attempt :=
  b.replaceFromBy .lenient start ws

/-- The bank with a block of words written in place. -/
def writeInPlace (b : Bank) (start : UInt16) (ws : List UInt16) : Attempt :=
  b.writeInPlaceBy .lenient start ws

/-- Writes a block of words. -/
def writeWords (b : Bank) (start : UInt16) (ws : List UInt16) : Except Error Bank :=
  (b.writeInPlace start ws).toExcept

/-- The warning a refused write leaves.  An address past the end of the address space leaves
    none. -/
def refusalLines : Error → Journal
  | .unmapped a =>
    if a < Layout.addressSpace then [.warn s!"Write to unmapped address {a}"] else []
  | .accessDenied a => [.warn s!"Denied write to read-only register {a}"]
  | _ => []

end Bank

end SolarTwin
