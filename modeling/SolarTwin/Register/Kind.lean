namespace SolarTwin

/-!
# Storage kinds

A register stores an integer of one of six kinds.  The kind fixes how many 16-bit words the value
occupies and which integers it can hold.
-/

/-- How a register stores its integer: unsigned or signed, in one, two or four words. -/
inductive Kind where
  | u16
  | s16
  | u32
  | s32
  | u64
  | s64
  deriving DecidableEq

namespace Kind

/-- The number of 16-bit words a value of the kind occupies. -/
def width : Kind → Nat
  | .u16 | .s16 => 1
  | .u32 | .s32 => 2
  | .u64 | .s64 => 4

/-- Whether values of the kind can be negative. -/
def isSigned : Kind → Bool
  | .s16 | .s32 | .s64 => true
  | .u16 | .u32 | .u64 => false

/-- The number of bits a value of the kind occupies. -/
def bits (k : Kind) : Nat := 16 * k.width

/-- The number of patterns of so many bits. -/
def patterns (k : Kind) : Nat := 1 <<< k.bits

/-- The least integer of the kind. -/
def lo (k : Kind) : Int := if k.isSigned then -(k.patterns / 2 : Nat) else 0

/-- The greatest integer of the kind. -/
def hi (k : Kind) : Int := if k.isSigned then (k.patterns / 2 : Nat) - 1 else k.patterns - 1

/-- The name a kind goes by in profiles and messages. -/
def name : Kind → String
  | .u16 => "U16"
  | .s16 => "S16"
  | .u32 => "U32"
  | .s32 => "S32"
  | .u64 => "U64"
  | .s64 => "S64"

/-- All kinds. -/
def all : List Kind := [.u16, .s16, .u32, .s32, .u64, .s64]

/-- The kind of a name; case matters. -/
def ofName? (text : String) : Option Kind := all.find? (·.name == text)

theorem width_pos (k : Kind) : 0 < k.width := by cases k <;> decide

theorem width_le_four (k : Kind) : k.width ≤ 4 := by cases k <;> decide

theorem lo_le_zero (k : Kind) : k.lo ≤ 0 := by cases k <;> decide

theorem zero_le_hi (k : Kind) : 0 ≤ k.hi := by cases k <;> decide

theorem lo_le_hi (k : Kind) : k.lo ≤ k.hi := Int.le_trans k.lo_le_zero k.zero_le_hi

theorem patterns_pos (k : Kind) : 0 < k.patterns := by cases k <;> decide

/-- A kind holds exactly as many integers as its bits have patterns. -/
theorem hi_sub_lo (k : Kind) : k.hi - k.lo = k.patterns - 1 := by cases k <;> decide

end Kind

end SolarTwin
