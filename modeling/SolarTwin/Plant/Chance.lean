import SolarTwin.Binary64.Whole

namespace SolarTwin

/-!
# Chance

Randomness comes from a source of 64-bit words that is read in order, so everything that draws from
it is a function of the source.

* `Source.word` is the sequence, `Source.taken` counts the words that have been read;
* `Source.real lo hi` spreads one word over `lo..hi`;
* `Source.below n` draws a number below `n`, from one word or two.
-/

/-- Why a computation has no result. -/
inductive Halt where
  /-- A number is drawn from a range of doubles whose span is not a finite double. -/
  | span (lo hi : Float)
  /-- A number is drawn from no numbers at all. -/
  | emptyRange
  /-- A double is to be brought between bounds that are out of order or not numbers. -/
  | bounds (lo hi : Float)
  /-- A computation goes on for ever. -/
  | endless

/-- A sequence of words and a place in it. -/
structure Source where
  word : Nat → UInt64
  taken : Nat

/-- A computation that draws from a source. -/
abbrev Chance := StateT Source (Except Halt)

namespace Source

/-- The source that repeats a list of words. -/
def ofWords (ws : List UInt64) : Source :=
  ⟨fun i => ws.getD (i % ws.length) 0, 0⟩

/-- The increment of the counter behind a seeded source. -/
def increment : UInt64 := 0x9E3779B97F4A7C15

/-- Scatters the bits of a counter over the whole word. -/
def scatter (counter : UInt64) : UInt64 :=
  let z := (counter ^^^ (counter >>> 30)) * 0xBF58476D1CE4E5B9
  let z := (z ^^^ (z >>> 27)) * 0x94D049BB133111EB
  z ^^^ (z >>> 31)

/-- The source that scatters a counter which starts at a seed. -/
def ofSeed (seed : UInt64) : Source :=
  ⟨fun i => scatter (seed + UInt64.ofNat (i + 1) * increment), 0⟩

/-- The next word. -/
def next (s : Source) : UInt64 × Source :=
  (s.word s.taken, { s with taken := s.taken + 1 })

/-- The double in `0..1` with the upper 52 bits of a word as its binary fraction. -/
def unit (w : UInt64) : Float :=
  Binary64.ofWhole false (w >>> 12).toNat / 4503599627370496.0

/-- The double of a word spread over `lo..hi`. -/
def spread (lo hi : Float) (w : UInt64) : Float := unit w * (hi - lo) + lo

/-- Draws a double from `lo..hi`, which must have a finite span. -/
def real (lo hi : Float) (s : Source) : Float × Source :=
  let (w, s) := s.next
  (spread lo hi w, s)

/-- The number of half words. -/
def halfWords : Nat := 4294967296

/-- The upper half of a word. -/
def upper (w : UInt64) : Nat := w.toNat / halfWords

/-- Draws a number below `n`: a 32-bit word times `n` has the number in its upper half and a
    remainder in its lower half.  If the remainder is so great that a finer word could still carry
    into the number, the next word decides whether it does. -/
def index (n : Nat) (s : Source) : Nat × Source :=
  let (w, s) := s.next
  let m := upper w * n
  let remainder := m % halfWords
  if halfWords - n < remainder then
    let (w, s) := s.next
    let carries := halfWords ≤ remainder + upper w * n / halfWords
    (m / halfWords + if carries then 1 else 0, s)
  else (m / halfWords, s)

/-- Draws a number below `n`, which must not be zero. -/
def below (n : Nat) (s : Source) : Except Halt (Nat × Source) :=
  if n = 0 then .error .emptyRange else .ok (s.index n)

theorem upper_lt (w : UInt64) : upper w < halfWords := by
  have := w.toNat_lt
  simp only [upper, halfWords]
  omega

/-- The product of a word and `n` leaves room for the carry: where there may be one, the number is
    not the last below `n`. -/
theorem lt_of_mul {x n : Nat} (hx : x < halfWords) (hn : 0 < n) :
    x * n / halfWords < n ∧
      (halfWords - n < x * n % halfWords → x * n / halfWords + 1 < n) := by
  simp only [halfWords] at *
  have hmul : x * n ≤ 4294967295 * n := Nat.mul_le_mul_right n (by omega)
  omega

/-- A number drawn below `n` is below `n`. -/
theorem index_lt {n : Nat} (hn : 0 < n) (s : Source) : (s.index n).1 < n := by
  have h := lt_of_mul (upper_lt s.next.1) hn
  simp only [index]
  split
  · rename_i hlarge
    have := h.2 hlarge
    dsimp only
    split <;> omega
  · exact h.1

end Source

namespace Chance

/-- Draws a double between `-bound` and `bound`; without a positive bound nothing is drawn and the
    result is zero. -/
def around (bound : Float) : Chance Float := fun s =>
  if 0.0 < bound then
    if (bound - -bound).isFinite then .ok (s.real (-bound) bound)
    else .error (.span (-bound) bound)
  else .ok (0.0, s)

/-- Draws a number below `n`. -/
def below (n : Nat) : Chance Nat := fun s => s.below n

/-- Brings a double between bounds; NaN stays NaN. -/
def clamp (lo hi x : Float) : Chance Float :=
  if lo ≤ hi then pure (Binary64.clamp lo hi x) else throw (.bounds lo hi)

end Chance

end SolarTwin
