namespace SolarTwin.Modbus

/-!
# Words as bytes

Words travel with their high byte first.

* `octets w` are the two bytes of a word, `ofOctets` puts them together again;
* `octetsOf ws` are the bytes of a list of words, `wordsOf` pairs bytes up again and drops an odd
  last one.
-/

/-- The bytes of a word, high byte first. -/
def octets (w : UInt16) : List UInt8 :=
  [UInt8.ofNat (w.toNat / 256), UInt8.ofNat (w.toNat % 256)]

/-- The word of a high and a low byte. -/
def ofOctets (high low : UInt8) : UInt16 :=
  UInt16.ofNat (high.toNat * 256 + low.toNat)

/-- The bytes of a list of words. -/
def octetsOf (ws : List UInt16) : List UInt8 :=
  ws.flatMap octets

/-- The words of a byte string. -/
def wordsOf : List UInt8 → List UInt16
  | high :: low :: rest => ofOctets high low :: wordsOf rest
  | _ => []

@[simp] theorem length_octets (w : UInt16) : (octets w).length = 2 := rfl

@[simp] theorem octetsOf_nil : octetsOf [] = [] := rfl

@[simp] theorem octetsOf_cons (w : UInt16) (ws : List UInt16) :
    octetsOf (w :: ws) = octets w ++ octetsOf ws := rfl

@[simp] theorem length_octetsOf (ws : List UInt16) : (octetsOf ws).length = 2 * ws.length := by
  induction ws with
  | nil => rfl
  | cons w ws ih => simp [ih]; omega

end SolarTwin.Modbus
