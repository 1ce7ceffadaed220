import SolarTwin.Modbus.Frame
import Mathlib.Tactic.ByContra

namespace SolarTwin.Modbus

/-!
# Cutting a byte stream into frames

A header has a fixed length and says how long its frame is, so a byte stream can be cut into frames
in one way only.  What is left over is less than a frame or begins with a header that is rejected.

* `Header.ofBytes?_eq_some_iff` — reading a header undoes writing one;
* `Frame.next_eq_frame_iff`, `Frame.next_eq_malformed_iff` and `Frame.next_eq_incomplete_iff` — what
  a byte stream begins with;
* `Frame.Cut` — a byte stream as whole frames and a tail;
* `Frame.exists_cut` and `Frame.Cut.unique` — every byte stream has one cut.
-/

/-! ### Bytes and words -/

theorem ofOctets_octets (w : UInt16) :
    ofOctets (UInt8.ofNat (w.toNat / 256)) (UInt8.ofNat (w.toNat % 256)) = w := by
  have hw := w.toNat_lt
  apply UInt16.toNat_inj.1
  simp only [ofOctets, UInt16.toNat_ofNat', UInt8.toNat_ofNat']
  omega

theorem toNat_ofOctets (high low : UInt8) :
    (ofOctets high low).toNat = high.toNat * 256 + low.toNat := by
  have hhigh := high.toNat_lt
  have hlow := low.toNat_lt
  simp only [ofOctets, UInt16.toNat_ofNat']
  omega

theorem octets_ofOctets (high low : UInt8) : octets (ofOctets high low) = [high, low] := by
  have hlow := low.toNat_lt
  have hdiv : (high.toNat * 256 + low.toNat) / 256 = high.toNat := by omega
  have hmod : (high.toNat * 256 + low.toNat) % 256 = low.toNat := by omega
  rw [octets, toNat_ofOctets, hdiv, hmod, UInt8.ofNat_toNat, UInt8.ofNat_toNat]

/-! ### Headers -/

namespace Header

@[simp] theorem length_encode (h : Header) : h.encode.length = headerSize := rfl

@[simp] theorem ofBytes?_encode (h : Header) (rest : List UInt8) :
    ofBytes? (h.encode ++ rest) = some h := by
  simp only [encode, octets, List.cons_append, List.nil_append, ofBytes?, ofOctets_octets]

/-- Bytes begin with a header exactly if it is their first seven. -/
theorem ofBytes?_eq_some_iff {bytes : List UInt8} {h : Header} :
    ofBytes? bytes = some h ↔ bytes = h.encode ++ bytes.drop headerSize := by
  constructor
  · intro hh
    unfold ofBytes? at hh
    split at hh
    · obtain rfl := Option.some.inj hh
      simp only [encode, octets_ofOctets]
      rfl
    · cases hh
  · intro hbytes
    rw [hbytes, ofBytes?_encode]

/-- Bytes without a header are fewer than seven. -/
theorem ofBytes?_eq_none_iff {bytes : List UInt8} :
    ofBytes? bytes = none ↔ bytes.length < headerSize := by
  constructor
  · intro hnone
    by_contra hlen
    match bytes, hlen with
    | _ :: _ :: _ :: _ :: _ :: _ :: _ :: _, _ => cases hnone
    | [], hlen | [_], hlen | [_, _], hlen | [_, _, _], hlen | [_, _, _, _], hlen
    | [_, _, _, _, _], hlen | [_, _, _, _, _, _], hlen => exact hlen (by simp [headerSize])
  · intro hlen
    cases hh : ofBytes? bytes with
    | none => rfl
    | some h =>
      have := Frame.headerSize_le_of_ofBytes? hh
      omega

/-- Nothing is wrong with a header exactly if its protocol number is zero and its length is that of a
    unit and 1 to 253 bytes. -/
theorem fault?_eq_none_iff {h : Header} :
    h.fault? = none ↔ h.protocol = 0 ∧ 2 ≤ h.length.toNat ∧ h.length.toNat ≤ 254 := by
  unfold fault? maxFrame
  by_cases hprotocol : h.protocol = 0
  · rw [if_neg (not_not_intro hprotocol)]
    split
    · next hlength =>
      simp only [reduceCtorEq, false_iff]
      omega
    · next hlength =>
      simp only [hprotocol, true_and, true_iff]
      omega
  · simp [hprotocol]

theorem check_eq_ok_iff {h h' : Header} : h.check = .ok h' ↔ h.fault? = none ∧ h' = h := by
  unfold check
  cases h.fault? <;> simp [eq_comm]

/-- An accepted header announces at least one byte. -/
private theorem pduLength_pos {h : Header} (hcheck : h.check = .ok h) : 0 < h.pduLength := by
  obtain ⟨-, hlength, -⟩ := fault?_eq_none_iff.1 (check_eq_ok_iff.1 hcheck).1
  unfold pduLength
  omega

end Header

/-! ### Frames -/

namespace Frame

/-- The bytes of a frame. -/
def bytes (f : Frame) : List UInt8 := f.header.encode ++ f.pdu

/-- A frame with an accepted header and as many bytes behind it as that announces. -/
structure Complete (f : Frame) : Prop where
  accepted : f.header.check = .ok f.header
  length : f.pdu.length = f.header.pduLength

/-- Bytes that are less than a frame: none, a part of a header, or an accepted header with fewer
    bytes behind it than it announces. -/
inductive Unfinished : List UInt8 → Prop
  | empty : Unfinished []
  | header {bytes : List UInt8} (hpos : bytes ≠ []) (hshort : bytes.length < headerSize) :
      Unfinished bytes
  | pdu {h : Header} {data : List UInt8} (haccepted : h.check = .ok h)
      (hshort : data.length < h.pduLength) : Unfinished (h.encode ++ data)

/-- Bytes that begin with a header that is rejected. -/
inductive Rejected : List UInt8 → Prop
  | header {h : Header} {e : Error} (hrejected : h.check = .error e) (rest : List UInt8) :
      Rejected (h.encode ++ rest)

/-- A byte stream as whole frames and a tail. -/
structure Cut (stream : List UInt8) (fs : List Frame) (tail : List UInt8) : Prop where
  complete : ∀ f ∈ fs, f.Complete
  joined : stream = fs.flatMap bytes ++ tail
  tail : Unfinished tail ∨ Rejected tail

theorem size_eq_length_bytes (f : Frame) : f.size = f.bytes.length := by
  rw [bytes, List.length_append, Header.length_encode, size]

theorem Complete.pdu_ne_nil {f : Frame} (h : f.Complete) : f.pdu ≠ [] := by
  have := Header.pduLength_pos h.accepted
  have := h.length
  exact List.ne_nil_of_length_pos (by omega)

/-! ### What a byte stream begins with -/

/-- A byte stream is shorter than a header or begins with one. -/
theorem short_or_header (stream : List UInt8) :
    stream.length < headerSize ∨ ∃ (h : Header) (data : List UInt8), stream = h.encode ++ data := by
  cases hheader : Header.ofBytes? stream with
  | none => exact .inl (Header.ofBytes?_eq_none_iff.1 hheader)
  | some h => exact .inr ⟨h, _, Header.ofBytes?_eq_some_iff.1 hheader⟩

theorem next_of_short {stream : List UInt8} (hshort : stream.length < headerSize) :
    next stream = .incomplete := by
  rw [next, Header.ofBytes?_eq_none_iff.2 hshort]

theorem next_of_header {h : Header} (data : List UInt8) :
    next (h.encode ++ data) =
      match h.check with
      | .error e => .malformed e
      | .ok h =>
        if data.length < h.pduLength then .incomplete
        else .frame ⟨h, data.take h.pduLength⟩ (data.drop h.pduLength) := by
  have hdrop : (h.encode ++ data).drop headerSize = data :=
    List.drop_left' h.length_encode
  rw [next, Header.ofBytes?_encode]
  cases hcheck : h.check with
  | error e => simp only [hcheck]
  | ok h' => simp only [hcheck, hdrop]

/-- A byte stream begins with a frame exactly if it is the frame's bytes and the rest. -/
theorem next_eq_frame_iff {stream rest : List UInt8} {f : Frame} :
    next stream = .frame f rest ↔ f.Complete ∧ stream = f.bytes ++ rest := by
  constructor
  · intro hnext
    rcases short_or_header stream with hshort | ⟨h, data, rfl⟩
    · cases hnext.symm.trans (next_of_short hshort)
    · rw [next_of_header] at hnext
      split at hnext
      · cases hnext
      · next h' hcheck =>
        obtain ⟨-, rfl⟩ := Header.check_eq_ok_iff.1 hcheck
        split at hnext
        · cases hnext
        · next hlen =>
          cases hnext
          refine ⟨⟨hcheck, ?_⟩, ?_⟩
          · show (data.take h'.pduLength).length = h'.pduLength
            rw [List.length_take]
            omega
          · rw [bytes, List.append_assoc, List.take_append_drop]
  · rintro ⟨hf, rfl⟩
    have hlen : ¬ (f.pdu ++ rest).length < f.header.pduLength := by
      rw [List.length_append, hf.length]
      omega
    rw [bytes, List.append_assoc, next_of_header, hf.accepted]
    simp only
    rw [if_neg hlen, ← hf.length, List.take_left, List.drop_left]

/-- A byte stream begins with a malformed frame exactly if its header is rejected. -/
theorem next_eq_malformed_iff {stream : List UInt8} {e : Error} :
    next stream = .malformed e ↔
      ∃ (h : Header) (rest : List UInt8), h.check = .error e ∧ stream = h.encode ++ rest := by
  constructor
  · intro hnext
    rcases short_or_header stream with hshort | ⟨h, data, rfl⟩
    · cases hnext.symm.trans (next_of_short hshort)
    · rw [next_of_header] at hnext
      split at hnext
      · next e' hcheck =>
        obtain rfl := Next.malformed.inj hnext
        exact ⟨h, data, hcheck, rfl⟩
      · split at hnext <;> cases hnext
  · rintro ⟨h, rest, hrejected, rfl⟩
    rw [next_of_header, hrejected]

/-- A byte stream is incomplete exactly if it is less than a frame. -/
theorem next_eq_incomplete_iff {stream : List UInt8} :
    next stream = .incomplete ↔ Unfinished stream := by
  constructor
  · intro hnext
    rcases short_or_header stream with hshort | ⟨h, data, rfl⟩
    · by_cases hnil : stream = []
      · rw [hnil]
        exact .empty
      · exact .header hnil hshort
    · rw [next_of_header] at hnext
      split at hnext
      · cases hnext
      · next h' hcheck =>
        obtain ⟨-, rfl⟩ := Header.check_eq_ok_iff.1 hcheck
        split at hnext
        · next hshort => exact .pdu hcheck hshort
        · cases hnext
  · rintro (_ | ⟨-, hshort⟩ | ⟨haccepted, hshort⟩)
    · rfl
    · exact next_of_short hshort
    · rw [next_of_header, haccepted]
      simp only [if_pos hshort]

/-- A header that is rejected stays so, whatever follows. -/
theorem next_append_of_malformed {stream : List UInt8} {e : Error}
    (hnext : next stream = .malformed e) (more : List UInt8) :
    next (stream ++ more) = .malformed e := by
  obtain ⟨h, rest, hrejected, rfl⟩ := next_eq_malformed_iff.1 hnext
  exact next_eq_malformed_iff.2 ⟨h, rest ++ more, hrejected, List.append_assoc ..⟩

/-- Bytes are rejected exactly if what they begin with is malformed. -/
theorem rejected_iff {stream : List UInt8} :
    Rejected stream ↔ ∃ e, next stream = .malformed e := by
  constructor
  · rintro ⟨hrejected, rest⟩
    exact ⟨_, next_eq_malformed_iff.2 ⟨_, rest, hrejected, rfl⟩⟩
  · rintro ⟨e, hnext⟩
    obtain ⟨h, rest, hrejected, rfl⟩ := next_eq_malformed_iff.1 hnext
    exact .header hrejected rest

/-- A tail does not begin with a frame. -/
private theorem next_ne_frame_of_tail {tail : List UInt8} (h : Unfinished tail ∨ Rejected tail)
    (f : Frame) (rest : List UInt8) : next tail ≠ .frame f rest := by
  intro hnext
  rcases h with hunfinished | hrejected
  · cases hnext.symm.trans (next_eq_incomplete_iff.2 hunfinished)
  · obtain ⟨e, he⟩ := rejected_iff.1 hrejected
    cases hnext.symm.trans he

/-- A tail that is rejected is not one that is waited with. -/
theorem Rejected.not_unfinished {tail : List UInt8} (h : Rejected tail) : ¬ Unfinished tail := by
  intro hunfinished
  obtain ⟨e, he⟩ := rejected_iff.1 h
  cases he.symm.trans (next_eq_incomplete_iff.2 hunfinished)

/-! ### Cuts -/

theorem Cut.nil {tail : List UInt8} (h : Unfinished tail ∨ Rejected tail) : Cut tail [] tail :=
  ⟨by simp, rfl, h⟩

theorem Cut.cons {f : Frame} (hf : f.Complete) {rest tail : List UInt8} {fs : List Frame}
    (h : Cut rest fs tail) : Cut (f.bytes ++ rest) (f :: fs) tail where
  complete := List.forall_mem_cons.2 ⟨hf, h.complete⟩
  joined := by rw [List.flatMap_cons, List.append_assoc, ← h.joined]
  tail := h.tail

/-- The first frame of a cut is what the byte stream begins with, and the others cut the rest. -/
theorem Cut.of_cons {stream tail : List UInt8} {f : Frame} {fs : List Frame}
    (h : Cut stream (f :: fs) tail) :
    ∃ rest, stream = f.bytes ++ rest ∧ f.Complete ∧ next stream = .frame f rest ∧
      Cut rest fs tail := by
  obtain ⟨hf, hfs⟩ := List.forall_mem_cons.1 h.complete
  have hstream : stream = f.bytes ++ (fs.flatMap bytes ++ tail) := by
    rw [h.joined, List.flatMap_cons, List.append_assoc]
  exact ⟨_, hstream, hf, next_eq_frame_iff.2 ⟨hf, hstream⟩, hfs, rfl, h.tail⟩

/-- Every byte stream can be cut. -/
theorem exists_cut (stream : List UInt8) : ∃ fs tail, Cut stream fs tail := by
  -- By induction on the length: what follows a frame is shorter.
  induction hn : stream.length using Nat.strongRecOn generalizing stream with
  | ind n ih =>
    cases hnext : next stream with
    | frame f rest =>
      obtain ⟨hf, rfl⟩ := next_eq_frame_iff.1 hnext
      obtain ⟨fs, tail, hcut⟩ := ih rest.length (hn ▸ length_lt_of_next hnext) rest rfl
      exact ⟨f :: fs, tail, hcut.cons hf⟩
    | malformed e => exact ⟨[], stream, .nil (.inr (rejected_iff.2 ⟨e, hnext⟩))⟩
    | incomplete => exact ⟨[], stream, .nil (.inl (next_eq_incomplete_iff.1 hnext))⟩

/-- There is only one way to cut a byte stream. -/
theorem Cut.unique {stream tail tail' : List UInt8} {fs fs' : List Frame}
    (h : Cut stream fs tail) (h' : Cut stream fs' tail') : fs' = fs ∧ tail' = tail := by
  induction fs generalizing stream fs' with
  | nil =>
    cases fs' with
    | nil =>
      have htail := h.joined.symm.trans h'.joined
      simp only [List.flatMap_nil, List.nil_append] at htail
      exact ⟨rfl, htail.symm⟩
    | cons f' fs' =>
      obtain ⟨rest, -, -, hnext, -⟩ := h'.of_cons
      have hstream : stream = tail := h.joined
      rw [hstream] at hnext
      exact absurd hnext (next_ne_frame_of_tail h.tail f' rest)
  | cons f fs ih =>
    obtain ⟨rest, -, -, hnext, hrest⟩ := h.of_cons
    cases fs' with
    | nil =>
      have hstream : stream = tail' := h'.joined
      rw [hstream] at hnext
      exact absurd hnext (next_ne_frame_of_tail h'.tail f rest)
    | cons f' fs' =>
      obtain ⟨rest', -, -, hnext', hrest'⟩ := h'.of_cons
      obtain ⟨rfl, rfl⟩ := Next.frame.inj (hnext.symm.trans hnext')
      obtain ⟨rfl, rfl⟩ := ih hrest hrest'
      exact ⟨rfl, rfl⟩

end Frame

end SolarTwin.Modbus
