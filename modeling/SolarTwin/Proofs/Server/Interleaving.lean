import Mathlib.Data.List.Perm.Basic
import SolarTwin.Proofs.Modbus.Commuting
import SolarTwin.Proofs.Plant.Frame
import SolarTwin.Proofs.Server.Stream

namespace SolarTwin

open Modbus

/-!
# The order of requests

The frames of many clients reach the server in some order, with the engine at work in between.
What a reply carries depends on that order, but whether it is an exception and how long it is does
not: the layout decides both, and nothing that happens to a running server changes the layout.

* `Interleaving` — the orders in which several lists can be gone through;
* `Site` and `Site.turns` — a server and an engine that take turns;
* `Site.layout_turns` — no turn changes the layout;
* `Totals.count` and `Site.totals_turns` — what one frame adds to the counters, and what many do;
* `Site.outcomes_ignore_history` — replies, banks and totals in different orders.
-/

/-! ### Interleavings -/

/-- A list made of several others, from each of which it takes the elements in order. -/
inductive Interleaving {α : Type} : List (List α) → List α → Prop
  /-- All elements have been taken. -/
  | done {lists : List (List α)} (h : ∀ l ∈ lists, l = []) : Interleaving lists []
  /-- The next element is the first that one of the lists has left. -/
  | next {before after : List (List α)} {x : α} {rest xs : List α}
      (h : Interleaving (before ++ rest :: after) xs) :
      Interleaving (before ++ (x :: rest) :: after) (x :: xs)

/-- An interleaving has the elements of all lists, each as often as they do. -/
theorem Interleaving.perm {α : Type} {lists : List (List α)} {xs : List α}
    (h : Interleaving lists xs) : lists.flatten.Perm xs := by
  induction h with
  | done h => rw [List.flatten_eq_nil_iff.2 h]
  | @next before after x rest xs _ ih =>
    -- The element that is taken can be moved to the front.
    have hfront : (before ++ (x :: rest) :: after).flatten.Perm
        (x :: (before ++ rest :: after).flatten) := by
      simp only [List.flatten_append, List.flatten_cons, List.cons_append]
      exact List.perm_middle
    exact hfront.trans (ih.cons x)

/-! ### Totals -/

/-- What a server counts of the requests that it has answered. -/
structure Totals where
  successful : Nat
  failed : Nat
  bytesSent : Nat
  deriving DecidableEq

/-- The totals among some counters. -/
def Counters.totals (c : Counters) : Totals := ⟨c.successful, c.failed, c.bytesSent⟩

namespace Totals

/-- The totals after some bytes have been answered under a verdict.  Without one there is no reply,
    which is a failure. -/
def add (t : Totals) : Option Verdict → Totals
  | none => { t with failed := t.failed + 1 }
  | some v =>
    { successful := t.successful + if v.exception?.isSome then 0 else 1
      failed := t.failed + if v.exception?.isSome then 1 else 0
      bytesSent := t.bytesSent + (headerSize + v.length) }

/-- The totals after the bytes of a frame have been answered under a layout. -/
def count (layout : List Layout.Entry) (t : Totals) (f : Frame) : Totals :=
  t.add (Verdict.under? layout f.pdu)

/-- It does not matter which of two frames is counted first. -/
theorem add_right_comm (t : Totals) (v w : Option Verdict) : (t.add v).add w = (t.add w).add v := by
  cases v <;> cases w <;> simp only [add, Totals.mk.injEq, true_and, and_true] <;> omega

instance (layout : List Layout.Entry) : RightCommutative (count layout) :=
  ⟨fun t _ _ => t.add_right_comm _ _⟩

end Totals

namespace Server

/-- A frame without bytes is no request; it is counted as a failure. -/
theorem answer_of_error {s : Server} {f : Frame} {e : Error}
    (h : (s.bank.serve f.header.unit f.pdu).result = .error e) (peer : String) :
    (s.answer peer f).server = { s with counters := (s.counters.received f.size).malformed } := by
  unfold answer
  simp only [h]

/-- The answer to a frame leaves the bank that its bytes leave. -/
theorem bank_answer (s : Server) (peer : String) (f : Frame) :
    (s.answer peer f).server.bank = (s.bank.serve f.header.unit f.pdu).bank := by
  cases hresult : (s.bank.serve f.header.unit f.pdu).result with
  | ok a => rw [(answer_of_ok peer hresult).2]
  | error e =>
    rw [answer_of_error hresult]
    by_cases hpdu : f.pdu = []
    · rw [hpdu]
      rfl
    · obtain ⟨a, ha⟩ := s.bank.exists_answer f.header.unit hpdu
      cases hresult.symm.trans ha

/-- A frame is counted under the layout. -/
theorem totals_answer (s : Server) (peer : String) (f : Frame) :
    (s.answer peer f).server.counters.totals = s.counters.totals.count s.bank.layout f := by
  rw [Totals.count, ← s.bank.verdict_serve f.header.unit f.pdu]
  cases hresult : (s.bank.serve f.header.unit f.pdu).result with
  | error e =>
    rw [answer_of_error hresult]
    rfl
  | ok a =>
    have hsent : (f.reply a).length = headerSize + a.reply.encode.length :=
      Frame.length_encode ..
    rw [counters_answer hresult peer, Counters.totals, hsent]
    rfl

end Server

/-! ### Turns -/

/-- A running server, and the engine that shares its bank. -/
structure Site where
  server : Server
  engine : Plant.Engine

/-- What happens at a site: a client's frame is served, the engine ticks, or it stores a value
    otherwise, as it does before its first tick and in a tick that halts on the way. -/
inductive Turn where
  | frame (peer : String) (f : Frame)
  | tick (now : DateTime) (elapsed : Float)
  | store (a : UInt16) (v : Value)

/-- The frame that is served in a turn. -/
def Turn.frame? : Turn → Option Frame
  | .frame _ f => some f
  | .tick .. | .store .. => none

namespace Site

/-- The site after a turn.  A tick without a result changes nothing by itself: what it has stored
    before it halted are turns of their own. -/
def turn (s : Site) : Turn → Site
  | .frame peer f => { s with server := (s.server.answer peer f).server }
  | .tick now elapsed =>
    match s.engine.tick s.server.bank now elapsed with
    | .ok (_, engine, board) => ⟨{ s.server with bank := board.bank }, engine⟩
    | .error _ => s
  | .store a v => { s with server.bank := s.server.bank.happen (.store a v) }

/-- The site after some turns. -/
def turns (s : Site) (ts : List Turn) : Site := ts.foldl turn s

/-- The layout of the bank at a site. -/
def layout (s : Site) : List Layout.Entry := s.server.bank.layout

/-- What the server at a site has counted. -/
def totals (s : Site) : Totals := s.server.counters.totals

/-- No turn changes the layout. -/
theorem layout_turn (s : Site) (t : Turn) : (s.turn t).layout = s.layout := by
  cases t with
  | frame peer f =>
    rw [turn, layout, Server.bank_answer]
    exact Bank.layout_serve _ _ _
  | tick now elapsed =>
    rw [turn]
    cases htick : s.engine.tick s.server.bank now elapsed with
    | error halt => rfl
    | ok r =>
      obtain ⟨summary, engine, board⟩ := r
      obtain ⟨beat, -, rfl, -⟩ := Plant.Engine.exists_beat_of_tick htick
      have hpublished := Plant.Board.publishBeat_publishes ⟨s.server.bank, []⟩ beat
      simp only [layout]
      exact Bank.layout_congr hpublished.slots
  | store a v => exact Bank.layout_congr (Bank.slots_happen _ _)

theorem layout_turns (s : Site) (ts : List Turn) : (s.turns ts).layout = s.layout := by
  induction ts generalizing s with
  | nil => rfl
  | cons t ts ih => exact (ih (s.turn t)).trans (s.layout_turn t)

/-- A turn counts its frame, if it has one, under the layout. -/
theorem totals_turn (s : Site) (t : Turn) :
    (s.turn t).totals = t.frame?.toList.foldl (Totals.count s.layout) s.totals := by
  cases t with
  | frame peer f =>
    have hcounted := s.server.totals_answer peer f
    rw [turn, totals, hcounted]
    rfl
  | tick now elapsed =>
    rw [turn]
    cases s.engine.tick s.server.bank now elapsed <;> rfl
  | store a v => rfl

/-- Turns count all their frames under the layout that there is at first. -/
theorem totals_turns (s : Site) (ts : List Turn) :
    (s.turns ts).totals = (ts.filterMap Turn.frame?).foldl (Totals.count s.layout) s.totals := by
  induction ts generalizing s with
  | nil => rfl
  | cons t ts ih =>
    have hlater := ih (s.turn t)
    rw [layout_turn, totals_turn, ← List.foldl_append] at hlater
    rw [List.filterMap_cons]
    cases hframe : t.frame? with
    | none =>
      rw [hframe] at hlater
      exact hlater
    | some f =>
      rw [hframe] at hlater
      exact hlater

/-- Different orders of the same frames give the same totals, whatever the engine does in
    between. -/
theorem totals_turns_eq (s : Site) {clients : List (List Frame)} {ts ts' : List Turn}
    (h : Interleaving clients (ts.filterMap Turn.frame?))
    (h' : Interleaving clients (ts'.filterMap Turn.frame?)) :
    (s.turns ts).totals = (s.turns ts').totals := by
  rw [totals_turns, totals_turns]
  exact (h.perm.symm.trans h'.perm).foldl_eq _

/-- **What becomes of a request does not depend on what came before it.**  After any turns of
    clients and engine, the layout there was at first says whether some bytes are answered with an
    exception and how long the reply is.  Requests that both read or are about different words have
    the same replies and leave the same bank in either order.  And however the frames of some
    clients are interleaved, whatever the engine does in between, the same totals are counted. -/
theorem outcomes_ignore_history (s : Site) :
    (∀ (ts : List Turn) (unit : UInt8) (pdu : List UInt8),
      ((s.turns ts).server.bank.serve unit pdu).result.toOption.map Bank.Answer.verdict =
        Verdict.under? s.layout pdu) ∧
    (∀ (ts : List Turn) (u v : UInt8) (p q : List UInt8), Request.Apart p q →
      (s.turns ts).server.bank.Commutes u p v q) ∧
    ∀ (clients : List (List Frame)) (ts ts' : List Turn),
      Interleaving clients (ts.filterMap Turn.frame?) →
      Interleaving clients (ts'.filterMap Turn.frame?) →
      (s.turns ts).totals = (s.turns ts').totals := by
  refine ⟨fun ts unit pdu => ?_, fun ts u v p q h => Bank.commutes_of_apart h u v,
    fun clients ts ts' => s.totals_turns_eq⟩
  rw [Bank.verdict_serve]
  exact congrArg (Verdict.under? · pdu) (s.layout_turns ts)

/-- A site with a register of two words for commands and a read-only one behind it. -/
def sharedSite : Site := ⟨.create .standard Bank.sharedBank, .initial {} (.ofSeed 1)⟩

/-- A request to write the first half of the command. -/
def upperHalf : Frame := ⟨⟨1, 0, 6, 1⟩, [6, 0, 8, 1, 2]⟩

/-- A request to write the second half. -/
def lowerHalf : Frame := ⟨⟨2, 0, 6, 1⟩, [6, 0, 9, 3, 4]⟩

/-- A request to write both halves and two words more, which cannot be written. -/
def beyondHalves : Frame := ⟨⟨3, 0, 15, 1⟩, Bank.overrun⟩

/-- One client sends two frames, and another one sends one between them. -/
def otherBetween : List Turn :=
  [.store 40009 (.clamp .u32 5), .frame "A" upperHalf, .tick ⟨⟨2024, 6, 20⟩, 12, 0, 0⟩ 5.0,
    .frame "B" lowerHalf, .frame "A" beyondHalves]

/-- The other one comes first. -/
def otherFirst : List Turn := [.frame "B" lowerHalf, .frame "A" upperHalf, .frame "A" beyondHalves]

theorem outcomes_ignore_history_sharedSite :
    ((sharedSite.turns otherBetween).server.bank.serve 1 Bank.overrun).result.toOption.map
      Bank.Answer.verdict = some (.refused .illegalDataAddress) ∧
    (sharedSite.turns otherBetween).server.bank.Commutes 1 upperHalf.pdu 2 lowerHalf.pdu ∧
    (sharedSite.turns otherBetween).totals = (sharedSite.turns otherFirst).totals := by
  obtain ⟨hverdict, hcommutes, htotals⟩ := outcomes_ignore_history sharedSite
  refine ⟨?_, hcommutes otherBetween 1 2 _ _ (.inr fun n => ?_),
    htotals [[upperHalf, beyondHalves], [lowerHalf]] otherBetween otherFirst ?_ ?_⟩
  · rw [hverdict]
    decide +kernel
  · -- The first request is about 40009, the second one about 40010.
    rintro ⟨hupper, hlower⟩
    obtain ⟨-, -, hlt⟩ := Request.targets_code_iff.1
      (show Request.Targets (Function.writeSingle.code :: [0, 8, 1, 2]) n from hupper)
    obtain ⟨-, hle, -⟩ := Request.targets_code_iff.1
      (show Request.Targets (Function.writeSingle.code :: [0, 9, 3, 4]) n from hlower)
    have hfirst : Request.first .writeSingle [0, 9, 3, 4] = 40010 := by decide
    have hend : Request.first .writeSingle [0, 8, 1, 2] +
        Request.wanted .writeSingle [0, 8, 1, 2] = 40010 := by decide
    omega
  · exact @Interleaving.next _ [] _ _ _ _ (@Interleaving.next _ [_] [] _ _ _
      (@Interleaving.next _ [] _ _ _ _ (.done (by simp))))
  · exact @Interleaving.next _ [_] [] _ _ _ (@Interleaving.next _ [] _ _ _ _
      (@Interleaving.next _ [] _ _ _ _ (.done (by simp))))

end Site

end SolarTwin
