import SolarTwin.Server
import SolarTwin.Proofs.Modbus.Headers
import SolarTwin.Proofs.Modbus.Replies

namespace SolarTwin

open Modbus

/-!
# How a connection is served

The bytes of a connection arrive in pieces, but only the byte stream they make up matters.  It is cut
into frames and a tail; each frame is answered in its turn, and the tail by nothing.

* `Bank.exists_answer` — every frame has an answer, because it brings at least one byte;
* `Modbus.Frame.reply` and `Modbus.Frame.returns_reply` — the frame that takes an answer back, and what
  is read from it;
* `Server.receive_eq_feed` — pieces are served as all the bytes are at once;
* `Server.Conversation` — what serving some frames and a tail makes of a server;
* `Server.feed_of_cut` — feeding a byte stream is the conversation of its cut, by induction on the
  frames;
* `Server.stream_law` — the law of a whole connection.
-/

/-! ### The answers of a bank -/

namespace Bank

/-- The bank after some frames have been served in order. -/
def afterFrames (b : Bank) (fs : List Frame) : Bank :=
  fs.foldl (fun b f => (b.serve f.header.unit f.pdu).bank) b

/-- What serving some frames in order gives, each by the bank that the ones before it leave. -/
def answersTo (b : Bank) : List Frame → List (Except Error Answer)
  | [] => []
  | f :: fs =>
    let served := b.serve f.header.unit f.pdu
    served.result :: served.bank.answersTo fs

@[simp] theorem afterFrames_nil (b : Bank) : b.afterFrames [] = b := rfl

@[simp] theorem afterFrames_cons (b : Bank) (f : Frame) (fs : List Frame) :
    b.afterFrames (f :: fs) = (b.serve f.header.unit f.pdu).bank.afterFrames fs := rfl

@[simp] theorem answersTo_nil (b : Bank) : b.answersTo [] = [] := rfl

@[simp] theorem answersTo_cons (b : Bank) (f : Frame) (fs : List Frame) :
    b.answersTo (f :: fs) = (b.serve f.header.unit f.pdu).result ::
      (b.serve f.header.unit f.pdu).bank.answersTo fs := rfl

/-- The answer to a frame is that of the bank which the frames before it leave. -/
private theorem getElem?_answersTo (b : Bank) (fs : List Frame) (i : Nat) :
    (b.answersTo fs)[i]? =
      fs[i]?.map fun f => ((b.afterFrames (fs.take i)).serve f.header.unit f.pdu).result := by
  induction fs generalizing b i with
  | nil => simp
  | cons f fs ih =>
    cases i with
    | zero => simp
    | succ i => simp [ih]

@[simp] theorem length_answersTo (b : Bank) (fs : List Frame) :
    (b.answersTo fs).length = fs.length := by
  induction fs generalizing b with
  | nil => rfl
  | cons f fs ih => simp [ih]

/-- All bytes but none at all are answered. -/
theorem exists_answer (b : Bank) (unit : UInt8) {pdu : List UInt8} (h : pdu ≠ []) :
    ∃ answer, (b.serve unit pdu).result = .ok answer := by
  cases b.serving unit pdu with
  | empty => exact absurd rfl h
  | unsupported _ _ hresult | malformed _ _ hresult | inaccessible _ _ _ hresult
  | accessible _ _ hresult => exact ⟨_, hresult⟩

end Bank

/-- The frame that carries an answer back to where a frame has come from. -/
def Modbus.Frame.reply (f : Frame) (a : Bank.Answer) : List UInt8 :=
  Frame.encode f.header.transaction f.header.unit a.reply.encode

/-- The reply to a frame is read back as its answer, about the transaction and the unit of the
    frame. -/
theorem Modbus.Frame.returns_reply (f : Frame) {b : Bank} {unit : UInt8} {pdu : List UInt8}
    {a : Bank.Answer} (h : (b.serve unit pdu).result = .ok a) :
    f.Returns a.reply.encode (f.reply a) := by
  obtain ⟨hmin, hmax⟩ := Bank.length_encode_of_serve h
  exact f.returns_encode (by omega) (by omega)

/-- Two feedings of one connection, the one after the other. -/
def Fed.next (fed later : Fed) : Fed :=
  ⟨later.server, fed.journal ++ later.journal, fed.replies ++ later.replies, later.remainder⟩

namespace Server

/-! ### Feeding -/

section Feeding

variable {s : Server} {peer : String} {stream : List UInt8}

variable (s peer stream) in
/-- Feeding goes by what the byte stream begins with. -/
theorem feed_eq : s.feed peer stream =
    match Frame.next stream with
    | .incomplete => ⟨s, [], [], .waiting stream⟩
    | .malformed e =>
      ⟨{ s with counters := s.counters.malformed },
        [.warn s!"Malformed frame from {peer}: {e.message}"], [], .closed⟩
    | .frame f rest =>
      match (s.answer peer f).reply with
      | none => ⟨(s.answer peer f).server, (s.answer peer f).journal, [], .closed⟩
      | some reply =>
        Fed.next ⟨(s.answer peer f).server, (s.answer peer f).journal, [reply], .waiting rest⟩
          ((s.answer peer f).server.feed peer rest) := by
  rw [feed]
  split
  · next hnext => rw [hnext]
  · next e hnext => rw [hnext]
  · next f rest hnext =>
    rw [hnext]
    cases hreply : (s.answer peer f).reply with
    | none => simp only [hreply]
    | some reply => simp only [hreply, Fed.next, List.singleton_append]

theorem feed_of_unfinished (h : Frame.Unfinished stream) :
    s.feed peer stream = ⟨s, [], [], .waiting stream⟩ := by
  rw [feed_eq, Frame.next_eq_incomplete_iff.2 h]

theorem feed_of_malformed {e : Error} (hnext : Frame.next stream = .malformed e) :
    s.feed peer stream =
      ⟨{ s with counters := s.counters.malformed },
        [.warn s!"Malformed frame from {peer}: {e.message}"], [], .closed⟩ := by
  rw [feed_eq, hnext]

/-- A frame with an answer is answered, and then the rest of the byte stream is fed. -/
theorem feed_of_frame {f : Frame} {rest reply : List UInt8}
    (hnext : Frame.next stream = .frame f rest) (hreply : (s.answer peer f).reply = some reply) :
    s.feed peer stream =
      Fed.next ⟨(s.answer peer f).server, (s.answer peer f).journal, [reply], .waiting rest⟩
        ((s.answer peer f).server.feed peer rest) := by
  rw [feed_eq, hnext]
  simp only [hreply]

variable (peer) in
/-- What a server has after answering one frame. -/
theorem answer_of_ok {f : Frame} {a : Bank.Answer}
    (h : (s.bank.serve f.header.unit f.pdu).result = .ok a) :
    (s.answer peer f).reply = some (f.reply a) ∧
      (s.answer peer f).server =
        { s with
          bank := (s.bank.serve f.header.unit f.pdu).bank
          counters := (s.counters.received f.size).replied a.reply.isException
            (f.reply a).length } := by
  unfold answer
  simp only [h]
  exact ⟨rfl, rfl⟩

/-- A whole frame is always replied to. -/
theorem exists_answer (s : Server) (peer : String) {f : Frame} (hf : f.Complete) :
    ∃ a, (s.bank.serve f.header.unit f.pdu).result = .ok a ∧
      (s.answer peer f).reply = some (f.reply a) := by
  obtain ⟨a, ha⟩ := s.bank.exists_answer f.header.unit hf.pdu_ne_nil
  exact ⟨a, ha, (answer_of_ok peer ha).1⟩

end Feeding

/-! ### Pieces -/

/-- Feeds a connection with its bytes as they arrive, piece by piece.  What is not a whole frame yet
    waits for the next piece. -/
def receive (s : Server) (peer : String) (waiting : List UInt8) : List (List UInt8) → Fed
  | [] => ⟨s, [], [], .waiting waiting⟩
  | piece :: pieces =>
    let fed := s.feed peer (waiting ++ piece)
    match fed.remainder with
    | .closed => fed
    | .waiting rest => fed.next (fed.server.receive peer rest pieces)

/-- More bytes are served where the ones before them have left off, unless these have closed the
    connection. -/
theorem feed_append (s : Server) (peer : String) (stream more : List UInt8) :
    ((s.feed peer stream).remainder = .closed ∧
      s.feed peer (stream ++ more) = s.feed peer stream) ∨
    ∃ rest, (s.feed peer stream).remainder = .waiting rest ∧ Frame.Unfinished rest ∧
      s.feed peer (stream ++ more) =
        (s.feed peer stream).next ((s.feed peer stream).server.feed peer (rest ++ more)) := by
  obtain ⟨fs, tail, hcut⟩ := Frame.exists_cut stream
  induction fs generalizing s stream with
  | nil =>
    obtain rfl : stream = tail := hcut.joined
    rcases hcut.tail with hunfinished | hrejected
    · right
      rw [feed_of_unfinished hunfinished]
      exact ⟨stream, rfl, hunfinished, by simp [Fed.next]⟩
    · left
      obtain ⟨e, hnext⟩ := Frame.rejected_iff.1 hrejected
      rw [feed_of_malformed hnext, feed_of_malformed (Frame.next_append_of_malformed hnext more)]
      exact ⟨rfl, rfl⟩
  | cons f fs ih =>
    obtain ⟨rest, rfl, hf, hnext, hrest⟩ := hcut.of_cons
    obtain ⟨a, -, hreply⟩ := s.exists_answer peer hf
    have hmore : Frame.next (f.bytes ++ rest ++ more) = .frame f (rest ++ more) :=
      Frame.next_eq_frame_iff.2 ⟨hf, List.append_assoc ..⟩
    rw [feed_of_frame hnext hreply, feed_of_frame hmore hreply]
    rcases ih (s.answer peer f).server rest hrest with ⟨hclosed, heq⟩ | ⟨left, hwait, hleft, heq⟩
    · left
      rw [heq]
      exact ⟨hclosed, rfl⟩
    · right
      rw [heq]
      exact ⟨left, hwait, hleft, by simp [Fed.next]⟩

/-- The pieces in which bytes arrive do not matter. -/
theorem receive_eq_feed (s : Server) (peer : String) {waiting : List UInt8}
    (hwaiting : Frame.Unfinished waiting) (pieces : List (List UInt8)) :
    s.receive peer waiting pieces = s.feed peer (waiting ++ pieces.flatten) := by
  induction pieces generalizing s waiting with
  | nil => rw [receive, List.flatten_nil, List.append_nil, feed_of_unfinished hwaiting]
  | cons piece pieces ih =>
    rw [receive, List.flatten_cons, ← List.append_assoc]
    rcases s.feed_append peer (waiting ++ piece) pieces.flatten with
      ⟨hclosed, heq⟩ | ⟨rest, hwait, hrest, heq⟩
    · simp only [hclosed, heq]
    · simp only [hwait, heq, ih _ hrest]

/-! ### Conversations -/

/-- What serving some frames and the tail behind them makes of a server: `answers` are the answers to
    the frames, each by the bank that the frames before it leave. -/
structure Conversation (s : Server) (fs : List Frame) (tail : List UInt8)
    (answers : List Bank.Answer) (fed : Fed) : Prop where
  answered : s.bank.answersTo fs = answers.map .ok
  replies : fed.replies = List.zipWith Frame.reply fs answers
  server : fed.server =
    { s with bank := s.bank.afterFrames fs, counters := fed.server.counters }
  connections : fed.server.counters.connections = s.counters.connections
  rejected : fed.server.counters.rejected = s.counters.rejected
  total : fed.server.counters.total = s.counters.total + fs.length
  bytesReceived : fed.server.counters.bytesReceived =
    s.counters.bytesReceived + (fs.flatMap Frame.bytes).length
  bytesSent : fed.server.counters.bytesSent =
    s.counters.bytesSent + fed.replies.flatten.length
  successful : fed.server.counters.successful =
    s.counters.successful + answers.countP fun a => !a.reply.isException
  /-- A tail that is less than a frame is not counted; the connection waits for the rest of it. -/
  unfinished (h : Frame.Unfinished tail) : fed.remainder = .waiting tail ∧
    fed.server.counters.successful + fed.server.counters.failed =
      s.counters.successful + s.counters.failed + fs.length
  /-- A header that is rejected counts as one failure and closes the connection. -/
  malformed (h : Frame.Rejected tail) : fed.remainder = .closed ∧
    fed.server.counters.successful + fed.server.counters.failed =
      s.counters.successful + s.counters.failed + fs.length + 1

namespace Conversation

variable {s : Server} {fs : List Frame} {tail : List UInt8} {answers : List Bank.Answer} {fed : Fed}

/-- Every frame has one answer. -/
private theorem length_answers (h : Conversation s fs tail answers fed) :
    answers.length = fs.length := by
  have hlen := congrArg List.length h.answered
  rw [List.length_map] at hlen
  rw [← hlen, Bank.length_answersTo]

/-- Every frame has one reply. -/
private theorem length_replies (h : Conversation s fs tail answers fed) :
    fed.replies.length = fs.length := by
  rw [h.replies, List.length_zipWith, h.length_answers, Nat.min_self]

/-- The reply to a frame carries the answer of the bank which the frames before it leave. -/
theorem getElem?_replies (h : Conversation s fs tail answers fed) {i : Nat} {f : Frame}
    (hf : fs[i]? = some f) :
    ∃ a, ((s.bank.afterFrames (fs.take i)).serve f.header.unit f.pdu).result = .ok a ∧
      answers[i]? = some a ∧ fed.replies[i]? = some (f.reply a) ∧
      f.Returns a.reply.encode (f.reply a) := by
  have hanswer := s.bank.getElem?_answersTo fs i
  rw [h.answered, List.getElem?_map, hf, Option.map_some, Option.map_eq_some_iff] at hanswer
  obtain ⟨a, ha, hresult⟩ := hanswer
  refine ⟨a, hresult.symm, ha, ?_, f.returns_reply hresult.symm⟩
  rw [h.replies, List.getElem?_zipWith, hf, ha]

end Conversation

/-- With no frame, only the tail is met. -/
theorem conversation_nil (s : Server) (peer : String) {tail : List UInt8}
    (htail : Frame.Unfinished tail ∨ Frame.Rejected tail) :
    Conversation s [] tail [] (s.feed peer tail) := by
  rcases htail with hunfinished | hrejected
  · rw [feed_of_unfinished hunfinished]
    exact
      { answered := rfl, replies := rfl, server := rfl, connections := rfl, rejected := rfl
        total := rfl, bytesReceived := rfl, bytesSent := rfl, successful := rfl
        unfinished := fun _ => ⟨rfl, rfl⟩
        malformed := fun h => absurd hunfinished h.not_unfinished }
  · obtain ⟨e, hnext⟩ := Frame.rejected_iff.1 hrejected
    rw [feed_of_malformed hnext]
    exact
      { answered := rfl, replies := rfl, server := rfl, connections := rfl, rejected := rfl
        total := rfl, bytesReceived := rfl, bytesSent := rfl, successful := rfl
        unfinished := fun h => absurd h hrejected.not_unfinished
        malformed := fun _ => ⟨rfl, rfl⟩ }

/-- The server that has answered one frame counts it as received, as replied to and as either
    successful or failed. -/
theorem counters_answer {s : Server} {f : Frame} {a : Bank.Answer}
    (h : (s.bank.serve f.header.unit f.pdu).result = .ok a) (peer : String) :
    (s.answer peer f).server.counters =
      { s.counters with
        total := s.counters.total + 1
        bytesReceived := s.counters.bytesReceived + f.bytes.length
        bytesSent := s.counters.bytesSent + (f.reply a).length
        successful := s.counters.successful + if a.reply.isException then 0 else 1
        failed := s.counters.failed + if a.reply.isException then 1 else 0 } := by
  rw [(answer_of_ok peer h).2, ← Frame.size_eq_length_bytes]
  cases hexception : a.reply.isException <;> rfl

/-- A conversation goes on with the server that the first frame leaves. -/
theorem Conversation.cons {s : Server} {peer : String} {f : Frame} {a : Bank.Answer}
    {fs : List Frame} {rest tail : List UInt8} {answers : List Bank.Answer} {fed : Fed}
    (ha : (s.bank.serve f.header.unit f.pdu).result = .ok a)
    (h : Conversation (s.answer peer f).server fs tail answers fed) :
    Conversation s (f :: fs) tail (a :: answers)
      (Fed.next ⟨(s.answer peer f).server, (s.answer peer f).journal, [f.reply a], .waiting rest⟩
        fed) := by
  have hserver := (answer_of_ok peer ha).2
  have hbank : (s.answer peer f).server.bank = (s.bank.serve f.header.unit f.pdu).bank := by
    rw [hserver]
  have hcounters := counters_answer ha peer
  -- Each frame adds one to what is counted as successful or failed.
  have hone : (s.answer peer f).server.counters.successful +
      (s.answer peer f).server.counters.failed =
        s.counters.successful + s.counters.failed + 1 := by
    simp only [hcounters]
    cases a.reply.isException <;> simp only [Bool.false_eq_true, if_false, if_true] <;> omega
  constructor
  case answered => rw [Bank.answersTo_cons, ha, ← hbank, h.answered, List.map_cons]
  case replies =>
    rw [List.zipWith_cons_cons, ← h.replies]
    rfl
  case server =>
    show fed.server = _
    rw [h.server, hbank, hserver]
    rfl
  case connections =>
    show fed.server.counters.connections = _
    simp only [h.connections, hcounters]
  case rejected =>
    show fed.server.counters.rejected = _
    simp only [h.rejected, hcounters]
  case total =>
    show fed.server.counters.total = _
    simp only [h.total, hcounters, List.length_cons]
    omega
  case bytesReceived =>
    show fed.server.counters.bytesReceived = _
    simp only [h.bytesReceived, hcounters, List.flatMap_cons, List.length_append]
    omega
  case bytesSent =>
    show fed.server.counters.bytesSent = _ + ([f.reply a] ++ fed.replies).flatten.length
    simp only [h.bytesSent, hcounters, List.singleton_append, List.flatten_cons,
      List.length_append]
    omega
  case successful =>
    show fed.server.counters.successful = _
    simp only [h.successful, hcounters, List.countP_cons]
    cases a.reply.isException <;> simp only [Bool.false_eq_true, if_false, if_true,
      Bool.not_true, Bool.not_false] <;> omega
  case unfinished =>
    intro hunfinished
    obtain ⟨hremainder, hcounted⟩ := h.unfinished hunfinished
    refine ⟨hremainder, hcounted.trans ?_⟩
    rw [hone, List.length_cons]
    omega
  case malformed =>
    intro hrejected
    obtain ⟨hremainder, hcounted⟩ := h.malformed hrejected
    refine ⟨hremainder, hcounted.trans ?_⟩
    rw [hone, List.length_cons]
    omega

/-- Feeding a byte stream is the conversation of its cut. -/
theorem feed_of_cut (s : Server) (peer : String) {stream tail : List UInt8} {fs : List Frame}
    (hcut : Frame.Cut stream fs tail) :
    ∃ answers, Conversation s fs tail answers (s.feed peer stream) := by
  induction fs generalizing s stream with
  | nil =>
    obtain rfl : stream = tail := hcut.joined
    exact ⟨[], s.conversation_nil peer hcut.tail⟩
  | cons f fs ih =>
    obtain ⟨rest, rfl, hf, hnext, hrest⟩ := hcut.of_cons
    obtain ⟨a, ha, hreply⟩ := s.exists_answer peer hf
    obtain ⟨answers, hlater⟩ := ih (s.answer peer f).server hrest
    rw [feed_of_frame hnext hreply]
    exact ⟨a :: answers, hlater.cons ha⟩

end Server

end SolarTwin
