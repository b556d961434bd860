import Mathlib.Data.List.DropRight
import Mathlib.Data.List.Forall2
import DiscoC.Framework.Slots
import DiscoC.Framework.System

/-! # Messages of several chunks

  Model of `LWS_CALLBACK_CLIENT_RECEIVE` in `web/websocket.c`, and of what
  `websocket_connect` does to the same fields. A message arrives in chunks.
  They are put together in the block `content`, with a null byte at the end,
  and handed to `on_receive` with the last one of them.

  Blocks are modelled byte by byte: what an allocation leaves in them is not
  known, and nothing is written behind their end. Allocations succeed, and a
  `size_t` does not overflow as the blocks are in memory.

  The content of a message is given by the events before it alone
  (`messages`). Every run calls `on_receive` with just these messages
  (`messages_reassembled`).
-/

namespace DiscoC

/-! ### The buffer -/

/-- A call of `on_receive`. -/
structure ReceiveCall where
  content : Slots UInt8
  size : Nat

/-- The fields of `websocket_client_t` for the message that is put together,
    and the calls made so far. -/
structure MessageBuffer where
  /-- null, or a block -/
  content : Option (Slots UInt8)
  size : Nat
  calls : List ReceiveCall

/-- What happens to the buffer. -/
inductive BufferEvent where
  /-- A chunk is received; `final_fragment` is `lws_is_final_fragment`. -/
  | receive (chunk : List UInt8) (final_fragment : Bool)
  /-- `websocket_connect` is called. -/
  | connect

/-- `client->content`, reallocated. The null pointer is as good as an empty
    block. -/
def MessageBuffer.realloc (b : MessageBuffer) (n : Nat) : Slots UInt8 :=
  Slots.realloc (b.content.getD []) n

/-- `LWS_CALLBACK_CLIENT_RECEIVE`. -/
def MessageBuffer.receive (b : MessageBuffer) (chunk : List UInt8) (final_fragment : Bool) :
    Option MessageBuffer := do
  let content := b.realloc (b.size + chunk.length + 1)
  let content ← content.copy b.size chunk
  let content ← content.store (b.size + chunk.length) 0
  let size := b.size + chunk.length
  if final_fragment then
    some { content := none, size := 0, calls := b.calls ++ [{ content, size }] }
  else
    some { b with content := some content, size }

/-- `websocket_connect`, for the buffer. -/
def MessageBuffer.connect (b : MessageBuffer) : MessageBuffer :=
  { b with content := some (Slots.malloc 1), size := 0 }

def MessageBuffer.step (b : MessageBuffer) : BufferEvent → Option MessageBuffer
  | .receive chunk final_fragment => b.receive chunk final_fragment
  | .connect => some b.connect

/-- A client is all zero at first. -/
def MessageBuffer.empty : MessageBuffer where
  content := none
  size := 0
  calls := []

/-- The runs of the buffer. -/
def message_buffer : System MessageBuffer BufferEvent := .ofFn .empty MessageBuffer.step

/-! ### Messages -/

/-- The bytes an event brings. -/
def BufferEvent.chunk : BufferEvent → List UInt8
  | .receive chunk _ => chunk
  | .connect => []

/-- The event ends a message. -/
def BufferEvent.ends_message : BufferEvent → Bool
  | .receive _ final_fragment => final_fragment
  | .connect => false

/-- The event goes on with a message. -/
def BufferEvent.goes_on : BufferEvent → Bool
  | .receive _ final_fragment => !final_fragment
  | .connect => false

/-- The bytes received since the last message or the last connection. -/
def pending (es : List BufferEvent) : List UInt8 :=
  (es.rtakeWhile BufferEvent.goes_on).flatMap BufferEvent.chunk

/-- The message that the last of the events ends. -/
def last_message (es : List BufferEvent) : Option (List UInt8) :=
  (es.getLast?.filter BufferEvent.ends_message).map fun e => pending es.dropLast ++ e.chunk

/-- The messages, one for each final chunk. -/
def messages (es : List BufferEvent) : List (List UInt8) := es.inits.filterMap last_message

/-- A call hands over a message: its bytes, its size and a null byte behind
    it. -/
structure ReceiveCall.Delivers (call : ReceiveCall) (message : List UInt8) : Prop where
  size : call.size = message.length
  content : call.content.load call.size = some message
  terminated : call.content[call.size]? = some (some 0)

/-! ### One more event -/

theorem pending_snoc_goes_on {es : List BufferEvent} {e : BufferEvent} (h : e.goes_on = true) :
    pending (es ++ [e]) = pending es ++ e.chunk := by
  rw [pending, List.rtakeWhile_concat_pos _ _ _ h, List.flatMap_append]
  simp [pending]

theorem pending_snoc_ends {es : List BufferEvent} {e : BufferEvent} (h : ¬ e.goes_on = true) :
    pending (es ++ [e]) = [] := by
  rw [pending, List.rtakeWhile_concat_neg _ _ _ h]
  rfl

theorem messages_snoc (es : List BufferEvent) (e : BufferEvent) :
    messages (es ++ [e]) =
      messages es ++ if e.ends_message then [pending es ++ e.chunk] else [] := by
  have hlast : last_message (es ++ [e]) =
      if e.ends_message then some (pending es ++ e.chunk) else none := by
    rw [last_message, List.getLast?_concat, List.dropLast_concat, Option.filter_some]
    cases e.ends_message <;> rfl
  have hinits : (es ++ [e]).inits = es.inits ++ [es ++ [e]] := by
    rw [List.inits_append]
    rfl
  rw [messages, hinits, List.filterMap_append, List.filterMap_cons, hlast, messages]
  cases e.ends_message <;> rfl

/-- As long as there is no other connection, all bytes received are in the
    messages or pending, once and in order. -/
theorem messages_append_pending {es : List BufferEvent} (h : BufferEvent.connect ∉ es) :
    (messages es).flatten ++ pending es = es.flatMap BufferEvent.chunk := by
  induction es using List.reverseRecOn with
  | nil => rfl
  | append_singleton es e ih =>
    rw [List.mem_append, not_or] at h
    obtain ⟨hes, he⟩ := h
    rw [List.flatMap_append, ← ih hes, messages_snoc, List.flatten_append]
    cases e with
    | connect => exact absurd List.mem_cons_self he
    | receive chunk final_fragment =>
      cases final_fragment with
      | true =>
        -- what was pending has become a message
        have hpending : pending (es ++ [.receive chunk true]) = [] :=
          pending_snoc_ends Bool.false_ne_true
        rw [hpending]
        simp [BufferEvent.ends_message, BufferEvent.chunk]
      | false =>
        rw [pending_snoc_goes_on rfl]
        simp [BufferEvent.ends_message, BufferEvent.chunk]

/-! ### Runs -/

/-- The buffer after some events: the pending bytes are in it, and perhaps
    some slots behind them. The messages so far have been delivered. -/
structure Buffered (es : List BufferEvent) (b : MessageBuffer) : Prop where
  size : b.size = (pending es).length
  content : ∃ rest, b.content.getD [] = Slots.filled (pending es) rest
  calls : List.Forall₂ ReceiveCall.Delivers b.calls (messages es)

theorem buffered_empty : Buffered [] .empty where
  size := rfl
  content := ⟨[], rfl⟩
  calls := .nil

/-- The bytes of a chunk go behind those of the message, and the null byte
    behind them, at the end of the block. -/
theorem receive_content {es : List BufferEvent} {b : MessageBuffer} (h : Buffered es b)
    (chunk : List UInt8) :
    ∃ content, (b.realloc (b.size + chunk.length + 1)).copy b.size chunk = some content ∧
      content.store (b.size + chunk.length) 0 =
        some (Slots.filled (pending es ++ chunk ++ [0]) []) := by
  obtain ⟨rest, hrest⟩ := h.content
  have hblock : b.realloc (b.size + chunk.length + 1) =
      Slots.filled (pending es) (rest.realloc (chunk.length + 1)) := by
    rw [MessageBuffer.realloc, hrest, h.size, Nat.add_assoc, Slots.realloc_filled]
  -- behind the chunk, there is one slot
  have hroom : chunk.length ≤ (rest.realloc (chunk.length + 1)).length := by
    rw [Slots.length_realloc]
    omega
  have hlast : ((rest.realloc (chunk.length + 1)).drop chunk.length).length = 1 := by
    rw [List.length_drop, Slots.length_realloc]
    omega
  obtain ⟨slot, hslot⟩ := List.length_eq_one_iff.mp hlast
  have hcursor : b.size + chunk.length = (pending es ++ chunk).length := by
    rw [h.size, List.length_append]
  refine ⟨Slots.filled (pending es ++ chunk) [slot], ?_, ?_⟩
  · rw [hblock, h.size, Slots.copy_filled _ _ hroom, hslot]
  · rw [hcursor, Slots.store_filled]

/-- What is done with a chunk. -/
theorem receive_eq {es : List BufferEvent} {b : MessageBuffer} (h : Buffered es b)
    (chunk : List UInt8) (final_fragment : Bool) :
    b.receive chunk final_fragment =
      if final_fragment then
        some {
          content := none
          size := 0
          calls := b.calls ++
            [⟨Slots.filled (pending es ++ chunk ++ [0]) [], b.size + chunk.length⟩] }
      else
        some { b with
          content := some (Slots.filled (pending es ++ chunk ++ [0]) [])
          size := b.size + chunk.length } := by
  obtain ⟨content, hcopy, hstore⟩ := receive_content h chunk
  rw [MessageBuffer.receive, hcopy, Option.bind_eq_bind, Option.bind_some, hstore]
  rfl

/-- A block that ends with a null byte delivers what is before it. -/
theorem delivers_filled (message : List UInt8) :
    (ReceiveCall.mk (Slots.filled (message ++ [0]) []) message.length).Delivers message := by
  have hfilled : Slots.filled (message ++ [0]) [] = Slots.filled message [some 0] := by
    simp [Slots.filled]
  refine ⟨rfl, ?_, ?_⟩
  · rw [hfilled]
    exact Slots.load_filled message [some 0]
  · simp [Slots.filled]

/-- A final chunk is delivered with the pending bytes, and nothing is pending
    behind it. -/
theorem receive_final {es : List BufferEvent} {b : MessageBuffer} (h : Buffered es b)
    (chunk : List UInt8) :
    ∃ b', b.receive chunk true = some b' ∧ Buffered (es ++ [.receive chunk true]) b' := by
  have hpending : pending (es ++ [.receive chunk true]) = [] :=
    pending_snoc_ends Bool.false_ne_true
  refine ⟨_, receive_eq h chunk true, ?_⟩
  refine { size := ?_, content := ⟨[], ?_⟩, calls := ?_ }
  · rw [hpending]
    rfl
  · rw [hpending]
    rfl
  · rw [messages_snoc]
    refine List.rel_append h.calls (.cons ?_ .nil)
    -- what is passed on is what was pending, and the chunk
    have hsize : b.size + chunk.length = (pending es ++ chunk).length := by
      rw [h.size, List.length_append]
    rw [hsize]
    exact delivers_filled (pending es ++ chunk)

/-- Any other chunk is pending. -/
theorem receive_more {es : List BufferEvent} {b : MessageBuffer} (h : Buffered es b)
    (chunk : List UInt8) :
    ∃ b', b.receive chunk false = some b' ∧ Buffered (es ++ [.receive chunk false]) b' := by
  have hpending : pending (es ++ [.receive chunk false]) = pending es ++ chunk :=
    pending_snoc_goes_on rfl
  refine ⟨_, receive_eq h chunk false, ?_⟩
  refine { size := ?_, content := ⟨[some 0], ?_⟩, calls := ?_ }
  · rw [hpending, List.length_append, ← h.size]
  · rw [hpending]
    simp [Slots.filled]
  · rw [messages_snoc]
    show List.Forall₂ _ b.calls (messages es ++ [])
    rw [List.append_nil]
    exact h.calls

/-- A connection drops what is pending. -/
theorem connect_buffered {es : List BufferEvent} {b : MessageBuffer} (h : Buffered es b) :
    Buffered (es ++ [.connect]) b.connect := by
  have hpending : pending (es ++ [.connect]) = [] := pending_snoc_ends Bool.false_ne_true
  refine { size := ?_, content := ⟨[none], ?_⟩, calls := ?_ }
  · rw [hpending]
    rfl
  · rw [hpending]
    rfl
  · rw [messages_snoc]
    show List.Forall₂ _ b.calls (messages es ++ [])
    rw [List.append_nil]
    exact h.calls

theorem step_buffered {es : List BufferEvent} {b : MessageBuffer} (h : Buffered es b)
    (e : BufferEvent) : ∃ b', b.step e = some b' ∧ Buffered (es ++ [e]) b' := by
  cases e with
  | receive chunk final_fragment =>
    cases final_fragment with
    | true => exact receive_final h chunk
    | false => exact receive_more h chunk
  | connect => exact ⟨b.connect, rfl, connect_buffered h⟩

/-- **Messages are put together from their chunks**: whatever chunks and
    connections come in whatever order, nothing undefined is done, and
    `on_receive` is called with the messages they make up, each terminated by
    a null byte. -/
theorem messages_reassembled (es : List BufferEvent) :
    ∃ b, message_buffer.Run es b ∧ List.Forall₂ ReceiveCall.Delivers b.calls (messages es) := by
  obtain ⟨b, hrun, hb⟩ := System.run_ofFn_total buffered_empty
    (fun _ e _ hb => step_buffered hb e) es
  exact ⟨b, hrun, hb.calls⟩

end DiscoC
