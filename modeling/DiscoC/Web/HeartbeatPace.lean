import DiscoC.Web.HeartbeatProgress

/-! # The pace of the heartbeats

  A heartbeat thread counts the times it has slept since its last heartbeat.
  Two heartbeats of one thread are therefore at least as far apart as the
  interval it has waited for, however the threads take turns and whenever a
  HELLO changes the interval (`heartbeats_paced`). Only a signal makes a sleep
  shorter, and each one by 10 ms at most. The interval is the first one or one
  that the server has named. So is the sequence id that is sent along, unless
  it is reset while it is read: then it is -1.

  As long as the connection is kept, the thread does not stop either: there
  is always one more heartbeat to come (`heartbeats_recur`).
-/

namespace DiscoC

/-! ### How long a thread has waited -/

/-- A heartbeat was sent at `time`: what the thread has counted since then,
    where its sleeps may have been shorter by `lost` in all. -/
def HeartbeatPc.WaitedSince (clock lost time : Nat) : HeartbeatPc → Prop
  | .test_active t => time + slp * (t + 1) ≤ clock + lost
  | .test_heartbeat_active t => time + slp * (t + 1) ≤ clock + lost
  | .compare t => time + slp * t ≤ clock + lost
  | .test_seq interval => (time + 1000 * interval : Int) ≤ clock + lost
  | .print interval _ => (time + 1000 * interval : Int) ≤ clock + lost
  | .send interval _ => (time + 1000 * interval : Int) ≤ clock + lost
  | .stamp => time ≤ clock
  | .sleep t wake => time + slp * (t + 1) ≤ wake + lost ∧ wake ≤ clock + slp
  | .ended => True

/-- The interval that a thread has waited for and announces. -/
def HeartbeatPc.interval : HeartbeatPc → Option Int
  | .test_seq interval => some interval
  | .print interval _ => some interval
  | .send interval _ => some interval
  | _ => none

/-- The steps that are left to a heartbeat thread until it sends, with an
    interval of `10 * n` milliseconds at most. -/
def HeartbeatPc.to_send (n clock : Nat) : HeartbeatPc → Nat
  | .send _ _ => 1
  | .print _ _ => 2
  | .test_seq _ => 3
  | .compare t => 4 + 6 * (n - t)
  | .test_heartbeat_active t => 5 + 6 * (n - (t + 1))
  | .test_active t => 6 + 6 * (n - (t + 1))
  | .sleep t wake => (if wake ≤ clock then 7 else 8) + 6 * (n - (t + 1))
  | .stamp => 9 + 6 * n
  | .ended => 0

/-- The sequence id that a thread is about to send. -/
def HeartbeatPc.seq : HeartbeatPc → Option Int
  | .send _ seq => seq
  | _ => none

theorem HeartbeatPc.WaitedSince.mono {clock clock' lost lost' time : Nat} {pc : HeartbeatPc}
    (hle : clock ≤ clock') (hlost : lost ≤ lost') (h : pc.WaitedSince clock lost time) :
    pc.WaitedSince clock' lost' time := by
  cases pc with
  | ended => trivial
  | _ =>
    simp only [HeartbeatPc.WaitedSince] at h ⊢
    omega

namespace GatewayThreads

/-- The signal interrupts a sleep of the thread `i`. -/
def GatewayLabel.interrupts (i : Nat) : GatewayLabel → Bool
  | .interrupt j => j == i
  | _ => false

/-- The time by which the sleeps of the thread `i` have been shorter, at most. -/
def lost (ls : List GatewayLabel) (i : Nat) : Nat := slp * ls.countP (GatewayLabel.interrupts i)

/-- Two heartbeats of one thread are an interval apart, but for what has been
    lost to signals. -/
def Apart (ls : List GatewayLabel) (later earlier : Beat) : Prop :=
  ∀ i, later.thread = some i → earlier.thread = some i →
    (earlier.time + 1000 * later.interval : Int) ≤ later.time + lost ls i

/-- A payload that has been handled. -/
def Received (ls : List GatewayLabel) (json : CJson) : Prop :=
  ∃ calls, .event (.receive (some json) calls) ∈ ls

/-- An interval that has been in force: the first one, or that of a HELLO. -/
def IntervalNamed (ls : List GatewayLabel) (interval : Int) : Prop :=
  interval = 10000 ∨ ∃ json, Received ls json ∧ payload_op json = some 10 ∧
    hello_interval json = some interval

/-- A sequence id that has been in force: none, or that of a dispatch. -/
def SeqNamed (ls : List GatewayLabel) (seq : Int) : Prop :=
  seq = -1 ∨ ∃ json d, Received ls json ∧ payload_op json = some 0 ∧
    cJSON_IsNumber (cJSON_GetObjectItemCaseSensitive json "s") = some d ∧ seq = CJson.int_of d

/-- An access stores what has been named, if anything. -/
def StoresNamed (ls : List GatewayLabel) (op : ServiceOp) : Prop :=
  (∀ interval, op = .HEARTBEAT_INTERVAL interval → IntervalNamed ls interval) ∧
    ∀ seq, op = .seq seq → SeqNamed ls seq

/-- What holds of the heartbeats sent. -/
structure BeatsOk (ls : List GatewayLabel) (s : GatewayThreads) : Prop where
  apart : s.sent.Pairwise (Apart ls)
  interval : ∀ b ∈ s.sent, b.thread.isSome → IntervalNamed ls b.interval
  seq : ∀ b ∈ s.sent, ∀ seq ∈ b.seq, SeqNamed ls seq ∧ (b.thread = none → seq ≠ -1)

/-- The invariant of the heartbeats. -/
structure PaceInv (ls : List GatewayLabel) (s : GatewayThreads) : Prop extends BeatsOk ls s where
  waited : ∀ i pc, s.threads[i]? = some pc → ∀ b ∈ s.sent, b.thread = some i →
    pc.WaitedSince s.clock (lost ls i) b.time
  known : ∀ b ∈ s.sent, ∀ i ∈ b.thread, i < s.threads.length
  past : ∀ b ∈ s.sent, b.time ≤ s.clock
  current : IntervalNamed ls s.HEARTBEAT_INTERVAL ∧ SeqNamed ls s.seq
  pending : ∀ op ∈ s.todo, StoresNamed ls op
  carried : ∀ pc ∈ s.threads, (∀ interval ∈ pc.interval, IntervalNamed ls interval) ∧
    ∀ seq ∈ pc.seq, SeqNamed ls seq

/-! ### What is lost and named stays so -/

theorem lost_snoc (ls : List GatewayLabel) (l : GatewayLabel) (i : Nat) :
    lost ls i ≤ lost (ls ++ [l]) i := by
  unfold lost
  rw [List.countP_append]
  exact Nat.mul_le_mul_left _ (Nat.le_add_right _ _)

/-- A signal costs the rest of one sleep. -/
theorem lost_interrupt (ls : List GatewayLabel) (i : Nat) :
    lost (ls ++ [.interrupt i]) i = lost ls i + slp := by
  have hone : [GatewayLabel.interrupt i].countP (GatewayLabel.interrupts i) = 1 := by
    simp [GatewayLabel.interrupts]
  unfold lost
  rw [List.countP_append, hone, Nat.mul_add, Nat.mul_one]

theorem Received.snoc {ls : List GatewayLabel} {json : CJson} (l : GatewayLabel)
    (h : Received ls json) : Received (ls ++ [l]) json := by
  obtain ⟨calls, hmem⟩ := h
  exact ⟨calls, List.mem_append_left _ hmem⟩

theorem IntervalNamed.snoc {ls : List GatewayLabel} {interval : Int} (l : GatewayLabel)
    (h : IntervalNamed ls interval) : IntervalNamed (ls ++ [l]) interval := by
  rcases h with rfl | ⟨json, hrec, hop, hhello⟩
  · exact .inl rfl
  · exact .inr ⟨json, hrec.snoc l, hop, hhello⟩

theorem SeqNamed.snoc {ls : List GatewayLabel} {seq : Int} (l : GatewayLabel)
    (h : SeqNamed ls seq) : SeqNamed (ls ++ [l]) seq := by
  rcases h with rfl | ⟨json, d, hrec, hop, hnum, hseq⟩
  · exact .inl rfl
  · exact .inr ⟨json, d, hrec.snoc l, hop, hnum, hseq⟩

theorem PaceInv.snoc {ls : List GatewayLabel} {s : GatewayThreads} (l : GatewayLabel)
    (h : PaceInv ls s) : PaceInv (ls ++ [l]) s where
  apart := by
    refine h.apart.imp fun hapart i hlater hearlier => ?_
    have hle := lost_snoc ls l i
    have happly := hapart i hlater hearlier
    omega
  interval b hb hthread := (h.interval b hb hthread).snoc l
  seq b hb seq hseq := (h.seq b hb seq hseq).imp_left (SeqNamed.snoc l)
  waited i pc hpc b hb hthread :=
    (h.waited i pc hpc b hb hthread).mono (Nat.le_refl _) (lost_snoc ls l i)
  known := h.known
  past := h.past
  current := ⟨h.current.1.snoc l, h.current.2.snoc l⟩
  pending op hop :=
    ⟨fun interval heq => ((h.pending op hop).1 interval heq).snoc l,
      fun seq heq => ((h.pending op hop).2 seq heq).snoc l⟩
  carried pc hpc :=
    ⟨fun interval hi => ((h.carried pc hpc).1 interval hi).snoc l,
      fun seq hs => ((h.carried pc hpc).2 seq hs).snoc l⟩

/-- The sequence id after a dispatch is named by it, or is the old one. -/
theorem seqNamed_next {ls : List GatewayLabel} {seq : Int} {json : CJson} (hrec : Received ls json)
    (hop : payload_op json = some 0) (h : SeqNamed ls seq) :
    SeqNamed ls (next_seq seq (cJSON_GetObjectItemCaseSensitive json "s")) := by
  unfold next_seq
  split
  · next d hd => exact .inr ⟨json, d, hrec, hop, hd, rfl⟩
  · split
    · exact .inl rfl
    · exact h

theorem mem_identify {c : WebsocketClient} {op : ServiceOp}
    (h : op ∈ gateway_handle_identify c) :
    (∀ seq, op ≠ .seq seq) ∧ ∀ interval, op ≠ .HEARTBEAT_INTERVAL interval := by
  unfold gateway_handle_identify gateway_send_heartbeat at h
  split at h
  · constructor <;> (rintro x rfl; simp at h)
  · constructor <;> (rintro x rfl; simp at h)

/-- What stores neither the interval nor the sequence id. -/
theorem storesNamed_of_quiet {ls : List GatewayLabel} {op : ServiceOp}
    (h : (∀ interval, op ≠ .HEARTBEAT_INTERVAL interval) ∧ ∀ seq, op ≠ .seq seq) :
    StoresNamed ls op :=
  ⟨fun interval heq => absurd heq (h.1 interval), fun seq heq => absurd heq (h.2 seq)⟩

/-- What a payload makes the handler store is what it names. -/
theorem receive_named {ls : List GatewayLabel} {s : GatewayThreads} {result : Option CJson}
    {calls : List ClientCall} (hseq : SeqNamed ls s.seq)
    (hrec : ∀ json ∈ result, Received ls json) {op : ServiceOp}
    (hop : op ∈ s.gateway_on_receive result calls) : StoresNamed ls op := by
  unfold gateway_on_receive at hop
  split at hop
  · cases hop
  · next json =>
    have hjson := hrec json rfl
    split at hop
    · next h0 =>
      -- a dispatch
      simp only [gateway_handle_dispatch, List.mem_cons] at hop
      rcases hop with rfl | rfl | hop
      · exact storesNamed_of_quiet ⟨by simp, by simp⟩
      · refine ⟨by simp, fun seq heq => ?_⟩
        rw [← ServiceOp.seq.inj heq]
        exact seqNamed_next hjson h0 hseq
      · rcases mem_calls hop with rfl | rfl
        · exact storesNamed_of_quiet ⟨by simp, by simp⟩
        · exact storesNamed_of_quiet ⟨by simp, by simp⟩
    · -- an INVALID_SESSION
      simp only [List.mem_cons, List.not_mem_nil, or_false] at hop
      rcases hop with rfl | rfl
      · exact ⟨by simp, fun seq heq => .inl (ServiceOp.seq.inj heq).symm⟩
      · exact storesNamed_of_quiet ⟨by simp, by simp⟩
    · next h10 =>
      -- a HELLO
      rcases List.mem_append.mp hop with hop | hop
      · obtain ⟨hno, hno'⟩ := mem_identify hop
        exact storesNamed_of_quiet ⟨hno', hno⟩
      · obtain ⟨interval, hmem, rfl⟩ := List.mem_map.mp hop
        refine ⟨fun interval' heq => ?_, by simp⟩
        rw [← ServiceOp.HEARTBEAT_INTERVAL.inj heq]
        exact .inr ⟨json, hjson, h10, Option.mem_toList.mp hmem⟩
    · simp only [gateway_send_heartbeat, List.mem_cons, List.not_mem_nil, or_false] at hop
      rcases hop with rfl | rfl
      · exact storesNamed_of_quiet ⟨by simp, by simp⟩
      · exact storesNamed_of_quiet ⟨by simp, by simp⟩
    · simp only [List.mem_cons, List.not_mem_nil, or_false] at hop
      rcases hop with rfl | rfl
      · exact storesNamed_of_quiet ⟨by simp, by simp⟩
      · exact storesNamed_of_quiet ⟨by simp, by simp⟩
    · cases hop

theorem mem_closed {c : WebsocketClient} {op : ServiceOp} (h : op ∈ websocket_closed c) :
    (∀ interval, op ≠ .HEARTBEAT_INTERVAL interval) ∧ ∀ seq, op ≠ .seq seq := by
  unfold websocket_closed at h
  constructor
  · rintro interval rfl
    split at h
    · simp at h
    · split at h <;> simp at h
  · rintro seq rfl
    split at h
    · simp at h
    · split at h <;> simp at h

theorem handler_named {ls : List GatewayLabel} {s : GatewayThreads} {e : ServiceEvent}
    (hseq : SeqNamed ls s.seq)
    (hrec : ∀ json calls, e = .receive (some json) calls → Received ls json)
    {op : ServiceOp} (hop : op ∈ s.handler e) : StoresNamed ls op := by
  -- only a payload names anything
  cases e with
  | receive result calls =>
    refine receive_named hseq ?_ hop
    rintro json rfl
    exact hrec json calls rfl
  | established =>
    apply storesNamed_of_quiet
    constructor <;> (rintro x rfl; simp [handler] at hop)
  | closed => exact storesNamed_of_quiet (mem_closed hop)
  | connection_error =>
    apply storesNamed_of_quiet
    constructor <;> (rintro x rfl; simp [handler] at hop)
  | sigterm => cases hop
  | service_returns =>
    apply storesNamed_of_quiet
    have hop : op ∈ (if _ then _ else _) := hop
    constructor
    · rintro x rfl
      split at hop
      · simp [websocket_exit] at hop
      · split at hop <;> simp at hop
    · rintro x rfl
      split at hop
      · simp [websocket_exit] at hop
      · split at hop <;> simp at hop
  | destroy =>
    apply storesNamed_of_quiet
    have hop : op ∈ _ :: ((if _ then websocket_closed _ else []) ++ _) := hop
    rw [List.mem_cons, List.mem_append] at hop
    rcases hop with rfl | hop | hop
    · exact ⟨by simp, by simp⟩
    · split at hop
      · exact mem_closed hop
      · cases hop
    · constructor <;> (rintro x rfl; simp at hop)

/-! ### Steps -/

section steps

variable {ls : List GatewayLabel} {s s' : GatewayThreads}

/-- A state in which nothing but the flags and the handler has changed. -/
theorem PaceInv.of_quiet (h : PaceInv ls s) (hsent : s'.sent = s.sent)
    (hthreads : s'.threads = s.threads) (hclock : s'.clock = s.clock)
    (hinterval : s'.HEARTBEAT_INTERVAL = s.HEARTBEAT_INTERVAL) (hseq : s'.seq = s.seq)
    (hpending : ∀ op ∈ s'.todo, StoresNamed ls op) : PaceInv ls s' where
  apart := by rw [hsent]; exact h.apart
  interval := by rw [hsent]; exact h.interval
  seq := by rw [hsent]; exact h.seq
  waited := by rw [hsent, hthreads, hclock]; exact h.waited
  known := by rw [hsent, hthreads]; exact h.known
  past := by rw [hsent, hclock]; exact h.past
  current := by rw [hinterval, hseq]; exact h.current
  pending := hpending
  carried := by rw [hthreads]; exact h.carried

/-- The service thread sends a heartbeat. -/
theorem PaceInv.send (h : PaceInv ls s) {service : ServiceThread} {ops : List ServiceOp}
    (hpending : ∀ op ∈ ops, StoresNamed ls op) :
    PaceInv ls { s.share .send_heartbeat with service, todo := ops } := by
  have hmem : ∀ b ∈ (s.share .send_heartbeat).sent, b ∈ s.sent ∨
      b.thread = none ∧ ∀ seq ∈ b.seq, seq = s.seq ∧ seq ≠ -1 := by
    intro b hb
    rcases List.mem_cons.mp hb with rfl | hb
    · refine .inr ⟨rfl, fun seq hseq => ?_⟩
      by_cases hneg : (s.seq == -1) = true
      · rw [if_pos hneg] at hseq
        cases hseq
      · rw [if_neg hneg] at hseq
        obtain rfl := Option.some.inj hseq
        exact ⟨rfl, by simpa using hneg⟩
    · exact .inl hb
  refine ⟨⟨?_, fun b hb hthread => ?_, fun b hb seq hseq => ?_⟩, fun i pc hpc b hb hthread => ?_,
    fun b hb i hi => ?_, fun b hb => ?_, h.current, hpending, h.carried⟩
  · exact List.pairwise_cons.mpr ⟨fun _ _ _ hnone => (by cases hnone), h.apart⟩
  · rcases hmem b hb with hb | ⟨hnone, -⟩
    · exact h.interval b hb hthread
    · rw [hnone] at hthread
      cases hthread
  · rcases hmem b hb with hb | ⟨-, hs⟩
    · exact h.seq b hb seq hseq
    · obtain ⟨rfl, hne⟩ := hs seq hseq
      exact ⟨h.current.2, fun _ => hne⟩
  · rcases hmem b hb with hb | ⟨hnone, -⟩
    · exact h.waited i pc hpc b hb hthread
    · rw [hnone] at hthread
      cases hthread
  · rcases hmem b hb with hb | ⟨hnone, -⟩
    · exact h.known b hb i hi
    · rw [hnone] at hi
      cases hi
  · rcases List.mem_cons.mp hb with rfl | hb
    · exact Nat.le_refl s.clock
    · exact h.past b hb

/-- A heartbeat thread is created. -/
theorem PaceInv.create (h : PaceInv ls s) {service : ServiceThread} {ops : List ServiceOp}
    (hpending : ∀ op ∈ ops, StoresNamed ls op) :
    PaceInv ls { s.share .create with service, todo := ops } := by
  refine ⟨⟨h.apart, h.interval, h.seq⟩, fun i pc hpc b hb hthread => ?_, fun b hb i hi => ?_,
    h.past, h.current, hpending, fun pc hpc => ?_⟩
  · -- the new thread has not sent anything yet
    have hlt := h.known b hb i hthread
    have hpc : (s.threads ++ [HeartbeatPc.test_active 0])[i]? = some pc := hpc
    rw [List.getElem?_append_left hlt] at hpc
    exact h.waited i pc hpc b hb hthread
  · show i < (s.threads ++ [HeartbeatPc.test_active 0]).length
    rw [List.length_append]
    exact Nat.lt_add_right 1 (h.known b hb i hi)
  · rcases List.mem_append.mp hpc with hpc | hpc
    · exact h.carried pc hpc
    · obtain rfl := List.mem_singleton.mp hpc
      exact ⟨nofun, nofun⟩

/-- **Step lemma** for the service thread. -/
theorem PaceInv.service_step (h : PaceInv ls s) (hs : s.service_step = some s') :
    PaceInv ls s' := by
  cases htodo : s.todo with
  | nil =>
    unfold GatewayThreads.service_step at hs
    rw [htodo] at hs
    cases hs
  | cons op ops =>
    have hhead := h.pending op (by rw [htodo]; exact List.mem_cons_self)
    have htail : ∀ op ∈ ops, StoresNamed ls op := fun op' hop' =>
      h.pending op' (by rw [htodo]; exact List.mem_cons_of_mem op hop')
    by_cases hclose : op = .close
    · subst hclose
      obtain rfl : s.start_close ops = s' := by
        unfold GatewayThreads.service_step at hs
        rw [htodo] at hs
        exact Option.some.inj hs
      unfold start_close
      split
      · refine h.of_quiet rfl rfl rfl rfl rfl fun op' hop' => ?_
        rcases List.mem_cons.mp hop' with rfl | hop'
        · exact ⟨nofun, nofun⟩
        · exact htail op' hop'
      · exact h.of_quiet rfl rfl rfl rfl rfl htail
    · by_cases hjoin : op = .join
      · subst hjoin
        obtain ⟨-, service, -, rfl⟩ := join_eq htodo hs
        exact h.of_quiet rfl rfl rfl rfl rfl htail
      · obtain ⟨service, -, rfl⟩ := service_step_cons htodo hclose hjoin hs
        cases op with
        | send_heartbeat => exact h.send htail
        | create => exact h.create htail
        | seq v =>
          exact ⟨⟨h.apart, h.interval, h.seq⟩, h.waited, h.known, h.past,
            ⟨h.current.1, hhead.2 v rfl⟩, htail, h.carried⟩
        | HEARTBEAT_INTERVAL v =>
          exact ⟨⟨h.apart, h.interval, h.seq⟩, h.waited, h.known, h.past,
            ⟨hhead.1 v rfl, h.current.2⟩, htail, h.carried⟩
        | _ => exact h.of_quiet rfl rfl rfl rfl rfl htail

/-- A heartbeat thread is somewhere else, and has waited long enough there. -/
theorem PaceInv.set_thread (h : PaceInv ls s) {i : Nat} {pc pc' : HeartbeatPc}
    (hpc : s.threads[i]? = some pc)
    (hwaited : ∀ b ∈ s.sent, b.thread = some i → pc'.WaitedSince s.clock (lost ls i) b.time)
    (hinterval : ∀ interval ∈ pc'.interval, IntervalNamed ls interval)
    (hseq : ∀ seq ∈ pc'.seq, SeqNamed ls seq) : PaceInv ls (s.set_thread i pc') := by
  refine ⟨⟨h.apart, h.interval, h.seq⟩, fun j pc₁ hpc₁ b hb hthread => ?_, fun b hb j hj => ?_,
    h.past, h.current, h.pending, fun pc₁ hpc₁ => ?_⟩
  · by_cases hij : i = j
    · subst hij
      have hpc₁ : (s.threads.set i pc')[i]? = some pc₁ := hpc₁
      rw [List.getElem?_set_self (List.getElem?_eq_some_iff.mp hpc).1] at hpc₁
      obtain rfl := Option.some.inj hpc₁
      exact hwaited b hb hthread
    · have hpc₁ : (s.threads.set i pc')[j]? = some pc₁ := hpc₁
      rw [List.getElem?_set_ne hij] at hpc₁
      exact h.waited j pc₁ hpc₁ b hb hthread
  · show j < (s.threads.set i pc').length
    rw [List.length_set]
    exact h.known b hb j hj
  · rcases List.mem_or_eq_of_mem_set hpc₁ with hmem | rfl
    · exact h.carried pc₁ hmem
    · exact ⟨hinterval, hseq⟩

/-- A heartbeat thread moves on without sending. -/
theorem PaceInv.advance (h : PaceInv ls s) {i : Nat} {pc pc' : HeartbeatPc}
    (hpc : s.threads[i]? = some pc)
    (hwaited : ∀ time, time ≤ s.clock → pc.WaitedSince s.clock (lost ls i) time →
      pc'.WaitedSince s.clock (lost ls i) time)
    (hinterval : ∀ interval ∈ pc'.interval, IntervalNamed ls interval)
    (hseq : ∀ seq ∈ pc'.seq, SeqNamed ls seq) : PaceInv ls (s.set_thread i pc') := by
  refine h.set_thread hpc (fun b hb hthread => ?_) hinterval hseq
  exact hwaited _ (h.past b hb) (h.waited i pc hpc b hb hthread)

/-- A heartbeat thread sends, after it has waited for its interval. -/
theorem PaceInv.beat (h : PaceInv ls s) {i : Nat} {interval : Int} {seq : Option Int}
    (hpc : s.threads[i]? = some (.send interval seq)) :
    PaceInv ls { s.set_thread i .stamp with
      sent := { thread := some i, interval, seq, time := s.clock } :: s.sent } := by
  have hset : PaceInv ls (s.set_thread i .stamp) :=
    h.advance hpc (fun _ hle _ => hle) nofun nofun
  have hcarried := h.carried _ (List.mem_of_getElem? hpc)
  have hlt : i < (s.threads.set i HeartbeatPc.stamp).length := by
    rw [List.length_set]
    exact (List.getElem?_eq_some_iff.mp hpc).1
  refine ⟨⟨List.pairwise_cons.mpr ⟨fun b hb j hj hthread => ?_, h.apart⟩, fun b hb hthread => ?_,
    fun b hb n hn => ?_⟩, fun j pc hpc' b hb hthread => ?_, fun b hb j hj => ?_, fun b hb => ?_,
    h.current, h.pending, hset.carried⟩
  · -- the thread has counted the time since each of its earlier heartbeats
    obtain rfl := Option.some.inj hj
    exact h.waited _ _ hpc b hb hthread
  · rcases List.mem_cons.mp hb with rfl | hb
    · exact hcarried.1 interval rfl
    · exact h.interval b hb hthread
  · rcases List.mem_cons.mp hb with rfl | hb
    · exact ⟨hcarried.2 n hn, nofun⟩
    · exact h.seq b hb n hn
  · rcases List.mem_cons.mp hb with rfl | hb
    · obtain rfl := Option.some.inj hthread
      have hpc' : (s.threads.set i HeartbeatPc.stamp)[i]? = some pc := hpc'
      rw [List.getElem?_set_self (List.getElem?_eq_some_iff.mp hpc).1] at hpc'
      obtain rfl := Option.some.inj hpc'
      exact Nat.le_refl s.clock
    · exact hset.waited j pc hpc' b hb hthread
  · rcases List.mem_cons.mp hb with rfl | hb
    · obtain rfl := Option.some.inj hj
      exact hlt
    · exact hset.known b hb j hj
  · rcases List.mem_cons.mp hb with rfl | hb
    · exact Nat.le_refl s.clock
    · exact h.past b hb

/-- **Step lemma** for a heartbeat thread. -/
theorem PaceInv.heartbeat_step (h : PaceInv ls s) {i : Nat} (hs : s.heartbeat_step i = some s') :
    PaceInv ls s' := by
  unfold GatewayThreads.heartbeat_step at hs
  split at hs
  · cases hs
  · next t hpc =>
    obtain rfl := Option.some.inj hs
    by_cases hactive : s.service.client.active = true
    · rw [if_pos hactive]
      exact h.advance hpc (fun _ _ hw => hw) nofun nofun
    · rw [if_neg hactive]
      exact h.advance hpc (fun _ _ _ => trivial) nofun nofun
  · next t hpc =>
    obtain rfl := Option.some.inj hs
    by_cases hactive : s.service.client.heartbeat_active = true
    · rw [if_pos hactive]
      exact h.advance hpc (fun _ _ hw => hw) nofun nofun
    · rw [if_neg hactive]
      exact h.advance hpc (fun _ _ _ => trivial) nofun nofun
  · next t hpc =>
    obtain rfl := Option.some.inj hs
    by_cases hdue : s.HEARTBEAT_INTERVAL ≤ t * 10
    · -- the thread has slept `t` times, ten milliseconds each
      rw [if_pos hdue]
      refine h.advance hpc (fun time hle hw => ?_) (fun interval hi => ?_) nofun
      · simp only [HeartbeatPc.WaitedSince, slp] at hw ⊢
        omega
      · rw [← Option.some.inj hi]
        exact h.current.1
    · rw [if_neg hdue]
      refine h.advance hpc (fun time hle hw => ?_) nofun nofun
      simp only [HeartbeatPc.WaitedSince, slp] at hw ⊢
      omega
  · next interval hpc =>
    obtain rfl := Option.some.inj hs
    exact h.advance hpc (fun _ _ hw => hw) (h.carried _ (List.mem_of_getElem? hpc)).1 nofun
  · next interval null hpc =>
    obtain rfl := Option.some.inj hs
    refine h.advance hpc (fun _ _ hw => hw) (h.carried _ (List.mem_of_getElem? hpc)).1
      fun seq hseq => ?_
    have hseq : seq ∈ (if null then none else some s.seq) := hseq
    split at hseq
    · cases hseq
    · rw [← Option.some.inj hseq]
      exact h.current.2
  · next interval seq hpc =>
    obtain rfl := Option.some.inj hs
    exact h.beat hpc
  · next hpc =>
    obtain rfl := Option.some.inj hs
    have hset : PaceInv ls (s.set_thread i (.sleep 0 (s.clock + slp))) := by
      refine h.advance hpc (fun time hle hw => ?_) nofun nofun
      simp only [HeartbeatPc.WaitedSince, slp] at hw ⊢
      omega
    exact hset.of_quiet rfl rfl rfl rfl rfl hset.pending
  · next t wake hpc =>
    split at hs
    · next hawake =>
      obtain rfl := Option.some.inj hs
      refine h.advance hpc (fun time hle hw => ?_) nofun nofun
      simp only [HeartbeatPc.WaitedSince, slp] at hw ⊢
      omega
    · cases hs
  · cases hs

/-- **Step lemma** for a sleep that is interrupted: the thread loses no more
    than the sleep. -/
theorem PaceInv.interrupt_step (h : PaceInv ls s) {i : Nat} (hs : s.interrupt_step i = some s') :
    PaceInv (ls ++ [.interrupt i]) s' := by
  obtain ⟨t, wake, hpc, rfl⟩ := interrupt_step_eq hs
  have hset : PaceInv (ls ++ [.interrupt i]) (s.set_thread i (.sleep t (min wake s.clock))) := by
    refine (h.snoc (.interrupt i)).set_thread hpc (fun b hb hthread => ?_) nofun nofun
    have hw := h.waited i _ hpc b hb hthread
    rw [lost_interrupt]
    simp only [HeartbeatPc.WaitedSince] at hw ⊢
    omega
  exact hset.of_quiet rfl rfl rfl rfl rfl hset.pending

end steps

/-! ### Every interleaving -/

theorem paceInv_start (clock : Nat) : PaceInv [] (start clock) where
  apart := .nil
  interval := nofun
  seq := nofun
  waited := nofun
  known := nofun
  past := nofun
  current := ⟨.inl rfl, .inl rfl⟩
  pending := nofun
  carried := nofun

/-- **The heartbeats are paced**, in every interleaving: two of one heartbeat
    thread are as far apart as the interval that it has waited for, less 10 ms
    for each signal that has interrupted it. They carry what has been named,
    or -1. -/
theorem heartbeats_paced {clock : Nat} {ls : List GatewayLabel} {s : GatewayThreads}
    (h : (gateway_threads clock).Run ls s) : BeatsOk ls s := by
  refine (System.Run.invariant (I := PaceInv) ?_ ?_ h).toBeatsOk
  · intro s hs
    obtain rfl : s = start clock := hs
    exact paceInv_start clock
  · intro ls l s s' _ ih hstep
    have hexec : s.exec l = some s' := hstep
    have ih' := ih.snoc l
    cases l with
    | event e =>
      by_cases he : e = .sigterm
      · subst he
        obtain rfl := Option.some.inj hexec
        exact ih'.of_quiet rfl rfl rfl rfl rfl ih'.pending
      · obtain ⟨-, -, rfl⟩ := event_step_eq he hexec
        refine ih'.of_quiet rfl rfl rfl rfl rfl fun op hop => ?_
        refine handler_named ih'.current.2 ?_ hop
        rintro json calls rfl
        exact ⟨calls, List.mem_append_right _ (List.mem_singleton_self _)⟩
    | interrupt i => exact ih.interrupt_step hexec
    | service => exact ih'.service_step hexec
    | heartbeat i => exact ih'.heartbeat_step hexec
    | tick c =>
      obtain ⟨hle, rfl⟩ := tick_eq hexec
      exact ⟨⟨ih'.apart, ih'.interval, ih'.seq⟩, fun i pc hpc b hb hthread =>
        (ih'.waited i pc hpc b hb hthread).mono hle (Nat.le_refl _), ih'.known,
        fun b hb => (ih'.past b hb).trans hle, ih'.current, ih'.pending, ih'.carried⟩

/-- One round of a heartbeat thread that sends: the interval is short enough. -/
def beating_round : List GatewayLabel := List.replicate 7 (.heartbeat 0)

/-- A HELLO with an interval of 10 ms, a dispatch, and two heartbeats. -/
def hello_and_beats : List GatewayLabel :=
  [.event (.receive (some (.object [("op", .number 10),
      ("d", .object [("heartbeat_interval", .number 10)])])) [])] ++ List.replicate 5 .service ++
    beating_round ++ [.event (.receive (some (.object [("op", .number 0), ("s", .number 7)])) []),
      .service, .service, .tick 10000, .heartbeat 0] ++ beating_round

theorem heartbeats_paced_hello : ∃ s, s.sent =
      [{ thread := some 0, interval := 10, seq := some 7, time := 10000 },
        { thread := some 0, interval := 10, seq := none, time := 0 },
        { thread := none, interval := 0, seq := none, time := 0 }] ∧
    BeatsOk hello_and_beats s := by
  obtain ⟨s, hs, hsent⟩ : ∃ s : GatewayThreads, hello_and_beats.foldlM exec (start 0) = some s ∧
      s.sent = [{ thread := some 0, interval := 10, seq := some 7, time := 10000 },
        { thread := some 0, interval := 10, seq := none, time := 0 },
        { thread := none, interval := 0, seq := none, time := 0 }] := ⟨_, rfl, by decide +kernel⟩
  exact ⟨s, hsent, @heartbeats_paced 0 _ _ (System.run_ofFn_iff.mpr hs)⟩

/-! ### One more heartbeat -/

/-- The heartbeats of heartbeat threads. -/
def beats (s : GatewayThreads) : Nat := s.sent.countP fun b => b.thread.isSome

/-- The connection is kept, with an interval of `10 * n` milliseconds at most. -/
def Kept (n : Nat) (s : GatewayThreads) : Prop :=
  s.service.client.heartbeat_active = true ∧ s.service.client.active = true ∧
    s.HEARTBEAT_INTERVAL ≤ n * 10

/-- How far the thread `i` is from its next heartbeat. -/
def to_next (n i : Nat) (s : GatewayThreads) : Nat :=
  (s.threads[i]?.map (HeartbeatPc.to_send n s.clock)).getD 0

/-- Who helps the thread `i` on. -/
def helpful_to (i : Nat) (s : GatewayThreads) : Helper :=
  match s.threads[i]? with
  | some pc => helper_of s.clock i pc
  | none => .service

section recur

variable {s s' : GatewayThreads} {n i : Nat}

/-- A thread moves on: it sends, or comes nearer to it. -/
theorem heartbeat_step_to_next (hkept : s.Kept n) (hs : s.heartbeat_step i = some s') :
    s.beats < s'.beats ∨ s'.to_next n i < s.to_next n i := by
  have hset : ∀ {pc pc' : HeartbeatPc} {s' : GatewayThreads}, s.threads[i]? = some pc →
      s'.threads = s.threads.set i pc' → s'.clock = s.clock →
      pc'.to_send n s.clock < pc.to_send n s.clock → s'.to_next n i < s.to_next n i := by
    intro pc pc' s' hpc hthreads hclock hlt
    unfold to_next
    rw [hthreads, hclock, List.getElem?_set_self (List.getElem?_eq_some_iff.mp hpc).1, hpc]
    exact hlt
  obtain ⟨hbeat, hactive, hinterval⟩ := hkept
  have hasleep : ¬ s.clock + slp ≤ s.clock := by
    unfold slp
    omega
  unfold heartbeat_step at hs
  split at hs
  · cases hs
  · next t hpc =>
    obtain rfl := Option.some.inj hs
    rw [if_pos hactive]
    exact .inr (hset hpc rfl rfl (by simp [HeartbeatPc.to_send]))
  · next t hpc =>
    obtain rfl := Option.some.inj hs
    rw [if_pos hbeat]
    exact .inr (hset hpc rfl rfl (by simp [HeartbeatPc.to_send]))
  · next t hpc =>
    obtain rfl := Option.some.inj hs
    by_cases hdue : s.HEARTBEAT_INTERVAL ≤ t * 10
    · rw [if_pos hdue]
      refine .inr (hset hpc rfl rfl ?_)
      simp only [HeartbeatPc.to_send]
      omega
    · -- not yet: fewer rounds are left
      rw [if_neg hdue]
      refine .inr (hset hpc rfl rfl ?_)
      simp only [HeartbeatPc.to_send, if_neg hasleep]
      omega
  · next hpc =>
    obtain rfl := Option.some.inj hs
    exact .inr (hset hpc rfl rfl (by simp [HeartbeatPc.to_send]))
  · next hpc =>
    obtain rfl := Option.some.inj hs
    exact .inr (hset hpc rfl rfl (by simp [HeartbeatPc.to_send]))
  · next hpc =>
    obtain rfl := Option.some.inj hs
    left
    unfold beats
    rw [List.countP_cons_of_pos rfl]
    omega
  · next hpc =>
    obtain rfl := Option.some.inj hs
    refine .inr (hset hpc rfl rfl ?_)
    simp only [HeartbeatPc.to_send, if_neg hasleep]
    omega
  · next t wake hpc =>
    split at hs
    · next hawake =>
      obtain rfl := Option.some.inj hs
      refine .inr (hset hpc rfl rfl ?_)
      simp only [HeartbeatPc.to_send, if_pos hawake]
      omega
    · cases hs
  · cases hs

/-- What the service thread does leaves a heartbeat thread alone. -/
theorem service_step_threads (hs : s.service_step = some s') :
    s'.beats = s.beats ∧
      ∀ (i : Nat) (pc : HeartbeatPc), s.threads[i]? = some pc → s'.threads[i]? = some pc := by
  cases htodo : s.todo with
  | nil =>
    unfold service_step at hs
    rw [htodo] at hs
    cases hs
  | cons op ops =>
    by_cases hclose : op = .close
    · subst hclose
      unfold service_step at hs
      rw [htodo] at hs
      obtain rfl := Option.some.inj hs
      unfold start_close
      split
      · exact ⟨rfl, fun _ _ h => h⟩
      · exact ⟨rfl, fun _ _ h => h⟩
    · by_cases hjoin : op = .join
      · subst hjoin
        obtain ⟨-, service, -, rfl⟩ := join_eq htodo hs
        exact ⟨rfl, fun _ _ h => h⟩
      · obtain ⟨service, -, rfl⟩ := service_step_cons htodo hclose hjoin hs
        cases op with
        | create =>
          refine ⟨rfl, fun i pc hpc => ?_⟩
          show (s.threads ++ _)[i]? = some pc
          rw [List.getElem?_append_left (List.getElem?_eq_some_iff.mp hpc).1, hpc]
        | send_heartbeat =>
          refine ⟨?_, fun _ _ h => h⟩
          unfold beats
          exact List.countP_cons_of_neg (by simp)
        | _ => exact ⟨rfl, fun _ _ h => h⟩

/-- The helper of a thread that has not ended. -/
theorem helpful_to_of {pc : HeartbeatPc} (hpc : s.threads[i]? = some pc) :
    s.helpful_to i = helper_of s.clock i pc := by
  unfold helpful_to
  rw [hpc]

/-- A step that leaves the thread and the clock alone. -/
theorem alone {l : GatewayLabel} {pc : HeartbeatPc} (hpc : s.threads[i]? = some pc)
    (hended : pc ≠ .ended) (hpc' : s'.threads[i]? = some pc) (hclock : s'.clock = s.clock)
    (hl : l ≠ .heartbeat i) :
    System.Execution.Progresses Helper.steps (to_next n i) (helpful_to i) s l s' := by
  refine .inr ⟨?_, ?_, fun hhelp => ?_⟩
  · unfold to_next
    rw [hpc, hpc', hclock]
  · rw [helpful_to_of hpc, helpful_to_of hpc', hclock]
  · rw [helpful_to_of hpc] at hhelp
    cases pc with
    | ended => exact hended rfl
    | sleep t wake =>
      by_cases hwake : wake ≤ s.clock
      · rw [helper_of, if_pos hwake] at hhelp
        exact hl hhelp
      · rw [helper_of, if_neg hwake] at hhelp
        have hhelp : wake ≤ s'.clock := hhelp
        omega
    | _ => exact hl hhelp

/-- As the time passes, a thread that sleeps may wake up. -/
theorem tick_to_next {c : Nat} {pc : HeartbeatPc} (hpc : s.threads[i]? = some pc)
    (hended : pc ≠ .ended) (hle : s.clock ≤ c) :
    System.Execution.Progresses Helper.steps (to_next n i) (helpful_to i) s (.tick c)
      { s with clock := c } := by
  by_cases hwakes : ∃ t wake, pc = .sleep t wake ∧ ¬ wake ≤ s.clock
  · obtain ⟨t, wake, rfl, hasleep⟩ := hwakes
    have hpc' : ({ s with clock := c } : GatewayThreads).threads[i]? = some (.sleep t wake) := hpc
    unfold System.Execution.Progresses to_next
    rw [helpful_to_of hpc, helpful_to_of hpc', hpc]
    simp only [Option.map_some, Option.getD_some, HeartbeatPc.to_send, helper_of, if_neg hasleep]
    by_cases hwake : wake ≤ c
    · left
      rw [if_pos hwake]
      omega
    · right
      rw [if_neg hwake, if_neg hwake]
      exact ⟨rfl, rfl, hwake⟩
  · -- a thread that is awake does not look at the clock
    have hsame : pc.to_send n c = pc.to_send n s.clock ∧ helper_of c i pc = helper_of s.clock i pc ∧
        helper_of s.clock i pc = .heartbeat i := by
      cases pc with
      | ended => exact absurd rfl hended
      | sleep t wake =>
        have hwake : wake ≤ s.clock := by
          by_contra hno
          exact hwakes ⟨t, wake, rfl, hno⟩
        simp only [HeartbeatPc.to_send, helper_of, if_pos hwake, if_pos (hwake.trans hle)]
        exact ⟨trivial, trivial, trivial⟩
      | _ => exact ⟨rfl, rfl, rfl⟩
    have hpc' : ({ s with clock := c } : GatewayThreads).threads[i]? = some pc := hpc
    refine .inr ⟨?_, ?_, fun hhelp => ?_⟩
    · unfold to_next
      rw [hpc, Option.map_some, Option.map_some, hsame.1]
    · rw [helpful_to_of hpc, helpful_to_of hpc']
      exact hsame.2.1
    · rw [helpful_to_of hpc, hsame.2.2] at hhelp
      cases hhelp

/-- A thread whose sleep is interrupted does not have to wait for the time. -/
theorem interrupt_to_next {j : Nat} {pc : HeartbeatPc} (hpc : s.threads[i]? = some pc)
    (hended : pc ≠ .ended) (hs : s.interrupt_step j = some s') :
    System.Execution.Progresses Helper.steps (to_next n i) (helpful_to i) s (.interrupt j) s' := by
  obtain ⟨t, wake, hsleep, heq⟩ := interrupt_step_eq hs
  have hclock : s'.clock = s.clock := by rw [heq]; rfl
  have hthreads : s'.threads = s.threads.set j (.sleep t (min wake s.clock)) := by rw [heq]; rfl
  by_cases hij : j = i
  · subst hij
    obtain rfl : pc = .sleep t wake := Option.some.inj (hpc.symm.trans hsleep)
    have hpc' : s'.threads[j]? = some (.sleep t (min wake s.clock)) := by
      rw [hthreads]
      exact List.getElem?_set_self (List.getElem?_eq_some_iff.mp hpc).1
    have hawake : min wake s.clock ≤ s.clock := Nat.min_le_right _ _
    unfold System.Execution.Progresses to_next
    rw [helpful_to_of hpc, helpful_to_of hpc', hpc, hpc', hclock]
    simp only [Option.map_some, Option.getD_some, HeartbeatPc.to_send, helper_of, if_pos hawake]
    by_cases hwake : wake ≤ s.clock
    · -- it was awake already
      rw [if_pos hwake, if_pos hwake]
      exact .inr ⟨rfl, rfl, fun h => by cases h⟩
    · rw [if_neg hwake]
      exact .inl (by omega)
  · have hpc' : s'.threads[i]? = some pc := by
      rw [hthreads, List.getElem?_set_ne hij]
      exact hpc
    exact alone hpc hended hpc' hclock fun h => by cases h

/-- **Step lemma**: until it sends, the thread comes nearer to it. -/
theorem step_to_next (hinv : ThreadsInv s) (hkept : s.Kept n) (hi : s.Alive i)
    {l : GatewayLabel} (hexec : s.exec l = some s') (hno : ¬ s.beats < s'.beats) :
    System.Execution.Progresses Helper.steps (to_next n i) (helpful_to i) s l s' := by
  obtain ⟨pc, hpc, hended⟩ := hi
  cases l with
  | event e =>
    by_cases he : e = .sigterm
    · subst he
      obtain rfl := Option.some.inj hexec
      exact alone hpc hended hpc rfl nofun
    · obtain ⟨-, -, rfl⟩ := event_step_eq he hexec
      exact alone hpc hended hpc rfl nofun
  | interrupt j => exact interrupt_to_next hpc hended hexec
  | service =>
    exact alone hpc hended ((service_step_threads hexec).2 i pc hpc) (service_step_clock hexec)
      nofun
  | heartbeat j =>
    -- no other thread is there to move
    have hone : j = i := by
      obtain ⟨p, hp, -⟩ := hinv.phase
      have hj := (heartbeat_step_alive hexec).1
      have hi : s.Alive i := ⟨pc, hpc, hended⟩
      cases p with
      | off => exact absurd hi (hp.2 i)
      | starting => exact absurd hi (hp.2 i)
      | on =>
        obtain ⟨thread, -, hone⟩ := hp.2.2
        rw [(hone j).mp hj, (hone i).mp hi]
      | dying =>
        obtain ⟨thread, -, -, hone⟩ := hp.2
        rw [hone j hj, hone i hi]
      | closing =>
        obtain ⟨thread, -, -, hone⟩ := hp.2
        rw [hone j hj, hone i hi]
    subst hone
    rcases heartbeat_step_to_next hkept hexec with hsent | hlt
    · exact absurd hsent hno
    · exact .inl hlt
  | tick c =>
    obtain ⟨hle, rfl⟩ := tick_eq hexec
    exact tick_to_next hpc hended hle

/-- A thread goes on while the connection is kept. -/
theorem step_alive (hkept : s.Kept n) (hi : s.Alive i) {l : GatewayLabel}
    (hexec : s.exec l = some s') : s'.Alive i := by
  obtain ⟨pc, hpc, hended⟩ := hi
  cases l with
  | event e =>
    by_cases he : e = .sigterm
    · subst he
      obtain rfl := Option.some.inj hexec
      exact ⟨pc, hpc, hended⟩
    · obtain ⟨-, -, rfl⟩ := event_step_eq he hexec
      exact ⟨pc, hpc, hended⟩
  | interrupt j =>
    obtain ⟨t, wake, hsleep, rfl⟩ := interrupt_step_eq hexec
    exact (alive_interrupted hsleep rfl i).mpr ⟨pc, hpc, hended⟩
  | service => exact ⟨pc, (service_step_threads hexec).2 i pc hpc, hended⟩
  | heartbeat j =>
    obtain ⟨-, pc', hthreads, hend⟩ := heartbeat_step_alive hexec
    by_cases hij : j = i
    · subst hij
      refine ⟨pc', ?_, fun heq => ?_⟩
      · rw [hthreads, List.getElem?_set_self (List.getElem?_eq_some_iff.mp hpc).1]
      · rcases hend heq with hoff | hoff
        · rw [hkept.2.1] at hoff
          cases hoff
        · rw [hkept.1] at hoff
          cases hoff
    · refine ⟨pc, ?_, hended⟩
      rw [hthreads, List.getElem?_set_ne hij]
      exact hpc
  | tick c =>
    obtain ⟨-, rfl⟩ := tick_eq hexec
    exact ⟨pc, hpc, hended⟩

/-- Heartbeats are not taken back. -/
theorem step_beats {l : GatewayLabel} (hexec : s.exec l = some s') : s.beats ≤ s'.beats := by
  cases l with
  | event e =>
    by_cases he : e = .sigterm
    · subst he
      obtain rfl := Option.some.inj hexec
      exact Nat.le_refl s.beats
    · obtain ⟨-, -, rfl⟩ := event_step_eq he hexec
      exact Nat.le_refl s.beats
  | interrupt j =>
    obtain ⟨t, wake, -, rfl⟩ := interrupt_step_eq hexec
    exact Nat.le_refl s.beats
  | service => exact (service_step_threads hexec).1.ge
  | heartbeat j =>
    obtain ⟨new, hsent⟩ := heartbeat_step_sent hexec
    unfold beats
    rw [hsent, List.countP_append]
    omega
  | tick c =>
    obtain ⟨-, rfl⟩ := tick_eq hexec
    exact Nat.le_refl s.beats

/-- Whoever has to move on for the thread can. -/
theorem can_help_to {clock : Nat} (hi : s.Alive i) :
    System.Execution.Can (gateway_threads clock) (s.helpful_to i).steps s := by
  obtain ⟨pc, hpc, hended⟩ := hi
  rw [helpful_to_of hpc]
  exact can_help_thread hpc hended

end recur

/-- **There is always one more heartbeat** to come: as long as the connection
    is kept, the thread that is alive sends again, however often it has. -/
theorem heartbeats_recur {clock : Nat} (e : (gateway_threads clock).Execution) (hfair : Fairly e)
    {n i k : Nat} (hi : (e.state k).Alive i) (hkept : ∀ m, k ≤ m → (e.state m).Kept n) :
    ∃ m, k ≤ m ∧ (e.state k).beats < (e.state m).beats := by
  refine System.Execution.eventually_of_rank (A := Helper.steps)
    (I := fun s => s.Alive i ∧ s.beats = (e.state k).beats)
    (Q := fun s => (e.state k).beats < s.beats) (to_next n i) (helpful_to i) hfair.helps
    ⟨hi, rfl⟩ ?_ ?_ ?_
  · intro m hm hI _ hno
    have hmono := step_beats (e.step m)
    exact ⟨step_alive (hkept m hm) hI.1 (e.step m), by omega⟩
  · intro m hm hI _
    exact can_help_to hI.1
  · intro m hm hI _ hno
    refine step_to_next (reachable_threads (e.reachable m)) (hkept m hm) hI.1 (e.step m) ?_
    rw [hI.2]
    exact hno

/-- Where the execution is that ticks and lets the heartbeat thread move on, in
    turn, after `k` steps. -/
structure Beating (k : Nat) (s : GatewayThreads) : Prop where
  todo : s.todo = []
  kept : s.Kept 1
  alive : ∃ pc, s.threads = [pc] ∧ pc ≠ .ended ∧
    ∀ t wake, pc = .sleep t wake → wake ≤ s.clock + if k % 2 = 0 then slp else 0
  time : (k + 1) / 2 ≤ s.clock

/-- The tick or the step of the heartbeat thread. -/
def beating_label (k : Nat) (s : GatewayThreads) : GatewayLabel :=
  if k % 2 = 0 then .tick (s.clock + slp) else .heartbeat 0

/-- The rest of the execution. -/
def beating (s : GatewayThreads) : Nat → GatewayThreads
  | 0 => s
  | k + 1 => ((beating s k).exec (beating_label k (beating s k))).getD s

/-- The time for a sleep passes. -/
theorem Beating.tick {k : Nat} {s : GatewayThreads} (h : Beating k s) (heven : k % 2 = 0) :
    Beating (k + 1) { s with clock := s.clock + slp } := by
  obtain ⟨htodo, hkept, ⟨pc, hpc, hended, hwake⟩, htime⟩ := h
  refine ⟨htodo, hkept, ⟨pc, hpc, hended, ?_⟩, ?_⟩
  · intro t wake heq
    have hle := hwake t wake heq
    rw [if_pos heven] at hle
    exact hle.trans (Nat.le_add_right _ _)
  · show (k + 1 + 1) / 2 ≤ s.clock + slp
    unfold slp
    omega

/-- The heartbeat thread moves on. A sleep that it starts ends with the next
    tick. -/
theorem Beating.moves {k : Nat} {s s' : GatewayThreads} (h : Beating k s) (hodd : k % 2 ≠ 0)
    {pc : HeartbeatPc} (htodo : s'.todo = s.todo) (hservice : s'.service = s.service)
    (hinterval : s'.HEARTBEAT_INTERVAL = s.HEARTBEAT_INTERVAL) (hclock : s'.clock = s.clock)
    (hthreads : s'.threads = s.threads.set 0 pc) (hended : pc ≠ .ended)
    (hsleep : ∀ t wake, pc = .sleep t wake → wake = s.clock + slp) : Beating (k + 1) s' := by
  obtain ⟨pc₀, hpc₀, -⟩ := h.alive
  have hpc : s'.threads = [pc] := by
    rw [hthreads, hpc₀]
    rfl
  have heven : (k + 1) % 2 = 0 := by omega
  refine ⟨htodo.trans h.todo, ?_, ⟨pc, hpc, hended, ?_⟩, ?_⟩
  · unfold Kept
    rw [hservice, hinterval]
    exact h.kept
  · intro t wake heq
    rw [hsleep t wake heq, hclock, if_pos heven]
  · have htime := h.time
    rw [hclock]
    omega

theorem Beating.next {k : Nat} {s : GatewayThreads} (h : Beating k s) :
    ∃ s', s.exec (beating_label k s) = some s' ∧ Beating (k + 1) s' := by
  unfold beating_label
  by_cases heven : k % 2 = 0
  · rw [if_pos heven]
    exact ⟨_, if_pos (Nat.le_add_right _ _), h.tick heven⟩
  · rw [if_neg heven]
    obtain ⟨hbeat, hactive, hinterval⟩ := h.kept
    obtain ⟨pc, hpc, hended, hwake⟩ := h.alive
    have hget : s.threads[0]? = some pc := by rw [hpc]; rfl
    show ∃ s', s.heartbeat_step 0 = some s' ∧ _
    unfold heartbeat_step
    rw [hget]
    cases pc with
    | test_active t =>
      refine ⟨_, rfl, h.moves heven rfl rfl rfl rfl rfl ?_ ?_⟩
      · rw [if_pos hactive]
        exact nofun
      · rw [if_pos hactive]
        exact nofun
    | test_heartbeat_active t =>
      refine ⟨_, rfl, h.moves heven rfl rfl rfl rfl rfl ?_ ?_⟩
      · rw [if_pos hbeat]
        exact nofun
      · rw [if_pos hbeat]
        exact nofun
    | compare t =>
      refine ⟨_, rfl, h.moves heven rfl rfl rfl rfl rfl ?_ ?_⟩
      · split
        · exact nofun
        · exact nofun
      · intro t' wake heq
        split at heq
        · cases heq
        · cases heq
          rfl
    | test_seq => exact ⟨_, rfl, h.moves heven rfl rfl rfl rfl rfl nofun nofun⟩
    | print => exact ⟨_, rfl, h.moves heven rfl rfl rfl rfl rfl nofun nofun⟩
    | send => exact ⟨_, rfl, h.moves heven rfl rfl rfl rfl rfl nofun nofun⟩
    | stamp =>
      refine ⟨_, rfl, h.moves heven rfl rfl rfl rfl rfl nofun fun t wake heq => ?_⟩
      cases heq
      rfl
    | sleep t wake =>
      have hle := hwake t wake rfl
      rw [if_neg heven] at hle
      exact ⟨_, if_pos hle, h.moves heven rfl rfl rfl rfl rfl nofun nofun⟩
    | ended => exact absurd rfl hended

theorem beating_step {s : GatewayThreads} (h : Beating 0 s) (k : Nat) :
    Beating k (beating s k) ∧
      (beating s k).exec (beating_label k (beating s k)) = some (beating s (k + 1)) := by
  have hgoes : ∀ {k}, Beating k (beating s k) →
      (beating s k).exec (beating_label k (beating s k)) = some (beating s (k + 1)) := by
    intro k hk
    obtain ⟨s', hs', -⟩ := hk.next
    show _ = some (((beating s k).exec (beating_label k (beating s k))).getD s)
    rw [hs']
    rfl
  induction k with
  | zero => exact ⟨h, hgoes h⟩
  | succ k ih =>
    obtain ⟨s', hs', hnext⟩ := ih.1.next
    have heq : s' = beating s (k + 1) := Option.some.inj (hs'.symm.trans ih.2)
    rw [heq] at hnext
    exact ⟨hnext, hgoes hnext⟩

/-- The heartbeat thread gets its turn, the others have nothing to do. -/
theorem fairly_of_beating (e : (gateway_threads 0).Execution) {n : Nat} {s : GatewayThreads}
    (hs : Beating 0 s) (he : ∀ k, e.state (n + k) = beating s k ∧
      e.label (n + k) = beating_label k (beating s k)) : Fairly e := by
  have hstate : ∀ k, n ≤ k → Beating (k - n) (e.state k) := by
    intro k hk
    obtain ⟨j, rfl⟩ := Nat.exists_eq_add_of_le hk
    rw [(he j).1, Nat.add_sub_cancel_left]
    exact (beating_step hs j).1
  refine ⟨System.Execution.fair_of_not_can (n := n) ?_, fun i => ?_, fun t => ⟨n + 2 * t, ?_⟩⟩
  · rintro k hk ⟨_, s', hstep, rfl⟩
    have hstep : (e.state k).service_step = some s' := hstep
    unfold service_step at hstep
    rw [(hstate k hk).todo] at hstep
    cases hstep
  · by_cases hi : i = 0
    · subst hi
      intro k _
      refine ⟨n + (2 * k + 1), by omega, ?_⟩
      show e.label (n + (2 * k + 1)) = _
      rw [(he _).2]
      exact if_neg (by omega)
    · refine System.Execution.fair_of_not_can (n := n) ?_
      rintro k hk ⟨_, s', hstep, rfl⟩
      obtain ⟨pc, hpc, -⟩ := (hstate k hk).alive
      obtain ⟨pc', hpc', -⟩ := (heartbeat_step_alive hstep).1
      rw [hpc, List.getElem?_singleton, if_neg hi] at hpc'
      cases hpc'
  · have hlate := (hstate (n + 2 * t) (by omega)).time
    omega

/-- After a HELLO with an interval of 10 ms, a heartbeat follows another. -/
theorem heartbeats_recur_hello : ∃ (e : (gateway_threads 0).Execution) (k : Nat), Fairly e ∧
    (∀ m, k ≤ m → (e.state m).Kept 1 ∧ (e.state m).Alive 0) ∧
    ∀ j, k ≤ j → ∃ m, j ≤ m ∧ (e.state j).beats < (e.state m).beats := by
  obtain ⟨s, hs, hbeating⟩ : ∃ s : GatewayThreads,
      (hello_and_beats.take 6).foldlM exec (start 0) = some s ∧ Beating 0 s :=
    ⟨_, rfl, rfl, ⟨rfl, rfl, by decide⟩, ⟨_, rfl, nofun, nofun⟩, by decide⟩
  have hrun : (gateway_threads 0).Run _ s := System.run_ofFn_iff.mpr hs
  obtain ⟨e, he⟩ := @System.Execution.exists_of_run _ _ _ _ _ hrun (beating s)
    (fun k => beating_label k (beating s k)) rfl fun k => (beating_step hbeating k).2
  have hfair := fairly_of_beating e hbeating he
  have hkept : ∀ m, (hello_and_beats.take 6).length ≤ m →
      (e.state m).Kept 1 ∧ (e.state m).Alive 0 := by
    intro m hm
    obtain ⟨j, rfl⟩ := Nat.exists_eq_add_of_le hm
    obtain ⟨-, hkept, ⟨pc, hpc, hended, -⟩, -⟩ := (beating_step hbeating j).1
    rw [(he j).1]
    exact ⟨hkept, pc, by rw [hpc]; rfl, hended⟩
  refine ⟨e, _, hfair, hkept, fun j hj => ?_⟩
  exact heartbeats_recur e hfair (hkept j hj).2 fun m hm => (hkept m (hj.trans hm)).1

end GatewayThreads

end DiscoC
