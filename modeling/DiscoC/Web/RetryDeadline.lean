import DiscoC.Utils.ThreadPool
import DiscoC.Web.Request
import Mathlib.Algebra.Order.Floor.Ring
import Mathlib.Algebra.Order.Ring.Rat
import Mathlib.Data.Rat.Floor

/-! # The deadline of a rate-limited request

  After a 429 the request waits for `retry_after`, down to the microsecond.
  `request_t_pool` adds it to the time of day, and `thread_work_loop` turns
  the sum into the deadline of a timed wait. Each of them carries at most one
  second, with a strict comparison.

  The deadline is right and well formed exactly when the microseconds of the
  sum are not a whole second and the sums fit a `time_t`
  (`retry_deadline_iff`).
-/

namespace DiscoC

/-! ### The computation in 64 bits -/

/-- A value of type `time_t` or `long`; an overflow is undefined. -/
def time_t (x : Int) : Option Int :=
  if -2 ^ 63 ≤ x ∧ x < 2 ^ 63 then some x else none

/-- `retry_at`, where an intermediate value may overflow. -/
def retry_at_checked (now : Timeval) (valuedouble : Rat) : Option Timeval := do
  let seconds ← time_t (to_time_t valuedouble)
  let tv_sec ← time_t (now.tv_sec + seconds)
  let micros ← time_t (to_time_t (valuedouble * 1000000))
  let tv_usec ← time_t (now.tv_usec + micros.tmod 1000000)
  if 1000000 < tv_usec then
    let tv_sec ← time_t (tv_sec + 1)
    some { tv_sec, tv_usec := tv_usec - 1000000 }
  else some { tv_sec, tv_usec }

/-- `deadline`, where an intermediate value may overflow. -/
def deadline_checked (sleep_until : Timeval) : Option Timespec := do
  let tv_nsec ← time_t (sleep_until.tv_usec * 1000)
  if 1000000000 < tv_nsec then
    let tv_sec ← time_t (sleep_until.tv_sec + 1)
    some { tv_sec, tv_nsec := tv_nsec - 1000000000 }
  else some { tv_sec := sleep_until.tv_sec, tv_nsec }

/-- The deadline a thread waits for after a 429 at the time `now`. -/
def retry_deadline (now : Timeval) (valuedouble : Rat) : Option Timespec := do
  deadline_checked (← retry_at_checked now valuedouble)

/-! ### Times as numbers -/

/-- A time in microseconds. -/
def Timeval.micros (t : Timeval) : Int := t.tv_sec * 1000000 + t.tv_usec

/-- A time in nanoseconds. -/
def Timespec.nanos (t : Timespec) : Int := t.tv_sec * 1000000000 + t.tv_nsec

/-- The nanoseconds are less than a second, as `pthread_cond_timedwait`
    requires. -/
def Timespec.WellFormed (t : Timespec) : Prop := 0 ≤ t.tv_nsec ∧ t.tv_nsec < 1000000000

/-- A cast rounds a number that is not negative down. -/
theorem to_time_t_of_nonneg {q : Rat} (hq : 0 ≤ q) : to_time_t q = ⌊q⌋ := by
  rw [Rat.floor_def', to_time_t, Int.tdiv_eq_ediv_of_nonneg (Rat.num_nonneg.mpr hq)]

/-- The whole seconds of a delay, in terms of its microseconds. -/
theorem floor_seconds (q : Rat) : ⌊q⌋ = ⌊q * 1000000⌋ / 1000000 := by
  have hdiv := Int.floor_div_natCast (q * 1000000) 1000000
  rw [Nat.cast_ofNat, mul_div_cancel_right₀ q (by norm_num)] at hdiv
  exact hdiv

theorem time_t_eq_some {x y : Int} : time_t x = some y ↔ (-2 ^ 63 ≤ x ∧ x < 2 ^ 63) ∧ x = y := by
  unfold time_t
  rw [Option.ite_none_right_eq_some, Option.some.injEq]

/-! ### The two steps -/

section retry

variable {now : Timeval} {r : Rat}

/-- `retry_at`, with its casts written as roundings. -/
theorem retry_at_eq (hr : 0 ≤ r) :
    retry_at now r =
      if 1000000 < now.tv_usec + ⌊r * 1000000⌋ % 1000000 then
        { tv_sec := now.tv_sec + ⌊r * 1000000⌋ / 1000000 + 1
          tv_usec := now.tv_usec + ⌊r * 1000000⌋ % 1000000 - 1000000 }
      else
        { tv_sec := now.tv_sec + ⌊r * 1000000⌋ / 1000000
          tv_usec := now.tv_usec + ⌊r * 1000000⌋ % 1000000 } := by
  have hmicros : 0 ≤ r * 1000000 := mul_nonneg hr (by norm_num)
  unfold retry_at
  rw [to_time_t_of_nonneg hr, to_time_t_of_nonneg hmicros, floor_seconds r,
    Int.tmod_eq_emod_of_nonneg (Int.floor_nonneg.mpr hmicros)]

/-- The time of a retry is the time it counts from and the delay, and its
    microseconds are at most a second. They are a second when the sum of the
    microseconds is one. -/
theorem retry_at_spec (husec : 0 ≤ now.tv_usec ∧ now.tv_usec < 1000000) (hr : 0 ≤ r) :
    (retry_at now r).micros = now.micros + ⌊r * 1000000⌋ ∧
      0 ≤ (retry_at now r).tv_usec ∧ (retry_at now r).tv_usec ≤ 1000000 ∧
      ((retry_at now r).tv_usec = 1000000 ↔ now.tv_usec + ⌊r * 1000000⌋ % 1000000 = 1000000) := by
  rw [retry_at_eq hr]
  unfold Timeval.micros
  -- one second is carried at most: both summands are less than a second
  split
  · refine ⟨?_, ?_, ?_, ?_⟩ <;> dsimp only <;> omega
  · refine ⟨?_, ?_, ?_, ?_⟩ <;> dsimp only <;> omega

/-- `retry_at` is computed without an overflow when the delay and the sum
    fit. -/
theorem retry_at_checked_iff (hsec : -2 ^ 63 ≤ now.tv_sec ∧ now.tv_sec < 2 ^ 63)
    (husec : 0 ≤ now.tv_usec ∧ now.tv_usec < 1000000) (hr : 0 ≤ r) {w : Timeval} :
    retry_at_checked now r = some w ↔
      w = retry_at now r ∧ ⌊r * 1000000⌋ < 2 ^ 63 ∧ w.tv_sec < 2 ^ 63 := by
  have hmicros : 0 ≤ r * 1000000 := mul_nonneg hr (by norm_num)
  have hnonneg : 0 ≤ ⌊r * 1000000⌋ := Int.floor_nonneg.mpr hmicros
  rw [retry_at_eq hr]
  unfold retry_at_checked
  rw [to_time_t_of_nonneg hr, to_time_t_of_nonneg hmicros, floor_seconds r]
  generalize ⌊r * 1000000⌋ = delay at hnonneg ⊢
  simp only [Option.bind_eq_bind, Option.bind_eq_some_iff, time_t_eq_some, and_assoc,
    exists_and_left, exists_eq_left']
  rw [Int.tmod_eq_emod_of_nonneg hnonneg]
  -- whether the microseconds carry into the seconds
  split
  · simp only [Option.bind_eq_some_iff, time_t_eq_some, Option.some.injEq]
    constructor
    · intro h
      obtain ⟨-, -, -, -, -, hdelay, -, -, sec, ⟨hsec', rfl⟩, rfl⟩ := h
      exact ⟨rfl, hdelay, hsec'.2⟩
    · intro h
      obtain ⟨rfl, hdelay, hsec'⟩ := h
      have hsec' : now.tv_sec + delay / 1000000 + 1 < 2 ^ 63 := hsec'
      refine ⟨?_, ?_, ?_, ?_, ?_, hdelay, ?_, ?_, _, ⟨⟨?_, hsec'⟩, rfl⟩, rfl⟩ <;> omega
  · simp only [Option.some.injEq]
    constructor
    · intro h
      obtain ⟨-, -, -, hsec', -, hdelay, -, -, rfl⟩ := h
      exact ⟨rfl, hdelay, hsec'⟩
    · intro h
      obtain ⟨rfl, hdelay, hsec'⟩ := h
      have hsec' : now.tv_sec + delay / 1000000 < 2 ^ 63 := hsec'
      refine ⟨?_, ?_, ?_, hsec', ?_, hdelay, ?_, ?_, rfl⟩ <;> omega

/-- The second carry never happens: the microseconds are at most a second. -/
theorem deadline_eq {w : Timeval} (husec : w.tv_usec ≤ 1000000) :
    deadline w = { tv_sec := w.tv_sec, tv_nsec := w.tv_usec * 1000 } := by
  unfold deadline
  rw [if_neg (by omega)]

theorem deadline_checked_eq {w : Timeval} (husec : 0 ≤ w.tv_usec ∧ w.tv_usec ≤ 1000000) :
    deadline_checked w = some (deadline w) := by
  unfold deadline_checked
  rw [time_t_eq_some.mpr ⟨by omega, rfl⟩, Option.bind_eq_bind, Option.bind_some, if_neg (by omega),
    deadline_eq husec.2]

/-- What a thread waits for is the deadline computed without bounds, if it is
    computed at all. -/
theorem retry_deadline_eq_some (hsec : -2 ^ 63 ≤ now.tv_sec ∧ now.tv_sec < 2 ^ 63)
    (husec : 0 ≤ now.tv_usec ∧ now.tv_usec < 1000000) (hr : 0 ≤ r) {ts : Timespec} :
    retry_deadline now r = some ts ↔
      deadline (retry_at now r) = ts ∧
        ⌊r * 1000000⌋ < 2 ^ 63 ∧ (retry_at now r).tv_sec < 2 ^ 63 := by
  obtain ⟨-, hlow, hhigh, -⟩ := retry_at_spec husec hr
  unfold retry_deadline
  rw [Option.bind_eq_bind, Option.bind_eq_some_iff]
  constructor
  · intro h
    obtain ⟨w, hw, hts⟩ := h
    obtain ⟨rfl, hfits⟩ := (retry_at_checked_iff hsec husec hr).mp hw
    rw [deadline_checked_eq ⟨hlow, hhigh⟩] at hts
    exact ⟨Option.some.inj hts, hfits⟩
  · intro h
    obtain ⟨rfl, hfits⟩ := h
    exact ⟨_, (retry_at_checked_iff hsec husec hr).mpr ⟨rfl, hfits⟩,
      deadline_checked_eq ⟨hlow, hhigh⟩⟩

end retry

/-! ### The deadline -/

/-- **Retry deadline**: a thread waits until the time of the 429 and the
    delay exactly when the microseconds do not add up to one second and the
    sums fit. -/
theorem retry_deadline_iff (now : Timeval) (r : Rat)
    (hsec : -2 ^ 63 ≤ now.tv_sec ∧ now.tv_sec < 2 ^ 63)
    (husec : 0 ≤ now.tv_usec ∧ now.tv_usec < 1000000) (hr : 0 ≤ r) :
    (∃ ts, retry_deadline now r = some ts ∧
        ts.nanos = (now.micros + ⌊r * 1000000⌋) * 1000 ∧ ts.WellFormed) ↔
      now.tv_usec + ⌊r * 1000000⌋ % 1000000 ≠ 1000000 ∧
        ⌊r * 1000000⌋ < 2 ^ 63 ∧ (now.micros + ⌊r * 1000000⌋) / 1000000 < 2 ^ 63 := by
  obtain ⟨hmicros, hlow, hhigh, hfull⟩ := retry_at_spec husec hr
  have hdeadline := deadline_eq hhigh
  rw [Ne, ← hfull, ← hmicros]
  constructor
  · intro h
    obtain ⟨ts, hts, -, hwell⟩ := h
    obtain ⟨rfl, hdelay, hsum⟩ := (retry_deadline_eq_some hsec husec hr).mp hts
    rw [hdeadline] at hwell
    -- less than 10^9 nanoseconds are less than 10^6 microseconds
    have hnsec : (retry_at now r).tv_usec * 1000 < 1000000000 := hwell.2
    unfold Timeval.micros
    exact ⟨by omega, hdelay, by omega⟩
  · intro h
    obtain ⟨hne, hdelay, hsum⟩ := h
    unfold Timeval.micros at hsum
    refine ⟨_, (retry_deadline_eq_some hsec husec hr).mpr ⟨rfl, hdelay, by omega⟩, ?_⟩
    rw [hdeadline]
    unfold Timespec.nanos Timespec.WellFormed Timeval.micros
    dsimp only
    omega

/-- A delay of 1.5 s, from half a second on. -/
theorem retry_deadline_carry :
    (∃ ts, retry_deadline ⟨7, 500001⟩ (3 / 2) = some ts ∧
        ts.nanos = ((⟨7, 500001⟩ : Timeval).micros + ⌊(3 / 2 : Rat) * 1000000⌋) * 1000 ∧
          ts.WellFormed) ↔
      (500001 : Int) + ⌊(3 / 2 : Rat) * 1000000⌋ % 1000000 ≠ 1000000 ∧
        ⌊(3 / 2 : Rat) * 1000000⌋ < 2 ^ 63 ∧
        ((⟨7, 500001⟩ : Timeval).micros + ⌊(3 / 2 : Rat) * 1000000⌋) / 1000000 < 2 ^ 63 :=
  retry_deadline_iff ⟨7, 500001⟩ (3 / 2) (by decide) (by decide) (by norm_num)

/-- Half a second from half a second on is a full second, which neither of
    the two carries. -/
theorem retry_deadline_full_second :
    retry_deadline ⟨7, 500000⟩ (1 / 2) = some ⟨7, 1000000000⟩ ∧
      ¬ Timespec.WellFormed ⟨7, 1000000000⟩ := by
  constructor
  · decide +kernel
  · intro hwell
    exact absurd hwell.2 (lt_irrefl _)

end DiscoC
