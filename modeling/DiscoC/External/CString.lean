import Mathlib.Data.List.Basic
import Mathlib.Data.List.TakeWhile
import Mathlib.Data.String.Basic

/-! # Strings of C

  A string is the sequence of its bytes, one character for each, without
  the null at its end.
-/

namespace DiscoC

/-- `strndup`. -/
def strndup (s : String) (n : Nat) : String := .ofList (s.toList.take n)

/-- `strncmp(a, b, n) == 0`. -/
def strncmp_eq (a b : String) (n : Nat) : Bool := a.toList.take n == b.toList.take n

/-- `isspace`. -/
def isspace (c : Char) : Bool := c ∈ [' ', '\t', '\n', '\x0b', '\x0c', '\r']

/-- The number that the digits at the start of a string write. -/
def digits_value (s : List Char) : Nat :=
  (s.takeWhile Char.isDigit).foldl (fun n c => 10 * n + (c.toNat - '0'.toNat)) 0

/-- `strtoull(s, NULL, 10)`: white space and a sign come first, a number too
    large is saturated, and a minus sign negates the result. -/
def strtoull (s : String) : UInt64 :=
  let saturated (n : Nat) : UInt64 := UInt64.ofNat (min n (UInt64.size - 1))
  match s.toList.dropWhile isspace with
  | '-' :: rest =>
    let n := digits_value rest
    if n < UInt64.size then 0 - UInt64.ofNat n else saturated n
  | '+' :: rest => saturated (digits_value rest)
  | rest => saturated (digits_value rest)

/-- `sprintf` into an array of `size` bytes: the text and the null have to fit,
    or memory behind the array is overwritten (`none`). -/
def sprintf (size : Nat) (text : String) : Option String :=
  if text.toList.length < size then some text else none

/-- A number as `%ju` writes it. -/
def format_ju (n : UInt64) : String := n.toNat.repr

/-- A number as `%d` writes it. -/
def format_d (i : Int) : String := i.repr

/-- `strncat` onto a text in an array of `size` bytes. -/
def strncat (size : Nat) (text src : String) (n : Nat) : Option String :=
  sprintf size (text ++ strndup src n)

/-- A copy is exact when the string fits. -/
theorem strndup_of_length_le {s : String} {n : Nat} (h : s.toList.length ≤ n) :
    strndup s n = s := by
  rw [strndup, List.take_of_length_le h, String.ofList_toList]

/-- A copy is exact only when the string fits. -/
theorem length_le_of_strndup {s : String} {n : Nat} (h : strndup s n = s) :
    s.toList.length ≤ n := by
  have hlen := congrArg (fun s => s.toList.length) h
  simp only [strndup, String.toList_ofList, List.length_take] at hlen
  omega

theorem toList_format_ju (n : UInt64) : (format_ju n).toList = Nat.toDigits 10 n.toNat :=
  Nat.toList_repr

theorem digits_value_toDigits (n : Nat) : digits_value (Nat.toDigits 10 n) = n := by
  have hdigits : ∀ c ∈ Nat.toDigits 10 n, c.isDigit = true :=
    fun c hc => Nat.isDigit_of_mem_toDigits (by decide) (by decide) hc
  rw [digits_value, List.takeWhile_eq_self_iff.mpr hdigits, ← Nat.ofDigitChars_eq_foldl]
  exact Nat.ofDigitChars_ten_toDigits

theorem isspace_of_isDigit {c : Char} (h : c.isDigit = true) : isspace c = false := by
  refine Bool.eq_false_iff.mpr fun hspace => ?_
  have hmem : c ∈ [' ', '\t', '\n', '\x0b', '\x0c', '\r'] := of_decide_eq_true hspace
  simp only [List.mem_cons, List.not_mem_nil, or_false] at hmem
  rcases hmem with rfl | rfl | rfl | rfl | rfl | rfl <;> cases h

/-- A number is read as it was written. -/
theorem strtoull_format_ju (n : UInt64) : strtoull (format_ju n) = n := by
  have hvalue := digits_value_toDigits n.toNat
  unfold strtoull
  rw [toList_format_ju]
  cases hlist : Nat.toDigits 10 n.toNat with
  | nil => exact absurd hlist Nat.toDigits_ne_nil
  | cons c cs =>
    have hdigit : c.isDigit = true :=
      Nat.isDigit_of_mem_toDigits (by decide) (by decide) (hlist ▸ List.mem_cons_self)
    rw [List.dropWhile_cons_of_neg (by simp [isspace_of_isDigit hdigit])]
    -- digits only: neither a sign nor blanks in front
    split
    · next heq =>
      obtain ⟨rfl, -⟩ := List.cons.inj heq
      cases hdigit
    · next heq =>
      obtain ⟨rfl, -⟩ := List.cons.inj heq
      cases hdigit
    · rw [← hlist, hvalue]
      have hmin : min n.toNat (UInt64.size - 1) = n.toNat := by
        have := n.toNat_lt_size
        omega
      show UInt64.ofNat (min n.toNat (UInt64.size - 1)) = n
      rw [hmin]
      exact UInt64.ofNat_toNat

/-- A number fits exactly when it has fewer digits than the array bytes. -/
theorem sprintf_format_ju_isSome {size : Nat} (hsize : 1 < size) (n : UInt64) :
    (sprintf size (format_ju n)).isSome = true ↔ n.toNat < 10 ^ (size - 1) := by
  rw [sprintf, toList_format_ju, ← Nat.length_toDigits_le_iff (by decide) (by omega)]
  split
  · next h => exact iff_of_true rfl (by omega)
  · next h => exact iff_of_false (by simp) (by omega)

theorem sprintf_eq_some {size : Nat} {text : String} (h : text.toList.length < size) :
    sprintf size text = some text :=
  if_pos h

theorem sprintf_isSome_iff {size : Nat} {text : String} :
    (sprintf size text).isSome = true ↔ text.toList.length < size := by
  unfold sprintf
  split
  · next h => exact iff_of_true rfl h
  · next h => exact iff_of_false nofun h

theorem length_append (a b : String) :
    (a ++ b).toList.length = a.toList.length + b.toList.length := by
  rw [String.toList_append, List.length_append]

theorem length_format_ju_le (n : UInt64) : (format_ju n).toList.length ≤ 20 := by
  have hsize : UInt64.size ≤ 10 ^ 20 := by decide
  rw [toList_format_ju]
  exact (Nat.length_toDigits_le_iff (by decide) (by decide)).mpr (n.toNat_lt_size.trans_le hsize)

/-- The length of a number with its sign. -/
theorem length_format_d_le_iff {k : Nat} (hk : 0 < k) (i : Int) :
    (format_d i).toList.length ≤ k + 1 ↔
      -((10 ^ k : Nat) : Int) < i ∧ i < ((10 ^ (k + 1) : Nat) : Int) := by
  cases i with
  | ofNat n =>
    have hlen : (format_d (.ofNat n)).toList.length = (Nat.toDigits 10 n).length :=
      congrArg List.length Nat.toList_repr
    have hpos : 0 < 10 ^ k := Nat.pow_pos (by decide)
    rw [hlen, Nat.length_toDigits_le_iff (by decide) (by omega), Int.ofNat_eq_natCast]
    omega
  -- a negative number has one place less, which the sign takes
  | negSucc n =>
    have hlen : (format_d (.negSucc n)).toList.length = 1 + (Nat.toDigits 10 (n + 1)).length := by
      have htext : format_d (.negSucc n) = "-" ++ (n + 1).repr := rfl
      rw [htext, length_append, Nat.toList_repr]
      rfl
    have hiff := Nat.length_toDigits_le_iff (b := 10) (n := n + 1) (by decide) hk
    have hpos : 0 < 10 ^ (k + 1) := Nat.pow_pos (by decide)
    rw [hlen]
    omega

/-- A length can be bounded without decoding the string. -/
theorem length_le_utf8ByteSize (s : String) : s.toList.length ≤ s.utf8ByteSize := by
  rw [← String.utf8Len_toList]
  induction s.toList with
  | nil => exact Nat.le_refl 0
  | cons c cs ih =>
    have hpos : 0 < c.utf8Size := c.utf8Size_pos
    rw [String.utf8Len_cons, List.length_cons]
    omega

/-- Comparing one byte more than a string has is comparing all of it. -/
theorem strncmp_eq_iff {a b : String} {n : Nat} (h : b.toList.length < n) :
    strncmp_eq a b n = true ↔ a = b := by
  rw [strncmp_eq, beq_iff_eq, List.take_of_length_le (Nat.le_of_lt h)]
  constructor
  · intro heq
    have hlen := congrArg List.length heq
    rw [List.length_take] at hlen
    have ha : a.toList.length ≤ n := by omega
    rw [List.take_of_length_le ha] at heq
    exact String.toList_inj.mp heq
  · rintro rfl
    exact List.take_of_length_le (Nat.le_of_lt h)

end DiscoC
