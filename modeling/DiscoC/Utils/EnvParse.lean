import Mathlib.Data.List.Basic
import Mathlib.Data.List.TakeWhile
import Mathlib.Data.List.Infix

/-! # Values from an env file

  Model of `d_getenv` of `utils/env_parse.c`: one pass through the file that
  looks for the line of a name and counts the bytes of its value, which are
  then read again from where they begin.

  The pass stops at the first line whose part before the first `=` goes on
  with the name where the lines before it have left off (`stop_line`): `count`
  is not reset at the end of a line, and an `=` is accepted after any part of
  the name. What it counts includes the newline, so that a last line without
  one loses a byte. `d_getenv_eq` says what is returned and `d_getenv_iff` when
  it is the value of the name.

  A file is a list of bytes. The counters are `int`s; a file has less than
  2^31 bytes.
-/

namespace DiscoC

/-- `'\n'` -/
def NEWLINE : UInt8 := 10

/-- `'='` -/
def EQUALS : UInt8 := 61

/-- The byte that is `EOF` as a `signed char`. -/
def EOF_BYTE : UInt8 := 255

/-! ### The scan -/

/-- The variables of the first loop. -/
structure EnvScan where
  /-- if we're on a valid line -/
  val : Bool
  /-- if we found the name -/
  found : Bool
  /-- how far the value is in the file -/
  offset : Nat
  /-- how far we currently are in the file -/
  cur : Nat
  /-- index of name -/
  count : Nat
  /-- length of the variable name -/
  env_len : Nat

/-- The first loop, over what is left of the file. -/
def env_scan (name : List UInt8) (n : Nat) : List UInt8 → EnvScan → EnvScan
  | [], s => s
  | c :: rest, s =>
    if c = EOF_BYTE then s
    else
      let s := { s with
        cur := s.cur + 1
        env_len := if s.found then s.env_len + 1 else s.env_len }
      if c = NEWLINE then
        -- completely counted our value
        if s.found then { s with val := true }
        else env_scan name n rest { s with val := true }
      else if !s.found && s.val && c == EQUALS then
        env_scan name n rest { s with found := true, offset := s.cur }
      else if s.val then
        if s.count < n ∧ name[s.count]? = some c then
          env_scan name n rest { s with count := s.count + 1 }
        else
          env_scan name n rest { s with val := false }
      else
        env_scan name n rest s

/-- The second loop: the value is read from its offset. -/
def env_value (file : List UInt8) (s : EnvScan) : Option (List UInt8) :=
  if s.env_len = 0 then none else some ((file.drop s.offset).take (s.env_len - 1))

/-- `d_getenv`, of a file with these bytes. -/
def d_getenv (file name : List UInt8) : Option (List UInt8) :=
  env_value file <| env_scan name (min 1000 name.length) file {
    val := true
    found := false
    offset := 0
    cur := 0
    count := 0
    env_len := 0 }

/-! ### Lines -/

/-- A line of a file, and if there is a newline at its end. -/
structure EnvLine where
  text : List UInt8
  terminated : Bool
  deriving DecidableEq

/-- The lines of a file. -/
def env_lines : List UInt8 → List EnvLine
  | [] => []
  | c :: rest =>
    if c = NEWLINE then ⟨[], true⟩ :: env_lines rest
    else
      match env_lines rest with
      | [] => [⟨[c], false⟩]
      | line :: lines => ⟨c :: line.text, line.terminated⟩ :: lines

/-- The part before the first `=`. -/
def EnvLine.key (line : EnvLine) : List UInt8 := line.text.takeWhile fun c => c != EQUALS

/-- The line has a key and a value. -/
def EnvLine.assigns (line : EnvLine) : Bool := line.text.contains EQUALS

/-- The bytes after the first `=`. -/
def EnvLine.value (line : EnvLine) : List UInt8 :=
  (line.text.dropWhile fun c => c != EQUALS).tail

/-- The first line with the name as its key. -/
def key_line (file name : List UInt8) : Option EnvLine :=
  (env_lines file).find? fun line => line.assigns && line.key == name

/-- The value that the name should have. -/
def env_lookup (file name : List UInt8) : Option (List UInt8) :=
  (key_line file name).map EnvLine.value

/-! ### Where the scan stops -/

/-- How many bytes the two have in common at the start. -/
def common : List UInt8 → List UInt8 → Nat
  | a :: as, b :: bs => if a = b then common as bs + 1 else 0
  | _, _ => 0

/-- The first line whose key goes on with the name behind the `count` bytes
    that have been met so far. -/
def stop_line_from (name : List UInt8) : Nat → List EnvLine → Option EnvLine
  | _, [] => none
  | count, line :: lines =>
    if line.assigns && line.key.isPrefixOf (name.drop count) then some line
    else stop_line_from name (count + common line.key (name.drop count)) lines

def stop_line (file name : List UInt8) : Option EnvLine :=
  stop_line_from name 0 (env_lines file)

/-- What is returned for the line the scan has stopped at. -/
def EnvLine.read (line : EnvLine) : Option (List UInt8) :=
  if line.terminated then some line.value
  else if line.value = [] then none
  else some line.value.dropLast

/-! ### Files as lines -/

/-- A file is made up of these lines. -/
inductive LinesOf : List EnvLine → List UInt8 → Prop where
  | nil : LinesOf [] []
  | last {text : List UInt8} (h : NEWLINE ∉ text) : LinesOf [⟨text, false⟩] text
  | cons {text rest : List UInt8} {lines : List EnvLine} (h : NEWLINE ∉ text)
    (hrest : LinesOf lines rest) : LinesOf (⟨text, true⟩ :: lines) (text ++ NEWLINE :: rest)

theorem linesOf_env_lines (file : List UInt8) : LinesOf (env_lines file) file := by
  induction file with
  | nil => exact .nil
  | cons c rest ih =>
    rw [env_lines]
    by_cases hc : c = NEWLINE
    · rw [if_pos hc, hc]
      exact .cons List.not_mem_nil ih
    rw [if_neg hc]
    have hmem : ∀ {text : List UInt8}, NEWLINE ∉ text → NEWLINE ∉ c :: text := by
      intro text htext
      rw [List.mem_cons, not_or]
      exact ⟨fun h => hc h.symm, htext⟩
    -- the byte goes before the first of the lines, if there is one
    generalize env_lines rest = lines at ih
    cases ih with
    | nil => exact .last (hmem List.not_mem_nil)
    | last h => exact .last (hmem h)
    | cons h hrest => exact .cons (hmem h) hrest

/-- A line with a value is its key, a `=` and the value. -/
theorem EnvLine.text_eq {line : EnvLine} (h : line.assigns = true) :
    line.text = line.key ++ EQUALS :: line.value := by
  have hmem : EQUALS ∈ line.text := by simpa [assigns] using h
  have hsplit : line.text = line.key ++ line.text.dropWhile fun c => c != EQUALS :=
    (List.takeWhile_append_dropWhile).symm
  cases hdrop : line.text.dropWhile fun c => c != EQUALS with
  | nil =>
    -- the `=` would be in the key
    rw [hdrop, List.append_nil] at hsplit
    rw [hsplit] at hmem
    have hne := List.mem_takeWhile_imp hmem
    simp at hne
  | cons c rest =>
    have hne : (line.text.dropWhile fun c => c != EQUALS) ≠ [] := by simp [hdrop]
    have hc := List.head_dropWhile_not (fun c => c != EQUALS) hne
    have hc : c = EQUALS := by simpa [hdrop] using hc
    rw [value, hdrop, ← hc, List.tail_cons, ← hdrop]
    exact hsplit

theorem EnvLine.key_of_not_assigns {line : EnvLine} (h : ¬ line.assigns = true) :
    line.key = line.text := by
  rw [key, List.takeWhile_eq_self_iff]
  intro c hc
  rw [bne_iff_ne]
  rintro rfl
  exact h (by simpa [assigns] using hc)

theorem EnvLine.not_mem_key (line : EnvLine) : EQUALS ∉ line.key := by
  intro h
  have hne := List.mem_takeWhile_imp h
  simp at hne

/-! ### Scanning a line -/

/-- A scan that has not found the name so far. -/
def searching (val : Bool) (cur count : Nat) : EnvScan where
  val := val
  found := false
  offset := 0
  cur := cur
  count := count
  env_len := 0

/-- Bytes of a line that are gone through one by one. -/
def Plain (text : List UInt8) : Prop := NEWLINE ∉ text ∧ EOF_BYTE ∉ text

theorem Plain.cons {c : UInt8} {text : List UInt8} (h : Plain (c :: text)) :
    c ≠ NEWLINE ∧ c ≠ EOF_BYTE ∧ Plain text := by
  obtain ⟨hnewline, heof⟩ := h
  rw [List.mem_cons, not_or] at hnewline heof
  exact ⟨fun h => hnewline.1 h.symm, fun h => heof.1 h.symm, hnewline.2, heof.2⟩

theorem Plain.of_append {text text' : List UInt8} (h : Plain (text ++ text')) :
    Plain text ∧ Plain text' := by
  obtain ⟨hnewline, heof⟩ := h
  rw [List.mem_append, not_or] at hnewline heof
  exact ⟨⟨hnewline.1, heof.1⟩, hnewline.2, heof.2⟩

section scan

variable (name : List UInt8)

/-- Nothing more is looked at on a line that is not valid. -/
theorem env_scan_invalid {text : List UInt8} (h : Plain text) (n cur count : Nat)
    (rest : List UInt8) :
    env_scan name n (text ++ rest) (searching false cur count) =
      env_scan name n rest (searching false (cur + text.length) count) := by
  induction text generalizing cur with
  | nil => rfl
  | cons c text ih =>
    obtain ⟨hnewline, heof, htext⟩ := h.cons
    have hlength : cur + (c :: text).length = cur + 1 + text.length := by
      rw [List.length_cons]
      omega
    rw [hlength, ← ih htext]
    simp [env_scan, searching, hnewline, heof]

/-- The next byte of the name, if there is one. -/
theorem drop_eq_cons {count : Nat} {c : UInt8} (h : name[count]? = some c) :
    name.drop count = c :: name.drop (count + 1) := by
  obtain ⟨hlt, rfl⟩ := List.getElem?_eq_some_iff.mp h
  exact List.drop_eq_getElem_cons hlt

theorem common_of_ne {count : Nat} {c : UInt8} (h : name[count]? ≠ some c) (text : List UInt8) :
    (c :: text).isPrefixOf (name.drop count) = false ∧
      common (c :: text) (name.drop count) = 0 := by
  cases hdrop : name.drop count with
  | nil => exact ⟨rfl, rfl⟩
  | cons d rest =>
    have hd : name[count]? = some d := by
      rw [← List.head?_drop, hdrop]
      rfl
    have hne : c ≠ d := fun heq => h (heq ▸ hd)
    constructor
    · rw [List.isPrefixOf_cons_cons, beq_false_of_ne hne, Bool.false_and]
    · rw [common, if_neg hne]

/-- A part without a `=` is compared with what is left of the name. -/
theorem env_scan_key {key : List UInt8} (h : Plain key) (hkey : EQUALS ∉ key)
    (cur count : Nat) (rest : List UInt8) :
    env_scan name name.length (key ++ rest) (searching true cur count) =
      env_scan name name.length rest (searching (key.isPrefixOf (name.drop count))
        (cur + key.length) (count + common key (name.drop count))) := by
  induction key generalizing cur count with
  | nil =>
    cases name.drop count <;> rfl
  | cons c key ih =>
    obtain ⟨hnewline, heof, htext⟩ := h.cons
    rw [List.mem_cons, not_or] at hkey
    have hequals : c ≠ EQUALS := fun h => hkey.1 h.symm
    have hlength : cur + (c :: key).length = cur + 1 + key.length := by
      rw [List.length_cons]
      omega
    -- the match goes on with the next byte of the name, or the line is given up
    by_cases hc : name[count]? = some c
    · obtain ⟨hlt, hget⟩ := List.getElem?_eq_some_iff.mp hc
      have hcount : count + (common key (name.drop (count + 1)) + 1) =
          count + 1 + common key (name.drop (count + 1)) := by omega
      rw [drop_eq_cons name hc, common, if_pos rfl, hcount, hlength, List.isPrefixOf_cons_cons,
        beq_self_eq_true, Bool.true_and, ← ih htext hkey.2]
      simp [env_scan, searching, hnewline, heof, hequals, hlt, hget]
    · obtain ⟨hstarts, hcommon⟩ := common_of_ne name hc key
      rw [hstarts, hcommon, hlength, Nat.add_zero, ← env_scan_invalid name htext]
      simp [env_scan, searching, hnewline, heof, hequals, hc]

/-- The bytes of a value are counted. -/
theorem env_scan_value {text : List UInt8} (h : Plain text) (n : Nat) (rest : List UInt8)
    {s : EnvScan} (hs : s.found = true) :
    ∃ s', env_scan name n (text ++ rest) s = env_scan name n rest s' ∧ s'.found = true ∧
      s'.offset = s.offset ∧ s'.env_len = s.env_len + text.length := by
  induction text generalizing s with
  | nil => exact ⟨s, rfl, hs, rfl, rfl⟩
  | cons c text ih =>
    obtain ⟨hnewline, heof, htext⟩ := h.cons
    -- whatever happens to `val` and `count`, one byte is counted
    have hstep : ∃ s₁ : EnvScan, env_scan name n (c :: (text ++ rest)) s =
        env_scan name n (text ++ rest) s₁ ∧ s₁.found = true ∧ s₁.offset = s.offset ∧
          s₁.env_len = s.env_len + 1 := by
      rw [env_scan, if_neg heof]
      simp only [if_neg hnewline, hs, if_true, Bool.not_true, Bool.false_and, Bool.false_eq_true,
        if_false]
      by_cases hval : s.val = true
      · rw [if_pos hval]
        by_cases hmatch : s.count < n ∧ name[s.count]? = some c
        · rw [if_pos hmatch]
          exact ⟨_, rfl, rfl, rfl, rfl⟩
        · rw [if_neg hmatch]
          exact ⟨_, rfl, rfl, rfl, rfl⟩
      · rw [if_neg hval]
        exact ⟨_, rfl, rfl, rfl, rfl⟩
    obtain ⟨s₁, hstep, hfound₁, hoffset₁, hlen₁⟩ := hstep
    obtain ⟨s', hscan, hfound, hoffset, hlen⟩ := ih htext hfound₁
    refine ⟨s', hstep.trans hscan, hfound, hoffset.trans hoffset₁, ?_⟩
    rw [hlen, hlen₁, List.length_cons]
    omega

/-- A line that the scan does not stop at is passed. Its newline, if it has
    one, makes the next line a valid one. -/
theorem env_scan_pass {line : EnvLine} (h : Plain line.text) (cur : Nat) {count : Nat}
    (hstop : ¬ (line.assigns && line.key.isPrefixOf (name.drop count)) = true)
    (rest : List UInt8) :
    ∃ val, env_scan name name.length (line.text ++ rest) (searching true cur count) =
      env_scan name name.length rest
        (searching val (cur + line.text.length) (count + common line.key (name.drop count))) := by
  by_cases hassigns : line.assigns = true
  · have htext := EnvLine.text_eq hassigns
    have hstarts : line.key.isPrefixOf (name.drop count) = false := by
      rw [hassigns, Bool.true_and] at hstop
      exact Bool.eq_false_iff.mpr hstop
    obtain ⟨hkey, hvalue⟩ := (htext ▸ h).of_append
    refine ⟨false, ?_⟩
    -- the rest of the line is not looked at
    rw [htext, List.append_assoc, env_scan_key name hkey line.not_mem_key, hstarts,
      env_scan_invalid name hvalue, List.length_append, Nat.add_assoc]
  · have hkey := EnvLine.key_of_not_assigns hassigns
    refine ⟨line.key.isPrefixOf (name.drop count), ?_⟩
    rw [← hkey] at h
    rw [← hkey, env_scan_key name h line.not_mem_key]

/-- A line that the scan stops at: its value has been counted, and the scan
    knows where it begins. -/
theorem env_scan_stop {line : EnvLine} (h : Plain line.text) (cur : Nat) {count : Nat}
    (hstop : (line.assigns && line.key.isPrefixOf (name.drop count)) = true)
    (rest : List UInt8) :
    ∃ s, env_scan name name.length (line.text ++ rest) (searching true cur count) =
        env_scan name name.length rest s ∧ s.found = true ∧
      s.offset = cur + line.key.length + 1 ∧ s.env_len = line.value.length := by
  obtain ⟨hassigns, hstarts⟩ := Bool.and_eq_true_iff.mp hstop
  have htext := EnvLine.text_eq hassigns
  obtain ⟨hkey, hvalue⟩ := (htext ▸ h).of_append
  -- at the `=`, the scan is still on a valid line
  have hequals : env_scan name name.length (EQUALS :: (line.value ++ rest))
      (searching true (cur + line.key.length) (count + common line.key (name.drop count))) =
      env_scan name name.length (line.value ++ rest)
        { searching true (cur + line.key.length + 1)
            (count + common line.key (name.drop count)) with
          found := true
          offset := cur + line.key.length + 1 } := by
    rw [env_scan, if_neg (by decide)]
    rfl
  obtain ⟨s, hscan, hfound, hoffset, hlen⟩ := env_scan_value name hvalue.cons.2.2 name.length rest
    (s := { searching true (cur + line.key.length + 1)
            (count + common line.key (name.drop count)) with
          found := true
          offset := cur + line.key.length + 1 }) rfl
  refine ⟨s, ?_, hfound, hoffset, ?_⟩
  · rw [htext, List.append_assoc, env_scan_key name hkey line.not_mem_key, hstarts,
      List.cons_append, hequals, hscan]
  · rw [hlen]
    exact Nat.zero_add _

/-! ### What is returned -/

/-- The value is read from where the key and the sign = end. -/
theorem drop_to_value {line : EnvLine} {before : List UInt8} {s : EnvScan}
    (htext : line.text = line.key ++ EQUALS :: line.value)
    (hoffset : s.offset = before.length + line.key.length + 1) (rest : List UInt8) :
    (before ++ (line.text ++ rest)).drop s.offset = line.value ++ rest := by
  have hfile : before ++ (line.text ++ rest) =
      (before ++ line.key ++ [EQUALS]) ++ (line.value ++ rest) := by
    rw [htext]
    simp
  have hstart : s.offset = (before ++ line.key ++ [EQUALS]).length := by
    rw [hoffset]
    simp [Nat.add_assoc]
  rw [hfile, hstart, List.drop_left]

/-- The value of a line is read from the file if it ends with a newline. -/
theorem env_value_terminated {line : EnvLine} {before rest : List UInt8} {s : EnvScan}
    (htext : line.text = line.key ++ EQUALS :: line.value)
    (hoffset : s.offset = before.length + line.key.length + 1)
    (hlen : s.env_len = line.value.length + 1) :
    env_value (before ++ (line.text ++ rest)) s = some line.value := by
  rw [env_value, drop_to_value htext hoffset, hlen, if_neg (Nat.succ_ne_zero _),
    Nat.add_sub_cancel, List.take_left]

/-- Without a newline, a byte is missing at the end. -/
theorem env_value_unterminated {line : EnvLine} {before : List UInt8} {s : EnvScan}
    (htext : line.text = line.key ++ EQUALS :: line.value)
    (hoffset : s.offset = before.length + line.key.length + 1)
    (hlen : s.env_len = line.value.length) :
    env_value (before ++ line.text) s =
      if line.value = [] then none else some line.value.dropLast := by
  have hdrop := drop_to_value htext hoffset []
  rw [List.append_nil, List.append_nil] at hdrop
  rw [env_value, hdrop, hlen, ← List.dropLast_eq_take]
  by_cases hvalue : line.value = []
  · rw [if_pos hvalue, if_pos (by rw [hvalue]; rfl)]
  · rw [if_neg hvalue, if_neg (by rwa [List.length_eq_zero_iff])]

/-- The scan from the beginning of a line, where `before` is what has been
    read of the file. -/
theorem env_value_scan {lines : List EnvLine} {rest : List UInt8} (h : LinesOf lines rest)
    (heof : EOF_BYTE ∉ rest) (before : List UInt8) (count : Nat) :
    env_value (before ++ rest)
        (env_scan name name.length rest (searching true before.length count)) =
      (stop_line_from name count lines).bind EnvLine.read := by
  induction h generalizing before count with
  | nil => rfl
  | @last text hnewline =>
    have hplain : Plain (EnvLine.mk text false).text := ⟨hnewline, heof⟩
    by_cases hstop : ((EnvLine.mk text false).assigns &&
        (EnvLine.mk text false).key.isPrefixOf (name.drop count)) = true
    · obtain ⟨s, hscan, -, hoffset, hlen⟩ := env_scan_stop name hplain before.length hstop []
      have htext := EnvLine.text_eq (Bool.and_eq_true_iff.mp hstop).1
      rw [List.append_nil] at hscan
      rw [stop_line_from, if_pos hstop, hscan]
      exact env_value_unterminated htext hoffset hlen
    · obtain ⟨val, hscan⟩ := env_scan_pass name hplain before.length hstop []
      rw [List.append_nil] at hscan
      rw [stop_line_from, if_neg hstop, hscan]
      rfl
  | @cons text rest lines hnewline hrest ih =>
    rw [List.mem_append, List.mem_cons, not_or, not_or] at heof
    have hplain : Plain (EnvLine.mk text true).text := ⟨hnewline, heof.1⟩
    by_cases hstop : ((EnvLine.mk text true).assigns &&
        (EnvLine.mk text true).key.isPrefixOf (name.drop count)) = true
    · obtain ⟨s, hscan, hfound, hoffset, hlen⟩ :=
        env_scan_stop name hplain before.length hstop (NEWLINE :: rest)
      have htext := EnvLine.text_eq (Bool.and_eq_true_iff.mp hstop).1
      -- the newline is counted, and the scan is over
      have hbreak : env_scan name name.length (NEWLINE :: rest) s =
          { s with cur := s.cur + 1, env_len := s.env_len + 1, val := true } := by
        rw [env_scan, if_neg (by decide)]
        simp only [if_true, hfound]
      rw [stop_line_from, if_pos hstop, hscan, hbreak]
      exact env_value_terminated htext hoffset (congrArg (· + 1) hlen)
    · obtain ⟨val, hscan⟩ :=
        env_scan_pass name hplain before.length hstop (NEWLINE :: rest)
      -- the next line begins behind the newline
      have hnext : env_scan name name.length (NEWLINE :: rest)
          (searching val (before.length + text.length)
            (count + common (EnvLine.mk text true).key (name.drop count))) =
          env_scan name name.length rest (searching true (before ++ text ++ [NEWLINE]).length
            (count + common (EnvLine.mk text true).key (name.drop count))) := by
        have hcur : (before ++ text ++ [NEWLINE]).length = before.length + text.length + 1 := by
          simp [Nat.add_assoc]
        rw [env_scan, if_neg (by decide), hcur]
        rfl
      have hfile : before ++ (text ++ NEWLINE :: rest) = before ++ text ++ [NEWLINE] ++ rest := by
        simp
      rw [stop_line_from, if_neg hstop, hscan, hnext, hfile]
      exact ih heof.2.2 _ _

end scan

/-- **What is returned** is read from the line that the scan stops at. -/
theorem d_getenv_eq {file name : List UInt8} (hfile : EOF_BYTE ∉ file)
    (hname : name.length ≤ 1000) :
    d_getenv file name = (stop_line file name).bind EnvLine.read := by
  have hn : min 1000 name.length = name.length := Nat.min_eq_right hname
  rw [d_getenv, hn]
  exact env_value_scan name (linesOf_env_lines file) hfile [] 0

/-! ### When it is the value -/

/-- The line that the scan stops at and that of the name have the same
    value, and no byte of it is missing. -/
def LinesAgree : Option EnvLine → Option EnvLine → Prop
  | none, none => True
  | none, some _ => False
  | some stop, none => stop.terminated = false ∧ stop.value = []
  | some stop, some line =>
    stop.terminated = true ∧ stop.value = line.value ∨
      stop.terminated = false ∧ ∃ c, stop.value = line.value ++ [c]

/-- A value without its last byte. -/
theorem dropLast_eq_iff {value value' : List UInt8} :
    (value ≠ [] ∧ value.dropLast = value') ↔ ∃ c, value = value' ++ [c] := by
  constructor
  · intro h
    obtain ⟨hne, rfl⟩ := h
    exact ⟨value.getLast hne, (List.dropLast_concat_getLast hne).symm⟩
  · intro h
    obtain ⟨c, rfl⟩ := h
    exact ⟨List.append_ne_nil_of_right_ne_nil _ (List.cons_ne_nil c []), List.dropLast_concat⟩

theorem read_eq_iff (stop : EnvLine) (value : List UInt8) :
    stop.read = some value ↔
      stop.terminated = true ∧ stop.value = value ∨
        stop.terminated = false ∧ ∃ c, stop.value = value ++ [c] := by
  unfold EnvLine.read
  rw [← dropLast_eq_iff]
  cases stop.terminated with
  | true => simp
  | false =>
    by_cases hvalue : stop.value = []
    · simp [hvalue]
    · simp [hvalue]

theorem read_eq_none_iff (stop : EnvLine) :
    stop.read = none ↔ stop.terminated = false ∧ stop.value = [] := by
  unfold EnvLine.read
  cases stop.terminated with
  | true => simp
  | false =>
    by_cases hvalue : stop.value = []
    · simp [hvalue]
    · simp [hvalue]

theorem linesAgree_iff (stop line : Option EnvLine) :
    stop.bind EnvLine.read = line.map EnvLine.value ↔ LinesAgree stop line := by
  cases stop with
  | none => cases line <;> simp [LinesAgree]
  | some stop =>
    cases line with
    | none => exact read_eq_none_iff stop
    | some line => exact read_eq_iff stop line.value

/-- **The value of a name is returned** exactly when the line that the scan
    stops at agrees with that of the name. -/
theorem d_getenv_iff {file name : List UInt8} (hfile : ∀ c ∈ file, c.toNat ≤ 127)
    (hname : name.length ≤ 1000) :
    d_getenv file name = env_lookup file name ↔
      LinesAgree (stop_line file name) (key_line file name) := by
  have heof : EOF_BYTE ∉ file := fun h => absurd (hfile _ h) (by decide)
  rw [d_getenv_eq heof hname, env_lookup]
  exact linesAgree_iff _ _

/-- The file of one line `AB=1` has the value of the name `AB`. -/
theorem d_getenv_one_line :
    d_getenv [65, 66, 61, 49, 10] [65, 66] = env_lookup [65, 66, 61, 49, 10] [65, 66] :=
  (d_getenv_iff (by simp) (by simp)).mpr (.inl ⟨rfl, rfl⟩)

/-- The file `A=1` has no value for the name `AB`, but that of `A` is
    returned. The file `A`, `AB=1` has one that is not found, and of the value
    in `AB=12` without a newline the last byte is missing. -/
theorem d_getenv_wrong :
    d_getenv [65, 61, 49, 10] [65, 66] = some [49] ∧
      env_lookup [65, 61, 49, 10] [65, 66] = none ∧
    d_getenv [65, 10, 65, 66, 61, 49, 10] [65, 66] = none ∧
      env_lookup [65, 10, 65, 66, 61, 49, 10] [65, 66] = some [49] ∧
    d_getenv [65, 66, 61, 49, 50] [65, 66] = some [49] ∧
      env_lookup [65, 66, 61, 49, 50] [65, 66] = some [49, 50] := by
  decide

end DiscoC
