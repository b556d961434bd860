import DiscoC.Web.RequestRetries

/-! # The files of a request that is retried

  Every attempt of a request with files needs a body with all of them, so
  the filenames have to be kept until the last attempt (`FilesKept`), and the
  list heads have to be set before they are appended to.

  `request_t_pool` cleans up after every attempt, also when it has queued the
  node again. So the filenames are kept exactly when the first outcome is not
  one that is retried; and the list heads are never set
  (`attachments_never_survive`).
-/

namespace DiscoC

/-! ### What the files need -/

/-- It adds a part to a multipart body. -/
def RequestEvent.is_part : RequestEvent → Bool
  | .part_json _ | .part_file _ => true
  | _ => false

/-- What all executions of a run have done. -/
def RetryRun.events (s : RetryRun) : List RequestEvent :=
  s.done.flatMap fun x => x.execution.events

/-- The array of the filenames, and the strings. -/
def file_blocks (files : List String) : List RequestBlock :=
  .files :: (List.range files.length).map .file

/-- Every attempt sends all files in their order, from filenames that are
    alive; and they are released once, after the last attempt. -/
structure FilesKept (json : Option String) (files : List String) (s : RetryRun) : Prop where
  parts : ∀ x ∈ s.done, x.execution.performs = true →
    x.execution.events.filter RequestEvent.is_part = .part_json json :: files.map .part_file
  alive : ∀ block, .use_after_free block ∉ s.events
  released : ∃ before after, s.events = before ++ after ∧
    (∀ e ∈ after, e.performed = false) ∧
    ∀ block ∈ file_blocks files, free_count before block = 0 ∧
      free_count after block = if s.queued.isSome then 0 else 1

/-- Besides, only list heads that have been set are appended to. -/
structure AttachmentsSurvive (json : Option String) (files : List String) (s : RetryRun) : Prop
    extends FilesKept json files s where
  heads : .unassigned "attachments_l" ∉ s.events

/-! ### One execution -/

section execution

variable {cJSON_Parse : Option String → Option CJson} {client : Client} {n : RequestNode}
  {t : Transfer}

/-- An attempt changes neither the files nor the body. -/
theorem request_attempt_files (n : RequestNode) (t : Transfer) :
    (request_attempt cJSON_Parse n t).1.files = n.files ∧
      (request_attempt cJSON_Parse n t).1.files_freed = n.files_freed ∧
      (request_attempt cJSON_Parse n t).1.json = n.json := by
  obtain ⟨res, http, iteration, hnode⟩ := @request_attempt_node cJSON_Parse n t
  rw [hnode]
  exact ⟨rfl, rfl, rfl⟩

theorem request_t_pool_files (n : RequestNode) (t : Transfer) :
    (request_t_pool cJSON_Parse client n t).node.files = n.files := by
  rw [(request_t_pool_parts n t).1, cleaned_up_files, (request_attempt_files n t).1]

/-! ### What is freed -/

theorem mem_file_blocks {files : List String} {block : RequestBlock} :
    block ∈ file_blocks files ↔ block = .files ∨ ∃ i < files.length, block = .file i := by
  simp [file_blocks, eq_comm]

/-- The setup of a transfer reads filenames and list heads, and adds parts. -/
theorem mem_request_setup {e : RequestEvent} (he : e ∈ request_setup n) :
    (∃ json, e = .part_json json) ∨ (∃ filename, e = .part_file filename) ∨
      e = .unassigned "attachments_l" ∨
      ∃ block, e = .use_after_free block ∧ n.files_freed = true := by
  unfold request_setup d_curl_setup_discord_header_files at he
  split at he
  · exact absurd he List.not_mem_nil
  · rcases List.mem_cons.mp he with hjson | he
    · exact .inl ⟨_, hjson⟩
    · obtain ⟨⟨file, i⟩, -, he⟩ := List.mem_flatMap.mp he
      unfold read_file at he
      cases hfreed : n.files_freed
      · simp [hfreed] at he
        tauto
      · simp [hfreed] at he
        rcases he with h | h | h | h
        · exact .inr (.inr (.inr ⟨_, h, rfl⟩))
        · exact .inr (.inr (.inr ⟨_, h, rfl⟩))
        · exact .inr (.inr (.inl h))
        · exact .inr (.inl ⟨_, h⟩)

/-- Before the cleanup nothing is freed. -/
theorem request_setup_freed (n : RequestNode) :
    (request_setup n).filterMap RequestEvent.freed = [] := by
  rw [List.filterMap_eq_nil_iff]
  intro e he
  rcases mem_request_setup he with ⟨_, rfl⟩ | ⟨_, rfl⟩ | rfl | ⟨_, rfl, -⟩ <;> rfl

theorem attempt_events_freed (n : RequestNode) :
    (attempt_events n).filterMap RequestEvent.freed = [] := by
  unfold attempt_events
  split
  · split <;> split <;> rfl
  · rfl

/-- The cleanup frees every filename, and then the array. -/
theorem request_cleanup_freed {n : RequestNode} (hn : n.files ≠ []) :
    (request_cleanup n).filterMap RequestEvent.freed =
      (List.range n.files.length).map .file ++ [.files] := by
  have heach : ∀ x : String × Nat, (((if n.files_freed then [RequestEvent.use_after_free .files]
      else []) ++ [RequestEvent.free (.file x.2)]).filterMap RequestEvent.freed) =
        [RequestBlock.file x.2] := by
    intro x
    split <;> rfl
  unfold request_cleanup
  rw [if_pos (List.length_pos_iff.mpr hn), List.filterMap_append, List.filterMap_flatMap]
  have hmap : n.files.zipIdx.map Prod.snd = List.range n.files.length := by
    rw [List.zipIdx_map_snd, List.range_eq_range']
  rw [← hmap, List.map_map, List.map_eq_flatMap,
    List.flatMap_congr (g := fun x => [RequestBlock.file x.2]) (fun x _ => heach x)]
  rfl

/-- The end reads a response, handles it, and frees blocks that are no
    filenames. -/
theorem mem_request_finalise {n : RequestNode} {response : Option (Option String)}
    {e : RequestEvent} (he : e ∈ request_finalise cJSON_Parse client n response) :
    e = .unassigned "response" ∨ (∃ type res_json, e = .callback type res_json) ∨
      ∃ block, e = .free block ∧ ∀ i, e.freed ≠ some .files ∧ e.freed ≠ some (.file i) := by
  have hcleanup : e ∈ .free .rc :: final_cleanup n →
      ∃ block, e = .free block ∧ ∀ i, e.freed ≠ some .files ∧ e.freed ≠ some (.file i) := by
    intro he
    unfold final_cleanup at he
    simp only [List.mem_cons, List.mem_append, List.not_mem_nil, or_false] at he
    rcases he with rfl | hjson | rfl | rfl | rfl
    · simp [RequestEvent.freed]
    · split at hjson
      · rw [List.mem_singleton.mp hjson]
        simp [RequestEvent.freed]
      · cases hjson
    all_goals simp [RequestEvent.freed]
  unfold request_finalise at he
  rcases List.mem_append.mp he with hunset | hend
  · split at hunset
    · exact .inl (List.mem_singleton.mp hunset)
    · cases hunset
  · split at hend
    · rcases List.mem_cons.mp hend with rfl | hend
      · exact .inr (.inl ⟨_, _, rfl⟩)
      · split at hend
        · exact .inr (.inr (hcleanup hend))
        · cases hend
    · exact .inr (.inr (hcleanup (List.mem_cons_of_mem _ hend)))

/-- The end frees no filename. -/
theorem request_finalise_freed_files {n : RequestNode} {response : Option (Option String)}
    {files : List String} {block : RequestBlock} (hblock : block ∈ file_blocks files) :
    free_count (request_finalise cJSON_Parse client n response) block = 0 := by
  have hsub : ∀ e ∈ request_finalise cJSON_Parse client n response, ∀ i,
      e.freed ≠ some .files ∧ e.freed ≠ some (.file i) := by
    intro e he i
    rcases mem_request_finalise he with rfl | ⟨_, _, rfl⟩ | ⟨_, rfl, hne⟩
    · simp [RequestEvent.freed]
    · simp [RequestEvent.freed]
    · exact hne i
  unfold free_count
  rw [List.count_eq_zero]
  intro hmem
  obtain ⟨e, he, hfreed⟩ := List.mem_filterMap.mp hmem
  rcases mem_file_blocks.mp hblock with rfl | ⟨i, -, rfl⟩
  · exact (hsub e he 0).1 hfreed
  · exact (hsub e he i).2 hfreed

/-- **Every execution** frees the filenames, whether or not it queues the
    node again. -/
theorem request_t_pool_freed (t : Transfer) (hn : n.files ≠ []) {block : RequestBlock}
    (hblock : block ∈ file_blocks n.files) :
    free_count (request_t_pool cJSON_Parse client n t).events block = 1 := by
  obtain ⟨-, rest, hevents, hrest⟩ := @request_t_pool_parts cJSON_Parse client n t
  obtain ⟨hfiles, -, -⟩ := @request_attempt_files cJSON_Parse n t
  have hend : free_count rest block = 0 := by
    rcases hrest with rfl | ⟨response, rfl⟩
    · rfl
    · exact request_finalise_freed_files hblock
  have hcleanup :
      free_count (request_cleanup (request_attempt cJSON_Parse n t).1) block = 1 := by
    unfold free_count
    rw [request_cleanup_freed (hfiles ▸ hn), hfiles]
    refine List.count_eq_one_of_mem ?_ ?_
    · -- the strings are different blocks, and none of them is the array
      have hinj : Function.Injective RequestBlock.file := fun i j h => RequestBlock.file.inj h
      refine List.nodup_append.mpr ⟨List.nodup_range.map hinj, List.nodup_singleton _, ?_⟩
      intro a ha b hb hab
      obtain ⟨i, -, rfl⟩ := List.mem_map.mp ha
      rw [List.mem_singleton.mp hb] at hab
      cases hab
    · rcases mem_file_blocks.mp hblock with rfl | ⟨i, hi, rfl⟩
      · exact List.mem_append_right _ List.mem_cons_self
      · exact List.mem_append_left _ (List.mem_map_of_mem (List.mem_range.mpr hi))
  -- the setup, the attempt and the end free none of them
  rw [hevents, free_count_append, attempt_part, free_count_append, free_count_append, hcleanup,
    hend, free_count, request_setup_freed, free_count, attempt_events_freed]
  rfl

/-- Every execution appends to list heads that have not been set. -/
theorem request_t_pool_heads (t : Transfer) (hn : n.files ≠ []) :
    .unassigned "attachments_l" ∈ (request_t_pool cJSON_Parse client n t).events := by
  obtain ⟨-, rest, hevents, -⟩ := @request_t_pool_parts cJSON_Parse client n t
  obtain ⟨file, files, hf⟩ := List.exists_cons_of_ne_nil hn
  rw [hevents]
  refine List.mem_append_left _ ?_
  simp [attempt_part, request_setup, d_curl_setup_discord_header_files, hf]

end execution

/-! ### Every run -/

/-- After some executions. -/
structure FilesInv (files : List String) (s : RetryRun) : Prop where
  node : s.node.files = files
  freed : ∀ block ∈ file_blocks files, free_count s.events block = s.done.length
  heads : s.done ≠ [] → .unassigned "attachments_l" ∈ s.events

section run

variable {cJSON_Parse : Option String → Option CJson} {client : Client} {n : RequestNode}
  {ts : List Transfer} {s s' : RetryRun} {t : Transfer} {files : List String}

theorem FilesInv.step (hfiles : files ≠ []) (h : FilesInv files s)
    (hexec : request_execute cJSON_Parse client s t = some s') : FilesInv files s' := by
  obtain ⟨w, -, rfl⟩ := Option.map_eq_some_iff.mp hexec
  have hn : s.node.files ≠ [] := h.node ▸ hfiles
  have hevents : ∀ x : Execution,
      RetryRun.events { node := x.node, queued := x.queued, done := s.done ++ [⟨s.node, t, x⟩] } =
        s.events ++ x.events := by
    intro x
    unfold RetryRun.events
    rw [List.flatMap_append, List.flatMap_singleton]
  refine ⟨(request_t_pool_files s.node t).trans h.node, ?_, fun _ => ?_⟩
  · -- one more execution frees each block once more
    intro block hblock
    rw [hevents, free_count_append, h.freed block hblock,
      request_t_pool_freed t hn (h.node ▸ hblock), List.length_append]
    rfl
  · rw [hevents]
    exact List.mem_append_right _ (request_t_pool_heads t hn)

theorem FilesInv.run (hfiles : n.files ≠ []) (hrun : (retry_system cJSON_Parse client n).Run ts s) :
    FilesInv n.files s ∧ s.done.length = ts.length := by
  refine System.Run.invariant (I := fun ts s => FilesInv n.files s ∧ s.done.length = ts.length)
    ?_ ?_ hrun
  · intro s hs
    rw [show s = _ from hs]
    exact ⟨⟨rfl, fun _ _ => rfl, fun h => absurd rfl h⟩, rfl⟩
  · intro ts t s s' _ hinv hstep
    refine ⟨hinv.1.step hfiles hstep, ?_⟩
    obtain ⟨w, -, rfl⟩ := Option.map_eq_some_iff.mp hstep
    rw [List.length_append, List.length_append, hinv.2]
    rfl

/-- A run that goes on after its first execution needs the node queued. -/
theorem run_of_not_queued {n : RequestNode}
    (hrun : (retry_system cJSON_Parse client n).Run (t :: ts) s)
    (hq : (request_t_pool cJSON_Parse client n t).queued = none) :
    ts = [] ∧ s = { node := (request_t_pool cJSON_Parse client n t).node, queued := none,
                    done := [⟨n, t, request_t_pool cJSON_Parse client n t⟩] } := by
  have hfold := System.run_ofFn_iff.mp hrun
  rw [List.foldlM_cons] at hfold
  obtain ⟨s₁, hs₁, hrest⟩ := Option.bind_eq_some_iff.mp hfold
  have hfirst : s₁ = { node := (request_t_pool cJSON_Parse client n t).node, queued := none,
                       done := [⟨n, t, request_t_pool cJSON_Parse client n t⟩] } := by
    rw [← hq]
    exact (Option.some.inj hs₁).symm
  rw [hfirst] at hrest
  cases ts with
  | nil => exact ⟨rfl, (Option.some.inj hrest).symm⟩
  | cons u us =>
    -- there is nothing to execute for a second transfer
    rw [List.foldlM_cons] at hrest
    cases hrest

end run

/-! ### One attempt -/

section attempt

variable {cJSON_Parse : Option String → Option CJson} {client : Client} {n : RequestNode}
  {t : Transfer}

/-- Whether a node is queued again depends on the outcome only. -/
theorem queued_eq_none_iff (h : n.iteration < 5) :
    (request_t_pool cJSON_Parse client n t).queued = none ↔
      next_iteration cJSON_Parse n.iteration t = none := by
  unfold next_iteration
  cases request_t_pool_spec cJSON_Parse client n t with
  | exhausted hfive => exact absurd h (Nat.not_lt.mpr hfive)
  | failed _ _ ht hqueued =>
    -- 429 is not transient
    have h429 : t.http ≠ 429 := fun h429 =>
      absurd ((is_transient_429 h429).symm.trans ht) Bool.false_ne_true
    rw [hqueued, if_neg h429, if_pos ht]
    exact iff_of_false (Option.some_ne_none _) (Option.some_ne_none _)
  | limited v _ _ h429 hnumber hqueued =>
    rw [hqueued, if_pos h429, hnumber]
    exact iff_of_false (Option.some_ne_none _) (Option.some_ne_none _)
  | ended _ _ ht hnumber hqueued =>
    rw [hqueued, ht]
    by_cases h429 : t.http = 429
    · rw [if_pos h429, hnumber h429]
      exact iff_of_true rfl rfl
    · rw [if_neg h429]
      exact iff_of_true rfl rfl

/-- A body has the JSON part first, and then one part for each file. -/
theorem request_setup_parts (hn : n.files ≠ []) :
    (request_setup n).filter RequestEvent.is_part =
      .part_json n.json :: n.files.map .part_file := by
  have heach : ∀ x : String × Nat,
      (read_file n x.2 ++ [RequestEvent.unassigned "attachments_l", .part_file x.1]).filter
        RequestEvent.is_part = [RequestEvent.part_file x.1] := by
    intro x
    unfold read_file
    split <;> rfl
  unfold request_setup d_curl_setup_discord_header_files
  -- without the indices, the parts are a map
  have hmap : n.files.map RequestEvent.part_file =
      n.files.zipIdx.flatMap fun x => [RequestEvent.part_file x.1] := by
    conv_lhs => rw [← List.zipIdx_map_fst 0 n.files, List.map_map]
    exact List.map_eq_flatMap
  rw [if_neg (fun h => hn (List.length_eq_zero_iff.mp h)), List.filter_cons_of_pos rfl,
    List.filter_flatMap, hmap]
  exact congrArg _ (List.flatMap_congr fun x _ => heach x)

/-- The rest of an execution adds no part. -/
theorem attempt_events_parts (n : RequestNode) :
    (attempt_events n).filter RequestEvent.is_part = [] := by
  unfold attempt_events
  split
  · split <;> split <;> rfl
  · rfl

theorem request_cleanup_parts (n : RequestNode) :
    (request_cleanup n).filter RequestEvent.is_part = [] := by
  unfold request_cleanup
  cases n.files_freed <;> split <;>
    simp [List.filter_flatMap, RequestEvent.is_part]

theorem request_finalise_parts (n : RequestNode) (response : Option (Option String)) :
    (request_finalise cJSON_Parse client n response).filter RequestEvent.is_part = [] := by
  refine List.filter_eq_nil_iff.mpr fun e he => ?_
  rcases mem_request_finalise he with rfl | ⟨_, _, rfl⟩ | ⟨_, rfl, -⟩ <;> exact Bool.false_ne_true

/-- While the filenames are alive, nothing is read from freed memory. -/
theorem request_setup_alive (hn : n.files_freed = false) (block : RequestBlock) :
    .use_after_free block ∉ request_setup n := by
  intro he
  rcases mem_request_setup he with ⟨_, h⟩ | ⟨_, h⟩ | h | ⟨_, -, hfreed⟩
  · cases h
  · cases h
  · cases h
  · exact absurd (hn.symm.trans hfreed) Bool.false_ne_true

theorem attempt_events_alive (n : RequestNode) (block : RequestBlock) :
    .use_after_free block ∉ attempt_events n := by
  unfold attempt_events
  split
  · split <;> split <;> simp
  · simp

theorem request_cleanup_alive (hn : n.files_freed = false) (block : RequestBlock) :
    .use_after_free block ∉ request_cleanup n := by
  unfold request_cleanup
  rw [hn]
  split <;> simp

theorem request_finalise_alive (n : RequestNode) (response : Option (Option String))
    (block : RequestBlock) :
    .use_after_free block ∉ request_finalise cJSON_Parse client n response := by
  intro he
  rcases mem_request_finalise he with h | ⟨_, _, h⟩ | ⟨_, h, -⟩ <;> cases h

/-- What comes after the cleanup adds no part, reads nothing that is freed,
    and performs no transfer. -/
theorem finish_quiet {m : RequestNode} {rest : List RequestEvent}
    (hrest : rest = [] ∨ ∃ response, rest = request_finalise cJSON_Parse client m response) :
    rest.filter RequestEvent.is_part = [] ∧ (∀ block, .use_after_free block ∉ rest) ∧
      rest.any RequestEvent.performed = false := by
  rcases hrest with rfl | ⟨response, rfl⟩
  · exact ⟨rfl, fun _ => List.not_mem_nil, rfl⟩
  · exact ⟨request_finalise_parts m response, request_finalise_alive m response,
      request_finalise_performed m response⟩

/-- An execution adds one part for the JSON, and one for each file. -/
theorem request_t_pool_adds (t : Transfer) (hn : n.files ≠ []) :
    (request_t_pool cJSON_Parse client n t).events.filter RequestEvent.is_part =
      .part_json n.json :: n.files.map .part_file := by
  obtain ⟨-, rest, hevents, hrest⟩ := @request_t_pool_parts cJSON_Parse client n t
  rw [hevents, attempt_part, List.filter_append, List.filter_append, List.filter_append,
    (finish_quiet hrest).1, request_setup_parts hn, attempt_events_parts, request_cleanup_parts,
    List.append_nil, List.append_nil, List.append_nil]

/-- While the filenames are alive, an execution reads nothing that is
    freed. -/
theorem request_t_pool_alive (t : Transfer) (hfreed : n.files_freed = false)
    (block : RequestBlock) :
    .use_after_free block ∉ (request_t_pool cJSON_Parse client n t).events := by
  obtain ⟨-, rest, hevents, hrest⟩ := @request_t_pool_parts cJSON_Parse client n t
  have hfreed' := (@request_attempt_files cJSON_Parse n t).2.1.trans hfreed
  intro hmem
  rw [hevents, attempt_part] at hmem
  rcases List.mem_append.mp hmem with hmem | hrest'
  · rcases List.mem_append.mp hmem with hmem | hcleanup
    · rcases List.mem_append.mp hmem with hsetup | hattempt
      · exact request_setup_alive hfreed block hsetup
      · exact attempt_events_alive n block hattempt
    · exact request_cleanup_alive hfreed' block hcleanup
  · exact (finish_quiet hrest).2.1 block hrest'

/-- **The first attempt** has all it needs from the filenames. -/
theorem first_attempt_kept (t : Transfer) (hn : n.files ≠ []) (hfreed : n.files_freed = false) :
    FilesKept n.json n.files
      { node := (request_t_pool cJSON_Parse client n t).node, queued := none,
        done := [⟨n, t, request_t_pool cJSON_Parse client n t⟩] } := by
  obtain ⟨-, rest, hevents, hrest⟩ := @request_t_pool_parts cJSON_Parse client n t
  generalize (request_attempt cJSON_Parse n t).1 = m at hevents hrest
  have hrun : RetryRun.events
      { node := (request_t_pool cJSON_Parse client n t).node, queued := none,
        done := [⟨n, t, request_t_pool cJSON_Parse client n t⟩] } =
      (request_t_pool cJSON_Parse client n t).events := List.flatMap_singleton _ _
  have hsplit : (request_t_pool cJSON_Parse client n t).events =
      (request_setup n ++ attempt_events n) ++ (request_cleanup m ++ rest) := by
    rw [hevents, attempt_part, List.append_assoc]
  -- the filenames are freed after this attempt only
  have hfree : ∀ block ∈ file_blocks n.files,
      free_count (request_setup n ++ attempt_events n) block = 0 := by
    intro block _
    rw [free_count_append, free_count, request_setup_freed, free_count, attempt_events_freed]
    rfl
  refine ⟨?_, ?_, _, _, hrun.trans hsplit, ?_, ?_⟩
  · intro x hx _
    rw [List.mem_singleton.mp hx]
    exact request_t_pool_adds t hn
  · intro block
    rw [hrun]
    exact request_t_pool_alive t hfreed block
  · intro e he
    rw [Bool.eq_false_iff]
    rcases List.mem_append.mp he with hcleanup | hend
    · exact List.any_eq_false.mp (request_cleanup_performed m) e hcleanup
    · exact List.any_eq_false.mp (finish_quiet hrest).2.2 e hend
  · intro block hblock
    refine ⟨hfree block hblock, ?_⟩
    have hall := @request_t_pool_freed cJSON_Parse client _ t hn _ hblock
    rw [hsplit, free_count_append, hfree block hblock, Nat.zero_add] at hall
    exact hall

end attempt

/-- **Attachments**: in no run with an attempt does a request with files find
    its list heads set. The filenames are kept exactly when the first outcome
    is not one that is retried. -/
theorem attachments_never_survive (cJSON_Parse : Option String → Option CJson) (client : Client)
    (url : String) (content : Option String) (request_type : RequestType) (token : String)
    (rc : Option CallbackType) (files : List String) (hfiles : files ≠ []) (t : Transfer)
    (ts : List Transfer) (s : RetryRun)
    (hrun : (retry_system cJSON_Parse client (request url content request_type token rc files)).Run
      (t :: ts) s) :
    ¬ AttachmentsSurvive content files s ∧
      (FilesKept content files s ↔ next_iteration cJSON_Parse 0 t = none) := by
  obtain ⟨hinv, hlength⟩ := FilesInv.run hfiles hrun
  have hdone : s.done ≠ [] := by
    intro h
    rw [h] at hlength
    cases hlength
  refine ⟨fun h => h.heads (hinv.heads hdone), ?_⟩
  have hqueued := @queued_eq_none_iff cJSON_Parse client
    (request url content request_type token rc files) t (Nat.zero_lt_succ 4)
  constructor
  · intro hkept
    obtain ⟨before, after, hevents, -, hcounts⟩ := hkept.released
    obtain ⟨hbefore, hafter⟩ := hcounts .files List.mem_cons_self
    -- the array is freed once in each execution
    have hcount := hinv.freed .files List.mem_cons_self
    rw [hevents, free_count_append, hbefore, hafter, hlength, List.length_cons] at hcount
    cases hq : s.queued with
    | some w =>
      rw [hq] at hcount
      simp at hcount
    | none =>
      rw [hq] at hcount
      obtain rfl : ts = [] := by simpa using hcount
      obtain ⟨s₀, hinit, hstep⟩ := (@System.run_snoc _ _ _ [] _ _).mp hrun
      rw [show s₀ = _ from System.run_nil.mp hinit] at hstep
      obtain ⟨w, -, rfl⟩ := Option.map_eq_some_iff.mp hstep
      exact hqueued.mp hq
  · intro hnext
    obtain ⟨rfl, rfl⟩ := run_of_not_queued hrun (hqueued.mpr hnext)
    exact first_attempt_kept (n := request url content request_type token rc files) t hfiles rfl

/-- One file, and an answer at the first attempt. -/
theorem attachments_never_survive_first :
    ∃ s, (retry_system no_document (.init 10 10 10)
        (request "u" (some "j") .REQUEST_POST "t" none ["a.png"])).Run [answered 200 none] s ∧
      ¬ AttachmentsSurvive (some "j") ["a.png"] s ∧
      (FilesKept (some "j") ["a.png"] s ↔
        next_iteration no_document 0 (answered 200 none) = none) := by
  have hrun : ∃ s, (retry_system no_document (.init 10 10 10)
      (request "u" (some "j") .REQUEST_POST "t" none ["a.png"])).Run [answered 200 none] s :=
    ⟨_, System.run_ofFn_iff.mpr rfl⟩
  obtain ⟨s, hs⟩ := hrun
  exact ⟨s, hs, attachments_never_survive no_document (.init 10 10 10) "u" (some "j") .REQUEST_POST
    "t" none ["a.png"] (List.cons_ne_nil _ _) (answered 200 none) [] s hs⟩

/-- One file, and an answer at the second attempt: the body is built from
    filenames that have been freed, and they are freed again. -/
theorem attachments_retried :
    ∃ s, (retry_system no_document (.init 10 10 10)
        (request "u" (some "j") .REQUEST_POST "t" none ["a.png"])).Run
          [answered 503 none, answered 200 none] s ∧
      .use_after_free (.file 0) ∈ s.events ∧ free_count s.events (.file 0) = 2 ∧
      ¬ AttachmentsSurvive (some "j") ["a.png"] s := by
  refine ⟨_, System.run_ofFn_iff.mpr rfl, ?_, ?_, ?_⟩
  · exact List.mem_iff_getElem?.mpr ⟨8, rfl⟩
  · rfl
  · intro h
    exact h.heads (List.mem_iff_getElem?.mpr ⟨1, rfl⟩)

end DiscoC
