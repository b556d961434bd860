import DiscoC.Web.Multipart
import DiscoC.Discord.ApiQueue

/-! # The two bodies of a message with attachments

  A message with attachments is sent as JSON, which lists them, and as parts
  of a multipart body, one for each file. The two are built apart from each
  other from the same list. They agree under conditions on the arguments,
  which differ between sending, editing and replying (`bodiesAgree_iff`).
-/

namespace DiscoC

/-! ### Calls -/

/-- A call that sends a message or the reply to an interaction. -/
inductive MessageCall where
  | send (bot : BotClient) (content : Option String) (channel_id : UInt64)
      (message : Option CreateMessage) (cb : Bool)
  | edit (bot : BotClient) (content : Option String) (channel_id message_id : UInt64)
      (message : Option CreateMessage)
  | reply (bot : BotClient) (cb : InteractionCallback) (recv : Interaction)

/-- The attachments of a reply. -/
def InteractionCallback.attachments : InteractionCallback → List Attachment
  | .message _ data => data.attachments
  | _ => []

/-- The entries of `attachments`: id and filename. -/
def attachment_entries (json : Option CJson) : List (Int × Option CStr) :=
  (cJSON_ArrayItems (cJSON_GetObjectItem json "attachments")).map fun entry =>
    ((read_attachment entry).1, (read_attachment entry).2.2)

namespace MessageCall

def call : MessageCall → ApiCall
  | .send bot content channel_id message cb => .send_message bot content channel_id message cb
  | .edit bot content channel_id message_id message =>
    .edit_message bot content channel_id message_id message
  | .reply bot cb recv => .send_interaction bot cb recv

def attachments : MessageCall → List Attachment
  | .send _ _ _ message _ | .edit _ _ _ _ message => message_attachments message
  | .reply _ cb _ => cb.attachments

/-- The attachments that the JSON body lists. -/
def entries (c : MessageCall) (json : CJson) : List (Int × Option CStr) :=
  match c with
  | .send .. | .edit .. => attachment_entries json
  | .reply .. => attachment_entries (cJSON_GetObjectItem json "data")

end MessageCall

/-- The entries of the JSON and the parts of the multipart body agree: each
    attachment has the part `files[i]` with its filename, the entry with the
    id `i` lists that filename, and there are no other entries. -/
structure BodiesAgree (attachments : List Attachment) (entries : List (Int × Option CStr))
    (node : RequestNode) (parts : List MimePart) : Prop where
  files_n : node.files.length = attachments.length
  part : ∀ (i : Nat) a, attachments[i]? = some a →
    ∃ filename, a.filename.map CStr.bytes = some filename ∧
      parts[i + 1]? = some (.file (disposition i filename) filename) ∧
      ∀ name, ((i : Int), name) ∈ entries ↔ name = some ⟨0, filename⟩
  entry : ∀ e ∈ entries, ∃ i : Nat, e.1 = i ∧ i < attachments.length

/-- The call makes a request, and its two bodies agree. -/
def MessageCall.BodiesAgree (c : MessageCall) (cJSON_Print : CJson → String)
    (attachments_l : Nat → Option Nat) : Prop :=
  ∃ json node parts, c.call.body = some (some json) ∧ c.call.run cJSON_Print = some [node] ∧
    node.json = some (cJSON_Print json) ∧ request_parts attachments_l node = some parts ∧
    DiscoC.BodiesAgree c.attachments (c.entries json) node parts

/-- The token fits into `char authorizationHeader[100]`. -/
def TokenFits (token : String) : Prop := token.toList.length ≤ 80

/-- The slot of each attachment is null, and its index and its filename fit
    into `char disposition[200]`. -/
def PartsFit (attachments_l : Nat → Option Nat) (attachments : List Attachment) : Prop :=
  ∀ (i : Nat) a s, attachments[i]? = some a → a.filename = some s →
    attachments_l i = none ∧ i.repr.toList.length + s.bytes.toList.length ≤ 140

/-- The arguments for which the two bodies agree. -/
def MessageCall.Matching (attachments_l : Nat → Option Nat) : MessageCall → Prop
  | .send bot _ _ message _ => (∀ m, message = some m → m.Fits) ∧
    Filenames (message_attachments message) ∧ (message_attachments message ≠ [] →
      TokenFits bot.token ∧ PartsFit attachments_l (message_attachments message))
  | .edit _ _ _ _ message =>
    ∃ m, message = some m ∧ (∀ a ∈ m.allowed_mentions, a.Fits) ∧ m.attachments = []
  | .reply .. => False

/-! ### Filenames -/

theorem length_disposition (i : Nat) (file : String) :
    (disposition i file).toList.length = 59 + i.repr.toList.length + file.toList.length := by
  have hname : "Content-Disposition: form-data; name=\"files[".toList.length = 44 := by
    decide +kernel
  have hfilename : "]\"; filename=\"".toList.length = 14 := by decide +kernel
  have hend : "\"".toList.length = 1 := by decide
  have hlen : (disposition i file).toList.length = _ := length_append _ _
  rw [length_append, length_append, length_append, hname, hfilename, hend] at hlen
  omega

/-- A filename too long to be copied is too long for its header, copied or
    not. -/
theorem disposition_copy_fits_iff (i : Nat) (s : String) :
    (disposition i (strndup s 256)).toList.length < 200 ↔
      i.repr.toList.length + s.toList.length ≤ 140 := by
  have hcopy : (strndup s 256).toList.length = min 256 s.toList.length := by
    rw [strndup, String.toList_ofList, List.length_take]
  rw [length_disposition]
  omega

/-- With a filename that fits, the file of an attachment is its filename. -/
theorem file_eq_filename {attachments : List Attachment} {files : List String}
    (hfiles : copy_filenames attachments = some files) {i : Nat} {a : Attachment} {s : CStr}
    (ha : attachments[i]? = some a) (hs : a.filename = some s)
    (hfits : s.bytes.toList.length ≤ 256) : files[i]? = some s.bytes := by
  rw [getElem?_of_mapM hfiles i, ha, Option.bind_some, hs, Option.map_some,
    strndup_of_length_le hfits]

/-- The headers of the files fit exactly when those of the attachments do. -/
theorem filesFit_iff {attachments : List Attachment} {files : List String}
    (hfiles : copy_filenames attachments = some files) (attachments_l : Nat → Option Nat) :
    FilesFit attachments_l files ↔ PartsFit attachments_l attachments := by
  -- the i-th file is the name of the i-th attachment
  have hget := getElem?_of_mapM hfiles
  constructor
  · intro hfit i a s ha hs
    have hfile : files[i]? = some (strndup s.bytes 256) := by
      rw [hget i, ha, Option.bind_some, hs, Option.map_some]
    have hp := hfit (_, i) (List.mem_zipIdx_iff_getElem?.mpr hfile)
    exact ⟨hp.1, (disposition_copy_fits_iff i s.bytes).mp hp.2⟩
  · rintro hfit ⟨file, i⟩ hp
    have hfile : files[i]? = some file := List.mem_zipIdx_iff_getElem?.mp hp
    rw [hget i] at hfile
    obtain ⟨a, ha, hfile⟩ := Option.bind_eq_some_iff.mp hfile
    obtain ⟨s, hs, rfl⟩ := Option.map_eq_some_iff.mp hfile
    have hs := hfit i a s ha hs
    exact ⟨hs.1, (disposition_copy_fits_iff i s.bytes).mpr hs.2⟩

/-! ### Entries -/

/-- A message that is sent lists its attachments. -/
theorem send_entries {content : Option String} {message : Option CreateMessage}
    {json : List (String × Option CJson)}
    (h : _d_create_message_to_json [] content message = some json) :
    attachment_entries (cJSON_object json) =
      (message_attachments message).zipIdx.map fun (a, i) =>
        ((i : Int), a.filename.map CStr.plain) := by
  cases message with
  | none =>
    have hnone : cJSON_GetObjectItem (cJSON_object json) "attachments" = none := by
      have hne : CJson.fold_key "attachments" ≠ CJson.fold_key "content" := by decide
      rw [← Option.some.inj h]
      -- without a message the body has its content only
      refine getObjectItem_object_none fun member hm => ?_
      rw [List.mem_singleton.mp hm]
      exact hne
    rw [attachment_entries, hnone]
    rfl
  | some m =>
    have hread := congrArg MessageMeaning.attachments (read_message_create h)
    have hmap := congrArg (List.map fun e : Int × Option CStr × Option CStr => (e.1, e.2.2)) hread
    simp only [read_message, message_meaning, List.map_map] at hmap
    exact hmap

/-- A message that is edited lists no attachments. -/
theorem edit_entries {content : Option String} {m : CreateMessage}
    {json : List (String × Option CJson)} (h : edit_message_to_json content (some m) = some json) :
    attachment_entries (cJSON_object json) = [] := by
  obtain ⟨allowed_mentions, -, h⟩ := Option.bind_eq_some_iff.mp h
  have hnone : cJSON_GetObjectItem (cJSON_object json) "attachments" = none := by
    rw [← Option.some.inj h]
    refine getObjectItem_object_none fun member hm => ?_
    have hne : ∀ key ∈ ["content", "embeds", "allowed_mentions", "flags"],
        CJson.fold_key "attachments" ≠ CJson.fold_key key := by decide
    exact hne member.1 (List.mem_map_of_mem (f := Prod.fst) hm)
  rw [attachment_entries, hnone]
  rfl

theorem mem_zipIdx_entries_iff {attachments : List Attachment} {i : Nat} {name : Option CStr} :
    ((i : Int), name) ∈ (attachments.zipIdx.map fun (a, i) =>
        ((i : Int), a.filename.map CStr.plain)) ↔
      ∃ a, attachments[i]? = some a ∧ name = a.filename.map CStr.plain := by
  rw [List.mem_map]
  constructor
  · rintro ⟨⟨a, j⟩, hp, heq⟩
    obtain ⟨hj, rfl⟩ := Prod.mk.inj heq
    rw [← Int.ofNat.inj hj]
    exact ⟨a, List.mem_zipIdx_iff_getElem?.mp hp, rfl⟩
  · rintro ⟨a, ha, rfl⟩
    exact ⟨(a, i), List.mem_zipIdx_iff_getElem?.mpr ha, rfl⟩

/-! ### Parts -/

theorem authorization_fits_iff (token : String) :
    (sprintf 100 ("Authorization: Bot " ++ strndup token 200)).isSome = true ↔
      TokenFits token := by
  have hheader : "Authorization: Bot ".toList.length = 19 := by decide +kernel
  have hcopy : (strndup token 200).toList.length = min 200 token.toList.length := by
    rw [strndup, String.toList_ofList, List.length_take]
  rw [sprintf_isSome_iff, length_append, hheader, TokenFits]
  omega

/-- The parts can be built when the token and the headers of the files fit. -/
theorem request_parts_isSome_iff {attachments_l : Nat → Option Nat} {n : RequestNode}
    {json token : String} (hjson : n.json = some json) (htoken : n.token = strndup token 200) :
    (request_parts attachments_l n).isSome = true ↔
      (n.files ≠ [] → TokenFits token ∧ FilesFit attachments_l n.files) := by
  unfold request_parts
  split
  next h => exact iff_of_true rfl fun hne => absurd (List.length_eq_zero_iff.mp h) hne
  next h =>
    have hne : n.files ≠ [] := fun hnil => h (List.length_eq_zero_iff.mpr hnil)
    rw [Option.isSome_map, multipart_body_isSome_iff, hjson, htoken, authorization_fits_iff]
    simp [hne]

/-! ### Agreement -/

/-- Without attachments there is nothing to agree on. -/
theorem BodiesAgree.of_nil {node : RequestNode} {parts : List MimePart} (hfiles : node.files = []) :
    BodiesAgree [] [] node parts where
  files_n := List.length_eq_zero_iff.mpr hfiles
  part i a ha := by
    rw [List.getElem?_nil] at ha
    cases ha
  entry e he := absurd he List.not_mem_nil

/-- Attachments without entries do not agree with their parts. -/
theorem BodiesAgree.eq_nil {attachments : List Attachment} {node : RequestNode}
    {parts : List MimePart} (h : BodiesAgree attachments [] node parts) : attachments = [] := by
  cases attachments with
  | nil => rfl
  | cons a attachments =>
    obtain ⟨filename, -, -, hentry⟩ := h.part 0 a rfl
    exact nomatch (hentry (some ⟨0, filename⟩)).mpr rfl

/-- Attachments with filenames that fit agree with their parts. -/
theorem BodiesAgree.of_fits {attachments : List Attachment} {attachments_l : Nat → Option Nat}
    {node : RequestNode} {parts : List MimePart}
    (hfiles : copy_filenames attachments = some node.files) (hnames : Filenames attachments)
    (hfit : PartsFit attachments_l attachments)
    (hparts : request_parts attachments_l node = some parts) :
    BodiesAgree attachments
      (attachments.zipIdx.map fun (a, i) => ((i : Int), a.filename.map CStr.plain)) node parts where
  files_n := length_of_mapM hfiles
  part i a ha := by
    obtain ⟨s, hs⟩ := Option.isSome_iff_exists.mp (hnames a (List.mem_of_getElem? ha))
    -- a name that fits its part is not cut off by `strndup`
    have hlen : s.bytes.toList.length ≤ 256 := by
      have := (hfit i a s ha hs).2
      omega
    refine ⟨s.bytes, by rw [hs, Option.map_some],
      request_parts_getElem? hparts (file_eq_filename hfiles ha hs hlen), fun name => ?_⟩
    rw [mem_zipIdx_entries_iff, ha]
    simp [hs, CStr.plain]
  entry e he := by
    obtain ⟨⟨a, i⟩, hp, rfl⟩ := List.mem_map.mp he
    have ha := List.mem_zipIdx_iff_getElem?.mp hp
    exact ⟨i, rfl, (List.getElem?_eq_some_iff.mp ha).1⟩

namespace MessageCall

variable {cJSON_Print : CJson → String} {attachments_l : Nat → Option Nat} {c : MessageCall}

theorem not_bodiesAgree (h : c.call.run cJSON_Print = none) :
    ¬ c.BodiesAgree cJSON_Print attachments_l := by
  rintro ⟨json, node, parts, -, hrun, -⟩
  rw [h] at hrun
  cases hrun

/-- The bodies of a call that makes a request. -/
theorem bodiesAgree_iff_of_run {json : CJson} {node : RequestNode}
    (hbody : c.call.body = some (some json)) (hrun : c.call.run cJSON_Print = some [node])
    (hjson : node.json = some (cJSON_Print json)) :
    c.BodiesAgree cJSON_Print attachments_l ↔
      ∃ parts, request_parts attachments_l node = some parts ∧
        DiscoC.BodiesAgree c.attachments (c.entries json) node parts := by
  constructor
  · rintro ⟨json', node', parts, hbody', hrun', -, hparts, hagree⟩
    -- the body and the node are determined by the call
    rw [hbody] at hbody'
    rw [hrun] at hrun'
    cases hbody'
    cases hrun'
    exact ⟨parts, hparts, hagree⟩
  · rintro ⟨parts, hparts, hagree⟩
    exact ⟨json, node, parts, hbody, hrun, hjson, hparts, hagree⟩

theorem send_iff (bot : BotClient) (content : Option String) (channel_id : UInt64)
    (message : Option CreateMessage) (cb : Bool) :
    (send bot content channel_id message cb).BodiesAgree cJSON_Print attachments_l ↔
      (send bot content channel_id message cb).Matching attachments_l := by
  have hrun := @ApiCall.send_message_run cJSON_Print bot content channel_id message cb
  rw [Matching, ← ApiCall.create_message_to_json_isSome_iff content, ← ApiCall.filenames_iff]
  rcases bind_map_cases (_d_create_message_to_json [] content message)
    (copy_filenames (message_attachments message)) _ with
    ⟨hnone, hnot⟩ | ⟨json, files, hj, hf, hsome⟩
  · exact iff_of_false (not_bodiesAgree (hrun.trans hnone)) fun h => hnot ⟨h.1, h.2.1⟩
  · obtain ⟨node, hnode, hjson, htoken, rfl⟩ : ∃ node,
        (send bot content channel_id message cb).call.run cJSON_Print = some [node] ∧
          node.json = some (cJSON_Print (cJSON_object json)) ∧
          node.token = strndup bot.token 200 ∧ node.files = files :=
      ⟨_, hrun.trans hsome, rfl, rfl, rfl⟩
    have hbody : (send bot content channel_id message cb).call.body =
        some (some (cJSON_object json)) := by
      rw [call, ApiCall.body, hj]
      rfl
    have hparts : (request_parts attachments_l node).isSome = true ↔
        (message_attachments message ≠ [] →
          TokenFits bot.token ∧ PartsFit attachments_l (message_attachments message)) := by
      rw [request_parts_isSome_iff hjson htoken, filesFit_iff hf, ← List.length_pos_iff,
        ← List.length_pos_iff, length_of_mapM hf]
    rw [bodiesAgree_iff_of_run hbody hnode hjson, hj, hf]
    constructor
    · rintro ⟨parts, hbuilt, -⟩
      exact ⟨rfl, rfl, hparts.mp (Option.isSome_of_eq_some hbuilt)⟩
    · rintro ⟨-, -, hfit⟩
      -- the parts fit: with no attachment there are none
      obtain ⟨parts, hbuilt⟩ := Option.isSome_iff_exists.mp (hparts.mpr hfit)
      have hpartsfit : PartsFit attachments_l (message_attachments message) :=
        fun i a s ha => (hfit (List.ne_nil_of_mem (List.mem_of_getElem? ha))).2 i a s ha
      have hnames := (ApiCall.filenames_iff _).mp (Option.isSome_of_eq_some hf)
      have hagree := BodiesAgree.of_fits hf hnames hpartsfit hbuilt
      rw [← send_entries hj] at hagree
      exact ⟨parts, hbuilt, hagree⟩

theorem edit_iff (bot : BotClient) (content : Option String) (channel_id message_id : UInt64)
    (message : Option CreateMessage) :
    (edit bot content channel_id message_id message).BodiesAgree cJSON_Print attachments_l ↔
      (edit bot content channel_id message_id message).Matching attachments_l := by
  cases message with
  | none =>
    refine iff_of_false (not_bodiesAgree rfl) ?_
    rintro ⟨m, hm, -⟩
    cases hm
  | some m =>
    have hrun := @ApiCall.edit_message_run cJSON_Print bot content channel_id message_id m
    have hmatching : (edit bot content channel_id message_id (some m)).Matching attachments_l ↔
        (edit_message_to_json content (some m)).isSome = true ∧ m.attachments = [] := by
      rw [ApiCall.edit_message_to_json_isSome_iff, Matching]
      simp
    rw [hmatching]
    rcases bind_map_cases (edit_message_to_json content (some m)) (copy_filenames m.attachments) _
      with ⟨hnone, hnot⟩ | ⟨json, files, hj, hf, hsome⟩
    · -- nothing is sent: the JSON cannot be written, or a filename not be copied
      refine iff_of_false (not_bodiesAgree (hrun.trans hnone)) fun h => hnot ⟨h.1, ?_⟩
      rw [h.2]
      rfl
    · have hbody : (edit bot content channel_id message_id (some m)).call.body =
          some (some (cJSON_object json)) := by
        rw [call, ApiCall.body, hj]
        rfl
      have hentries : (edit bot content channel_id message_id (some m)).entries
          (cJSON_object json) = [] := edit_entries hj
      rw [bodiesAgree_iff_of_run hbody (hrun.trans hsome) rfl, hentries, hj]
      constructor
      · -- a part would have no entry
        rintro ⟨parts, -, hagree⟩
        exact ⟨rfl, hagree.eq_nil⟩
      · rintro ⟨-, hnil⟩
        obtain rfl : files = [] := by
          rw [hnil] at hf
          exact (Option.some.inj hf).symm
        have hattachments : (edit bot content channel_id message_id (some m)).attachments = [] :=
          hnil
        refine ⟨[], rfl, ?_⟩
        rw [hattachments]
        exact .of_nil rfl

end MessageCall

/-- **Two bodies of one message**: the JSON and the parts agree on the
    attachments exactly when the message is sent, and its token, slots and
    filenames are as they have to be, or when it is edited and has none. -/
theorem bodiesAgree_iff (cJSON_Print : CJson → String) (attachments_l : Nat → Option Nat)
    (c : MessageCall) : c.BodiesAgree cJSON_Print attachments_l ↔ c.Matching attachments_l := by
  cases c with
  | send bot content channel_id message cb => exact MessageCall.send_iff ..
  | edit bot content channel_id message_id message => exact MessageCall.edit_iff ..
  | reply bot cb recv =>
    exact iff_of_false (MessageCall.not_bodiesAgree (ApiCall.run_without_bot rfl)) not_false

/-- A file to be uploaded. -/
def photo : Attachment where
  address := 1
  id := 0
  filename := some ⟨2, "photo.png"⟩
  description := none
  content_type := none
  size := 0
  url := none
  proxy_url := none
  height := 0
  width := 0
  ephemeral := false

/-- A message with one attachment. -/
def photo_message : CreateMessage where
  tts := false
  embed := none
  embeds := []
  allowed_mentions := none
  message_reference := none
  sticker_ids := []
  attachments := [photo]
  flags := 0

/-- Its file is uploaded when it is edited, but not listed. -/
theorem photo_not_listed : ¬ ∃ (cJSON_Print : CJson → String) (attachments_l : Nat → Option Nat),
    (MessageCall.edit ⟨"token"⟩ none 1 2 (some photo_message)).BodiesAgree cJSON_Print
      attachments_l := by
  rintro ⟨cJSON_Print, attachments_l, h⟩
  obtain ⟨m, hm, -, hnil⟩ := (MessageCall.edit_iff ..).mp h
  cases hm
  cases hnil

end DiscoC
