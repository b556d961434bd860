import DiscoC.Framework.Fallible
import DiscoC.Web.Request

/-! # Multipart bodies

  Model of the body that `d_curl_setup_discord_header_files` of
  `web/request.c` builds for a request with files, part by part. What
  `malloc` leaves in the slots of `attachments_l` is a parameter: `none` for
  the null pointer, an address for anything else.
-/

namespace DiscoC

/-- A part of a multipart body. -/
inductive MimePart where
  | payload_json (data : String)
  /-- the header `Content-Disposition`, and the file the data is read from -/
  | file (disposition filedata : String)
  deriving DecidableEq, Repr

/-- The header and the parts of a request with files. -/
structure MultipartBody where
  headers : List String
  parts : List MimePart
  deriving DecidableEq, Repr

/-- The header of the `i`-th file. -/
def disposition (i : Nat) (file : String) : String :=
  "Content-Disposition: form-data; name=\"files[" ++ i.repr ++ "]\"; filename=\"" ++ file ++ "\""

/-- The `i`-th file, whose header is appended to what the slot holds. -/
def file_part (attachments_l : Nat → Option Nat) (file : String) (i : Nat) : Option MimePart :=
  match attachments_l i with
  | some _ => none
  | none => (sprintf 200 (disposition i file)).map fun header => .file header file

/-- `d_curl_setup_discord_header_files`. The body is cut off after 20000
    bytes. -/
def multipart_body (attachments_l : Nat → Option Nat) (n : RequestNode) : Option MultipartBody := do
  let authorizationHeader ← sprintf 100 ("Authorization: Bot " ++ n.token)
  let json ← n.json
  let files ← n.files.zipIdx.mapM fun (file, i) => file_part attachments_l file i
  some {
    headers :=
      [authorizationHeader, "Accept: application/json", "Content-Type: multipart/form-data",
        "User-Agent: DiscordBot (v0.0.1)"]
    parts := .payload_json (strndup json 20000) :: files }

/-- The parts of a request, which has none if it has no files. -/
def request_parts (attachments_l : Nat → Option Nat) (n : RequestNode) : Option (List MimePart) :=
  if n.files.length = 0 then some [] else (multipart_body attachments_l n).map MultipartBody.parts

/-- The file a part is read from. -/
def MimePart.filedata : MimePart → Option String
  | .payload_json _ => none
  | .file _ filedata => some filedata

/-- The file a part that is added is read from. -/
def RequestEvent.filedata : RequestEvent → Option String
  | .part_file filename => some filename
  | _ => none

/-! ### What the parts are -/

theorem file_part_eq_some_iff {attachments_l : Nat → Option Nat} {file : String} {i : Nat}
    {part : MimePart} :
    file_part attachments_l file i = some part ↔
      attachments_l i = none ∧ (disposition i file).toList.length < 200 ∧
        part = .file (disposition i file) file := by
  unfold file_part
  cases attachments_l i with
  | some address => simp
  | none =>
    by_cases h : (disposition i file).toList.length < 200
    · simp [sprintf, h, eq_comm]
    · simp [sprintf, h]

/-- The slot of each file is null, and its header fits into
    `char disposition[200]`. -/
def FilesFit (attachments_l : Nat → Option Nat) (files : List String) : Prop :=
  ∀ p ∈ files.zipIdx, attachments_l p.2 = none ∧ (disposition p.2 p.1).toList.length < 200

theorem file_parts_isSome_iff (attachments_l : Nat → Option Nat) (files : List String) :
    (files.zipIdx.mapM fun (file, i) => file_part attachments_l file i).isSome = true ↔
      FilesFit attachments_l files := by
  refine mapM_isSome_iff.trans (forall₂_congr fun p _ => ?_)
  simp [Option.isSome_iff_exists, file_part_eq_some_iff]

theorem file_parts_eq {attachments_l : Nat → Option Nat} {files : List String}
    {parts : List MimePart}
    (h : (files.zipIdx.mapM fun (file, i) => file_part attachments_l file i) = some parts) :
    parts = files.zipIdx.map fun (file, i) => .file (disposition i file) file := by
  have hread : ∀ (p : String × Nat) part, file_part attachments_l p.1 p.2 = some part →
      id part = MimePart.file (disposition p.2 p.1) p.1 :=
    fun p part hp => (file_part_eq_some_iff.mp hp).2.2
  rw [← map_of_mapM hread h, List.map_id]

theorem multipart_body_isSome_iff (attachments_l : Nat → Option Nat) (n : RequestNode) :
    (multipart_body attachments_l n).isSome = true ↔
      (sprintf 100 ("Authorization: Bot " ++ n.token)).isSome = true ∧ n.json.isSome = true ∧
        FilesFit attachments_l n.files := by
  rw [← file_parts_isSome_iff, multipart_body]
  cases sprintf 100 ("Authorization: Bot " ++ n.token) with
  | none => simp
  | some header =>
    cases n.json with
    | none => simp
    | some json =>
      cases hparts : n.files.zipIdx.mapM fun (file, i) => file_part attachments_l file i <;> simp

/-- The part of the `i`-th file comes after those before it and the JSON. -/
theorem request_parts_getElem? {attachments_l : Nat → Option Nat} {n : RequestNode}
    {parts : List MimePart} (h : request_parts attachments_l n = some parts)
    {i : Nat} {file : String} (hfile : n.files[i]? = some file) :
    parts[i + 1]? = some (.file (disposition i file) file) := by
  -- a file means that the request has a multipart body
  unfold request_parts at h
  split at h
  next hnil =>
    rw [List.length_eq_zero_iff.mp hnil] at hfile
    cases hfile
  next =>
    obtain ⟨b, hb, rfl⟩ := Option.map_eq_some_iff.mp h
    obtain ⟨header, -, hb⟩ := Option.bind_eq_some_iff.mp hb
    obtain ⟨json, -, hb⟩ := Option.bind_eq_some_iff.mp hb
    obtain ⟨files, hfiles, hb⟩ := Option.bind_eq_some_iff.mp hb
    cases hb
    rw [file_parts_eq hfiles, List.getElem?_cons_succ, List.getElem?_map, List.getElem?_zipIdx,
      hfile]
    simp

/-- The files of the parts are those whose parts `request_t_pool` adds. -/
theorem multipart_body_files {attachments_l : Nat → Option Nat} {n : RequestNode}
    {b : MultipartBody} (h : multipart_body attachments_l n = some b) :
    b.parts.filterMap MimePart.filedata =
      (d_curl_setup_discord_header_files n).filterMap RequestEvent.filedata := by
  obtain ⟨header, -, h⟩ := Option.bind_eq_some_iff.mp h
  obtain ⟨json, -, h⟩ := Option.bind_eq_some_iff.mp h
  obtain ⟨files, hfiles, h⟩ := Option.bind_eq_some_iff.mp h
  cases h
  rw [file_parts_eq hfiles]
  unfold d_curl_setup_discord_header_files
  rw [List.filterMap_cons_none rfl, List.filterMap_cons_none rfl]
  -- reading a file adds no part of its own
  have hread (i : Nat) : (read_file n i).filterMap RequestEvent.filedata = [] := by
    unfold read_file
    split <;> rfl
  induction n.files.zipIdx with
  | nil => rfl
  | cons p l ih =>
    rw [List.flatMap_cons, List.filterMap_append, List.filterMap_append, hread, ← ih]
    rfl

end DiscoC
