import DiscoC.Framework.Copying
import DiscoC.Discord.Channel
import DiscoC.Discord.EmbedJson

/-! # Copies of users, members, attachments and channels

  A copy should be structurally equal to what was decoded. It is when every
  string is short enough for the routine that copies it, with two
  exceptions: the user of a member is not copied with it, and the icon of a
  channel becomes its topic.

  Two structures are structurally equal when they are the same without
  their addresses. So each type has an image `plain` without addresses, and
  `Mem.Keeps` says when a copy has the same image.
-/

namespace DiscoC

open Mem

/-! ### Strings and arrays -/

/-- A text field of a document has at most `n` bytes. -/
def text_fits (data : CJson) (name : String) (n : Nat) : Prop :=
  ∀ s, cJSON_IsString (cJSON_GetObjectItem data name) = some s → s.toList.length ≤ n

/-- An array without its address. -/
def CArray.plain {α β : Type} (g : α → β) : CArray α → CArray β
  | .null => .null
  | .block _ items => .block 0 (items.map g)

/-- A string is copied up to a bound. -/
theorem copy_string_keeps (s : Option CStr) (n : Nat) :
    (copy_string s n).Keeps (Option.map CStr.plain) (s.map CStr.plain)
      (∀ c, s = some c → c.bytes.toList.length ≤ n) := by
  refine Keeps.unless_null fun c _ => ?_
  refine Keeps.skip (Returns.alloc _) fun address => (Keeps.pure _).congr ?_
  rw [CStr.plain, CStr.plain, CStr.mk.injEq, and_iff_right rfl]
  exact ⟨length_le_of_strndup, strndup_of_length_le⟩

/-- A decoded string is copied when the text fits. A bound below the one of
    the decoder is that of the copy. -/
theorem text_keeps {data : CJson} {name : String} {s : Option CStr}
    (h : s.map CStr.plain = json_text data name) {n : Nat} (hn : n ≤ 4096) :
    (copy_string s n).Keeps (Option.map CStr.plain) (s.map CStr.plain) (text_fits data name n) := by
  refine (copy_string_keeps s n).congr ?_
  unfold text_fits
  unfold json_text at h
  cases hs : cJSON_IsString (cJSON_GetObjectItem data name) with
  | none =>
    rw [hs, Option.map_none, Option.map_eq_none_iff] at h
    rw [h]
    simp
  | some t =>
    rw [hs, Option.map_some] at h
    obtain ⟨c, rfl, hc⟩ := Option.map_eq_some_iff.mp h
    have hbytes : c.bytes = strndup t 4097 := congrArg CStr.bytes hc
    simp only [Option.some.injEq, forall_eq', hbytes, strndup, String.toList_ofList,
      List.length_take]
    omega

/-- A decoded array is related to the items of its document. -/
theorem array_ensures {α : Type} {tmp : Option CJson} {R : CJson → α → Prop}
    {func : (cur : CJson) → cur ∈ cJSON_ArrayItems tmp → CMem α}
    (hf : ∀ c hc, (func c hc).Ensures (R c)) :
    (array_from_items tmp func).Ensures fun a => List.Forall₂ R (cJSON_ArrayItems tmp) a.items := by
  unfold array_from_items
  split
  next hsize =>
    refine Ensures.pure ?_
    rw [cJSON_ArrayItems_of_size hsize]
    exact .nil
  next => exact Ensures.skip fun address => (Ensures.each hf).bind fun items h => Ensures.pure h

/-- An array is copied when each of its items is. -/
theorem copy_array_keeps {α β γ δ : Type} {array : CArray α} {z : α → CMem β} {g : β → γ}
    {h : α → γ} {js : List δ} {R : δ → α → Prop} {E : δ → Prop}
    (hR : List.Forall₂ R js array.items) (hf : ∀ j a, R j a → (z a).Keeps g (h a) (E j)) :
    (copy_array array fun a _ => z a).Keeps (CArray.plain g) (array.plain h) (∀ j ∈ js, E j) := by
  cases array with
  | null =>
    obtain rfl : js = [] := List.forall₂_nil_right_iff.mp hR
    exact (Keeps.pure _).congr (by simp [CArray.plain])
  | block address items =>
    refine Keeps.skip (Returns.alloc _) fun address => ?_
    refine (Keeps.each₂ hf hR).map fun items => ?_
    rw [CArray.plain, CArray.plain, CArray.block.injEq, and_iff_right rfl]
    rfl

/-! ### Users -/

def User.plain (user : User) : User :=
  { user with
    address := 0
    username := user.username.map CStr.plain
    discriminator := user.discriminator.map CStr.plain
    avatar := user.avatar.map CStr.plain
    banner := user.banner.map CStr.plain
    locale := user.locale.map CStr.plain
    email := user.email.map CStr.plain }

/-- The texts of a user fit the bounds of `_d_copy_user`. -/
def user_fits (data : CJson) : Prop :=
  text_fits data "username" 50 ∧ text_fits data "discriminator" 5 ∧ text_fits data "avatar" 100 ∧
    text_fits data "banner" 100 ∧ text_fits data "locale" 10 ∧ text_fits data "email" 100

/-- A copy of `user` is structurally equal to it exactly when its document
    fits. -/
def UserKept (data : CJson) (user : User) : Prop :=
  (_d_copy_user user).Keeps User.plain user.plain (user_fits data)

theorem text_ensures (data : CJson) (name : String) :
    (_d_get_string_from_json data name).Ensures fun s => s.map CStr.plain = json_text data name :=
  .of_spec (get_string_yields data name) fun _ _ h => h

theorem user_ensures (data : CJson) : (_d_json_to_user data).Ensures (UserKept data) := by
  unfold _d_json_to_user
  refine Ensures.skip fun address => ?_
  refine (text_ensures data "username").bind fun username husername => ?_
  refine (text_ensures data "discriminator").bind fun discriminator hdiscriminator => ?_
  refine (text_ensures data "avatar").bind fun avatar havatar => ?_
  refine (text_ensures data "banner").bind fun banner hbanner => ?_
  refine (text_ensures data "locale").bind fun locale hlocale => ?_
  refine (text_ensures data "email").bind fun email hemail => Ensures.pure ?_
  -- the copy goes through the texts in the same order
  refine Keeps.copying fun address => Keeps.start ?_
  refine (text_keeps husername (by decide)).bind fun _ => ?_
  refine (text_keeps hdiscriminator (by decide)).bind fun _ => ?_
  refine (text_keeps havatar (by decide)).bind fun _ => ?_
  refine (text_keeps hbanner (by decide)).bind fun _ => ?_
  refine (text_keeps hlocale (by decide)).bind fun _ => ?_
  refine (text_keeps hemail (by decide)).last fun _ => Keeps.ret ?_
  simp [User.plain, and_assoc]

/-! ### Members -/

def Member.plain (member : Member) : Member :=
  { member with
    address := 0
    user := member.user.map User.plain
    nick := member.nick.map CStr.plain
    avatar := member.avatar.map CStr.plain
    roles := member.roles.plain id
    joined_at := member.joined_at.map CStr.plain
    premium_since := member.premium_since.map CStr.plain
    permissions := member.permissions.map CStr.plain
    communication_disabled_until := member.communication_disabled_until.map CStr.plain }

/-- The texts of a member fit the bounds of `_d_copy_member`. -/
def member_fits (data : CJson) : Prop :=
  text_fits data "nick" 50 ∧ text_fits data "avatar" 100 ∧ text_fits data "joined_at" 50 ∧
    text_fits data "premium_since" 50 ∧ text_fits data "permissions" 50 ∧
    text_fits data "communication_disabled_until" 50

/-- A copy of `member` is structurally equal to it exactly when its document
    fits, and the user the copy is given is the one it has. The member has
    the user it was decoded with, or one of its own. -/
structure MemberKept (data : CJson) (user : Option User) (member : Member) : Prop where
  keeps : ∀ copy : Option User, (_d_copy_member member copy).Keeps Member.plain member.plain
    (copy.map User.plain = member.user.map User.plain ∧ member_fits data)
  given : user ≠ none → member.user = user
  own : user = none → (member.user = none ↔ cJSON_GetObjectItem data "user" = none)

theorem copy_ids_keeps (ids : CArray UInt64) :
    (copy_array ids fun id _ => pure id).Keeps (CArray.plain id) (ids.plain id) True := by
  refine (copy_array_keeps (R := fun _ _ => True) (E := fun _ => True)
    (List.forall₂_same.mpr fun _ _ => trivial) fun _ a _ => ?_).congr ?_
  · exact (Keeps.pure a).congr (iff_of_true rfl trivial)
  · simp

theorem member_user_ensures (data : CJson) (user : Option User) :
    (member_user data user).Ensures fun u =>
      (user ≠ none → u = user) ∧
        (user = none → (u = none ↔ cJSON_GetObjectItem data "user" = none)) := by
  cases user with
  | some user => exact Ensures.pure ⟨fun _ => rfl, fun h => nomatch h⟩
  | none =>
    refine Ensures.unless_null (fun h => ?_) fun c h => ?_
    · exact ⟨fun hne => absurd rfl hne, fun _ => iff_of_true rfl h⟩
    · refine (Ensures.any _).mono fun u _ => ⟨fun hne => absurd rfl hne, fun _ => ?_⟩
      rw [h]
      exact iff_of_false (Option.some_ne_none u) (Option.some_ne_none c)

theorem member_ensures (data : CJson) (user : Option User) :
    (_d_json_to_member data user).Ensures (MemberKept data user) := by
  unfold _d_json_to_member
  refine Ensures.skip fun address => ?_
  refine (member_user_ensures data user).bind fun u hu => ?_
  refine (text_ensures data "nick").bind fun nick hnick => ?_
  refine (text_ensures data "avatar").bind fun avatar havatar => ?_
  refine Ensures.skip fun roles => ?_
  refine (text_ensures data "joined_at").bind fun joined_at hjoined => ?_
  refine (text_ensures data "premium_since").bind fun premium_since hpremium => ?_
  refine (text_ensures data "permissions").bind fun permissions hpermissions => ?_
  refine (text_ensures data "communication_disabled_until").bind fun until_ huntil => ?_
  refine Ensures.pure ⟨fun copy => ?_, hu.1, hu.2⟩
  -- the user is not copied but given
  refine Keeps.copying fun address => ?_
  refine (text_keeps hnick (by decide)).bind fun _ => ?_
  refine (text_keeps havatar (by decide)).bind fun _ => ?_
  refine (copy_ids_keeps _).bind_all fun _ => ?_
  refine (text_keeps hjoined (by decide)).bind fun _ => ?_
  refine (text_keeps hpremium (by decide)).bind fun _ => ?_
  refine (text_keeps hpermissions (by decide)).bind fun _ => ?_
  refine (text_keeps huntil (by decide)).last fun _ => Keeps.ret ?_
  simp [Member.plain, and_assoc]

/-! ### Users with a member -/

/-- A user and a member that are decoded together. -/
structure AuthorKept (tmp_user tmp_member : Option CJson) (user : Option User)
    (member : Option Member) : Prop where
  user_kept : Option.Rel UserKept tmp_user user
  member_kept : Option.Rel (fun c => MemberKept c user) tmp_member member

/-- The texts of both fit, and the member has no user of its own, which a
    copy would go without. -/
def author_fits (tmp_user tmp_member : Option CJson) : Prop :=
  (∀ c, tmp_user = some c → user_fits c) ∧
    (tmp_user = none → ∀ c, tmp_member = some c → cJSON_GetObjectItem c "user" = none) ∧
    ∀ c, tmp_member = some c → member_fits c

/-- Decoding a user and a member, with what comes after. -/
theorem author_ensures {β : Type} {tmp_user tmp_member : Option CJson}
    {f : Option User → Option Member → CMem β} {Q : β → Prop}
    (hf : ∀ user member, AuthorKept tmp_user tmp_member user member → (f user member).Ensures Q) :
    (do
      let user ← Mem.unless_null tmp_user fun c _ => _d_json_to_user c
      let member ← Mem.unless_null tmp_member fun c _ => _d_json_to_member c user
      f user member : CMem β).Ensures Q := by
  refine (Ensures.pointer fun c _ => user_ensures c).bind fun user huser => ?_
  refine (Ensures.pointer fun c _ => member_ensures c user).bind fun member hmember => ?_
  exact hf user member ⟨huser, hmember⟩

/-- The copy of a member is given the copy of the user, so that it is the same
    only if the member has no other. -/
theorem member_pointer_keeps {tmp_user tmp_member : Option CJson} {user copy : Option User}
    {member : Option Member} (h : AuthorKept tmp_user tmp_member user member)
    (hcopy : copy.map User.plain = user.map User.plain) :
    (Mem.unless_null member fun member _ => _d_copy_member member copy).Keeps
      (Option.map Member.plain) (member.map Member.plain)
      ((tmp_user = none → ∀ c, tmp_member = some c → cJSON_GetObjectItem c "user" = none) ∧
        ∀ c, tmp_member = some c → member_fits c) := by
  refine (Keeps.unless_null₂ (E := fun c : CJson =>
    (tmp_user = none → cJSON_GetObjectItem c "user" = none) ∧ member_fits c) ?_
      h.member_kept).congr ?_
  · intro c m hm
    refine (hm.keeps copy).congr (and_congr_left fun _ => ?_)
    rw [hcopy]
    cases h.user_kept with
    | none =>
      -- there is no user to give, and the member may have its own
      rw [Option.map_none, eq_comm, Option.map_eq_none_iff, hm.own rfl]
      exact (imp_iff_right rfl).symm
    | some _ =>
      rw [hm.given (Option.some_ne_none _)]
      exact iff_of_true rfl fun hnone => nomatch hnone
  · constructor
    · exact fun hall => ⟨fun hnone c hc => (hall c hc).1 hnone, fun c hc => (hall c hc).2⟩
    · exact fun hall c hc => ⟨fun hnone => hall.1 hnone c hc, hall.2 c hc⟩

/-- Copying a user and a member, with what comes after. -/
theorem author_keeps {β γ : Type} {tmp_user tmp_member : Option CJson} {user : Option User}
    {member : Option Member} (h : AuthorKept tmp_user tmp_member user member)
    {f : Option User → Option Member → CMem β} {g : β → γ} {c : γ} {K E : Prop}
    (hf : ∀ user' member', (f user' member').Keeps g c
      (((K ∧ user'.map User.plain = user.map User.plain) ∧
        member'.map Member.plain = member.map Member.plain) ∧ E)) :
    (do
      let user ← Mem.unless_null user fun user _ => _d_copy_user user
      let member ← Mem.unless_null member fun member _ => _d_copy_member member user
      f user member : CMem β).Keeps g c (K ∧ author_fits tmp_user tmp_member ∧ E) := by
  have huser := Keeps.unless_null₂ (fun _ _ huser => huser) h.user_kept
  -- that the user is the same is what the copy of the member relies on
  refine Keeps.congr (huser.bind fun copy =>
    Keeps.bind_of (fun hK => member_pointer_keeps h hK.2) fun member' => hf copy member') ?_
  simp only [author_fits, and_assoc]

/-! ### Attachments -/

def Attachment.plain (attachment : Attachment) : Attachment :=
  { attachment with
    address := 0
    filename := attachment.filename.map CStr.plain
    description := attachment.description.map CStr.plain
    content_type := attachment.content_type.map CStr.plain
    url := attachment.url.map CStr.plain
    proxy_url := attachment.proxy_url.map CStr.plain }

/-- The texts of an attachment fit the bounds of `_d_copy_attachment`. -/
def attachment_fits (data : CJson) : Prop :=
  text_fits data "filename" 100 ∧ text_fits data "description" 1025 ∧
    text_fits data "content_type" 50 ∧ text_fits data "url" 2048 ∧ text_fits data "proxy_url" 2048

theorem attachment_ensures (data : CJson) :
    (_d_json_to_attachment data).Ensures fun a =>
      (_d_copy_attachment a).Keeps Attachment.plain a.plain (attachment_fits data) := by
  unfold _d_json_to_attachment
  refine Ensures.skip fun address => ?_
  refine (text_ensures data "filename").bind fun filename hfilename => ?_
  refine (text_ensures data "description").bind fun description hdescription => ?_
  refine (text_ensures data "content_type").bind fun content_type hcontent_type => ?_
  refine (text_ensures data "url").bind fun url hurl => ?_
  refine (text_ensures data "proxy_url").bind fun proxy_url hproxy_url => Ensures.pure ?_
  refine Keeps.copying fun address => Keeps.start ?_
  refine (text_keeps hfilename (by decide)).bind fun _ => ?_
  refine (text_keeps hdescription (by decide)).bind fun _ => ?_
  refine (text_keeps hcontent_type (by decide)).bind fun _ => ?_
  refine (text_keeps hurl (by decide)).bind fun _ => ?_
  refine (text_keeps hproxy_url (by decide)).last fun _ => Keeps.ret ?_
  simp [Attachment.plain, and_assoc]

end DiscoC
