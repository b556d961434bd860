import DiscoC.Discord.EventRead
import DiscoC.Discord.RecordCopying

/-! # Copies of channels

  A copy of a channel should be structurally equal to the channel and share
  no string with it, so that both can be destroyed.

  `_d_copy_channel` stores the copy of the icon as the topic, and the icon
  itself in the copy. So a channel with an icon has no such copy, and one
  without an icon has one exactly when its texts fit
  (`channel_preserved_iff`).
-/

namespace DiscoC

open Mem

/-! ### Structural equality -/

/-- A pointer that is null or not. -/
def Unimplemented.plain (p : Unimplemented) : Unimplemented :=
  p.map fun b => { b with address := 0 }

def Channel.plain (ch : Channel) : Channel :=
  { ch with
    address := 0
    permission_overwrites := ch.permission_overwrites.plain Unimplemented.plain
    name := ch.name.map CStr.plain
    topic := ch.topic.map CStr.plain
    recipients := ch.recipients.plain User.plain
    icon := ch.icon.map CStr.plain
    last_pin_timestamp := ch.last_pin_timestamp.map CStr.plain
    rtc_region := ch.rtc_region.map CStr.plain
    thread_metadata := Unimplemented.plain ch.thread_metadata
    member := Unimplemented.plain ch.member
    permissions := ch.permissions.map CStr.plain }

/-- The texts of a channel fit the bounds of `_d_copy_channel`. -/
def channel_fits (data : CJson) : Prop :=
  text_fits data "name" 101 ∧ text_fits data "topic" 1025 ∧
    (∀ c ∈ cJSON_ArrayItems (cJSON_GetObjectItem data "recipients"), user_fits c) ∧
    text_fits data "last_pin_timestamp" 100 ∧ text_fits data "rtc_region" 100 ∧
    text_fits data "permissions" 100

/-- The strings of a user. -/
def User.string_pointers (user : User) : List Nat :=
  [user.username, user.discriminator, user.avatar, user.banner, user.locale, user.email].flatMap
    fun s => s.toList.map CStr.address

/-- The strings of a channel and of the users in it. -/
def Channel.string_pointers (ch : Channel) : List Nat :=
  ([ch.name, ch.topic, ch.icon, ch.last_pin_timestamp, ch.rtc_region, ch.permissions].flatMap
    fun s => s.toList.map CStr.address) ++ ch.recipients.items.flatMap User.string_pointers

/-- `c` is structurally equal to `ch` and has none of its strings. -/
structure ChannelCopied (ch c : Channel) : Prop where
  same : c.plain = ch.plain
  apart : ∀ p ∈ c.string_pointers, p ∉ ch.string_pointers

/-- A channel is decoded, and copied later. -/
def ChannelPreserved (data : CJson) : Prop :=
  ∀ n, ∃ ch log, (_d_json_to_channel data).run n = some (ch, log) ∧
    ∀ k, n + (allocs log).length ≤ k →
      ∃ c log', (_d_copy_channel ch).run k = some (c, log') ∧ ChannelCopied ch c

/-! ### Structures that are not implemented -/

theorem unimplemented_field_ensures {tmp : Option CJson} :
    (unimplemented_field tmp json_to_unimplemented).Ensures fun p => p = none := by
  cases tmp with
  | none => exact Ensures.pure rfl
  | some _ => exact Ensures.pure rfl

/-- An array of them holds null pointers only, which are copied as such. -/
theorem unimplemented_array_ensures (data : CJson) (name : String) :
    (_d_get_array_from_json data name fun cur _ => json_to_unimplemented cur).Ensures fun a =>
      (copy_array a fun p _ => copy_unimplemented p).Keeps (CArray.plain Unimplemented.plain)
        (a.plain Unimplemented.plain) True := by
  refine (array_ensures (R := fun _ p => p = none) fun _ _ => Ensures.pure rfl).mono fun a ha => ?_
  refine (copy_array_keeps (E := fun _ => True) ha fun _ p hp => ?_).congr ?_
  · rw [hp]
    exact (Keeps.pure _).congr (iff_of_true rfl trivial)
  · simp

/-- A null pointer is copied as such. -/
theorem copy_unimplemented_keeps {p : Unimplemented} (h : p = none) :
    (copy_unimplemented p).Keeps Unimplemented.plain (Unimplemented.plain p) True := by
  rw [h]
  exact (Keeps.pure _).congr (iff_of_true rfl trivial)

/-! ### Channels without an icon -/

/-- A decoded channel: the icon is there if its text is, and without one
    the copy of the channel is the same exactly when its texts fit. -/
structure ChannelKept (data : CJson) (ch : Channel) : Prop where
  icon : ch.icon.map CStr.plain = json_text data "icon"
  keeps : ch.icon = none → (_d_copy_channel ch).Keeps Channel.plain ch.plain (channel_fits data)

theorem channel_ensures (data : CJson) : (_d_json_to_channel data).Ensures (ChannelKept data) := by
  unfold _d_json_to_channel
  refine Ensures.skip fun address => ?_
  refine (unimplemented_array_ensures data _).bind fun overwrites hoverwrites => ?_
  refine (text_ensures data "name").bind fun name hname => ?_
  refine (text_ensures data "topic").bind fun topic htopic => ?_
  refine (array_ensures fun c _ => user_ensures c).bind fun recipients hrecipients => ?_
  refine (text_ensures data "icon").bind fun icon hicon => ?_
  refine (text_ensures data "last_pin_timestamp").bind fun last_pin hlast_pin => ?_
  refine (text_ensures data "rtc_region").bind fun rtc_region hrtc_region => ?_
  refine unimplemented_field_ensures.bind fun thread_metadata hthread => ?_
  refine unimplemented_field_ensures.bind fun member hmember => ?_
  refine (text_ensures data "permissions").bind fun permissions hpermissions => ?_
  refine Ensures.pure ⟨hicon, fun hnone => ?_⟩
  obtain rfl : icon = none := hnone
  refine Keeps.copying fun address => Keeps.start ?_
  refine hoverwrites.bind_all fun _ => ?_
  refine (text_keeps hname (by decide)).bind fun _ => ?_
  refine (text_keeps htopic (by decide)).bind fun _ => ?_
  refine (copy_array_keeps hrecipients fun _ _ h => h).bind fun _ => ?_
  -- nothing is copied to the topic
  refine Keeps.value (a := none) ?_
  refine (text_keeps hlast_pin (by decide)).bind fun _ => ?_
  refine (text_keeps hrtc_region (by decide)).bind fun _ => ?_
  refine (copy_unimplemented_keeps hthread).bind_all fun _ => ?_
  refine (copy_unimplemented_keeps hmember).bind_all fun _ => ?_
  refine (text_keeps hpermissions (by decide)).last fun _ => Keeps.ret ?_
  simp [Channel.plain, and_assoc]

/-! ### Where the strings are -/

theorem new_string_supplies (s : String) (n : Nat) :
    Supplies [] (new_string s n) fun c => [c.address] :=
  (Supplies.alloc _).bind fun _ => Supplies.pure fun _ hq => hq

/-- A string is in a block of its own, whether it is decoded or copied. -/
theorem string_supplies {α : Type} {p : Option α} {f : (a : α) → p = some a → CMem CStr}
    (hf : ∀ a h, Supplies [] (f a h) fun c => [c.address]) :
    Supplies [] (Mem.unless_null p f) fun s => s.toList.map CStr.address := by
  have h := Supplies.unless_null hf
  simp only [← List.map_eq_flatMap] at h
  exact h

theorem text_supplies (data : CJson) (name : String) :
    Supplies [] (_d_get_string_from_json data name) fun s => s.toList.map CStr.address :=
  string_supplies fun s _ => new_string_supplies s 4097

theorem copy_string_supplies (s : Option CStr) (n : Nat) :
    Supplies [] (copy_string s n) fun s => s.toList.map CStr.address :=
  string_supplies fun s _ => new_string_supplies s.bytes n

theorem array_supplies {α : Type} {tmp : Option CJson}
    {func : (cur : CJson) → cur ∈ cJSON_ArrayItems tmp → CMem α} {p : α → List Nat}
    (hf : ∀ c hc, Supplies [] (func c hc) p) :
    Supplies [] (array_from_items tmp func) fun a => a.items.flatMap p := by
  unfold array_from_items
  split
  · exact Supplies.pure fun q hq => hq
  · refine Supplies.skip fun address => ?_
    exact (Supplies.each hf).bind fun items => Supplies.pure fun q hq => hq

theorem copy_array_supplies {α β : Type} {array : CArray α} {copy : α → CMem β} {p : β → List Nat}
    (hf : ∀ a, Supplies [] (copy a) p) :
    Supplies [] (copy_array array fun a _ => copy a) fun a => a.items.flatMap p := by
  cases array with
  | null => exact Supplies.pure fun q hq => hq
  | block _ items =>
    refine Supplies.skip fun address => ?_
    exact (Supplies.each fun a _ => hf a).bind fun items => Supplies.pure fun q hq => hq

theorem user_supplies (data : CJson) : Supplies [] (_d_json_to_user data) User.string_pointers := by
  refine Supplies.skip fun address => ?_
  refine (text_supplies data "username").bind fun username => ?_
  refine (text_supplies data "discriminator").bind fun discriminator => ?_
  refine (text_supplies data "avatar").bind fun avatar => ?_
  refine (text_supplies data "banner").bind fun banner => ?_
  refine (text_supplies data "locale").bind fun locale => ?_
  refine (text_supplies data "email").bind fun email => Supplies.pure fun q hq => ?_
  simpa [User.string_pointers] using hq

theorem copy_user_supplies (user : User) :
    Supplies [] (_d_copy_user user) User.string_pointers := by
  refine Supplies.skip fun _ => Supplies.skip fun address => ?_
  refine (copy_string_supplies user.username 50).bind fun username => ?_
  refine (copy_string_supplies user.discriminator 5).bind fun discriminator => ?_
  refine (copy_string_supplies user.avatar 100).bind fun avatar => ?_
  refine (copy_string_supplies user.banner 100).bind fun banner => ?_
  refine (copy_string_supplies user.locale 10).bind fun locale => ?_
  refine (copy_string_supplies user.email 100).bind fun email => Supplies.pure fun q hq => ?_
  simpa [User.string_pointers] using hq

theorem channel_supplies (data : CJson) :
    Supplies [] (_d_json_to_channel data) Channel.string_pointers := by
  refine Supplies.skip fun address => Supplies.skip fun overwrites => ?_
  refine (text_supplies data "name").bind fun name => ?_
  refine (text_supplies data "topic").bind fun topic => ?_
  refine (array_supplies fun c _ => user_supplies c).bind fun recipients => ?_
  refine (text_supplies data "icon").bind fun icon => ?_
  refine (text_supplies data "last_pin_timestamp").bind fun last_pin_timestamp => ?_
  refine (text_supplies data "rtc_region").bind fun rtc_region => ?_
  refine Supplies.skip fun thread_metadata => Supplies.skip fun member => ?_
  refine (text_supplies data "permissions").bind fun permissions => Supplies.pure fun q hq => ?_
  simp only [Channel.string_pointers, List.flatMap_cons, List.flatMap_nil, List.mem_append] at hq
  simp only [List.mem_append]
  tauto

/-- A copy of a channel without an icon has only strings of its own. -/
theorem copy_channel_supplies {ch : Channel} (h : ch.icon = none) :
    Supplies [] (_d_copy_channel ch) Channel.string_pointers := by
  refine Supplies.skip fun _ => Supplies.skip fun address => Supplies.skip fun overwrites => ?_
  refine (copy_string_supplies ch.name 101).bind fun name => ?_
  refine (copy_string_supplies ch.topic 1025).bind fun topic => ?_
  refine (copy_array_supplies copy_user_supplies).bind fun recipients => ?_
  refine (copy_string_supplies ch.icon 1025).bind fun icon => ?_
  refine (copy_string_supplies ch.last_pin_timestamp 100).bind fun last_pin_timestamp => ?_
  refine (copy_string_supplies ch.rtc_region 100).bind fun rtc_region => ?_
  refine Supplies.skip fun thread_metadata => Supplies.skip fun member => ?_
  refine (copy_string_supplies ch.permissions 100).bind fun permissions =>
    Supplies.pure fun q hq => ?_
  simp only [Channel.string_pointers, List.flatMap_cons, List.flatMap_nil, List.mem_append, h] at hq
  simp only [List.mem_append]
  split at hq <;> tauto

/-- With an icon, the copy has the icon of the channel. -/
theorem copy_channel_icon (ch : Channel) :
    (_d_copy_channel ch).Ensures fun c => c.icon = ch.icon := by
  unfold _d_copy_channel
  iterate 12 refine Ensures.skip fun _ => ?_
  exact Ensures.pure rfl

/-! ### Every channel -/

/-- A channel is decoded with an icon exactly when there is a text for it. -/
theorem ChannelKept.icon_eq_none_iff {data : CJson} {ch : Channel} (h : ChannelKept data ch) :
    ch.icon = none ↔ cJSON_IsString (cJSON_GetObjectItem data "icon") = none := by
  rw [← Option.map_eq_none_iff (f := CStr.plain), h.icon, json_text, Option.map_eq_none_iff]

/-- A channel and a copy that share an icon are not apart. -/
theorem ChannelCopied.icon_eq_none {ch c : Channel} (h : ChannelCopied ch c)
    (hicon : c.icon = ch.icon) : ch.icon = none := by
  cases hs : ch.icon with
  | none => rfl
  | some s =>
    have hmem : ∀ ch' : Channel, ch'.icon = some s → s.address ∈ ch'.string_pointers := by
      intro ch' hs'
      simp [Channel.string_pointers, hs']
    exact absurd (hmem ch hs) (h.apart _ (hmem c (hicon.trans hs)))

/-- A channel that is preserved has no icon, and its texts fit. -/
theorem ChannelPreserved.fits {data : CJson} (hall : ChannelPreserved data) :
    cJSON_IsString (cJSON_GetObjectItem data "icon") = none ∧ channel_fits data := by
  obtain ⟨ch, log, hrun, hcopies⟩ := hall 0
  obtain ⟨c, log', hcopy, hcopied⟩ := hcopies _ (le_refl _)
  have hkept := channel_ensures data 0 ch log hrun
  have hicon := hcopied.icon_eq_none (copy_channel_icon ch _ c log' hcopy)
  exact ⟨hkept.icon_eq_none_iff.mp hicon, (hkept.keeps hicon _).mp ⟨c, log', hcopy, hcopied.same⟩⟩

/-- **Copies of channels**: a copy is structurally equal to the channel and
    shares no string with it exactly when the channel has no icon and its
    texts fit. -/
theorem channel_preserved_iff (data : CJson) :
    ChannelPreserved data ↔
      cJSON_IsString (cJSON_GetObjectItem data "icon") = none ∧ channel_fits data := by
  constructor
  · exact ChannelPreserved.fits
  · intro h n
    obtain ⟨hnone, hfits⟩ := h
    obtain ⟨ch, log, hrun, -⟩ := (channel_returns data n).1 trivial
    have hkept := channel_ensures data n ch log hrun
    have hicon := hkept.icon_eq_none_iff.mpr hnone
    refine ⟨ch, log, hrun, fun k hk => ?_⟩
    obtain ⟨c, log', hcopy, hsame⟩ := (hkept.keeps hicon k).mpr hfits
    refine ⟨c, log', hcopy, hsame, fun p hp hsrc => ?_⟩
    -- the strings of the channel are older than those of the copy
    rcases channel_supplies data n ch log hrun p hsrc with hnil | hold
    · exact absurd hnil List.not_mem_nil
    · rcases copy_channel_supplies hicon k c log' hcopy p hp with hnil | hnew
      · exact absurd hnil List.not_mem_nil
      · omega

/-- A channel with an icon and nothing else. -/
def icon_channel : CJson := .object [("id", .string "1"), ("icon", .string "a")]

/-- Its copy has the icon as its topic, and has the icon of the channel. -/
theorem icon_channel_shared :
    ∃ ch log c log', (_d_json_to_channel icon_channel).run 0 = some (ch, log) ∧
      (_d_copy_channel ch).run (allocs log).length = some (c, log') ∧
      ch.topic = none ∧ c.topic.map CStr.bytes = some "a" ∧
      c.icon = ch.icon ∧ ch.icon.isSome ∧ ¬ ChannelPreserved icon_channel := by
  refine ⟨_, _, _, _, rfl, rfl, rfl, rfl, rfl, rfl, fun h => ?_⟩
  cases h.fits.1

end DiscoC
