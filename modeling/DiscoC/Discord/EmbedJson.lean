import DiscoC.External.CJsonObject
import DiscoC.Framework.Yields
import DiscoC.Discord.Embed

/-! # Embeds as JSON

  Model of `create_embed_json` and the `embed_add_*` of `discord/message.c`,
  and what becomes of an embed that is written and then read by
  `_d_json_to_embed`.

  Three parts do not come back: a footer, which is read as an embed; the
  `proxy_url` of a medium, which is read from `url`; and the URL of a
  provider without a name, which is not written. An embed comes back exactly
  when it has none of them (`embed_round_trip_iff`).
-/

namespace DiscoC

/-! ### Writing -/

/-- `cJSON_CreateString`, which creates nothing from the null pointer. -/
def cJSON_CreateString (s : Option CStr) : Option CJson := s.map fun s => .string s.bytes

/-- `cJSON_CreateTrue` or `cJSON_CreateFalse`. -/
def cJSON_CreateBool (b : Bool) : Option CJson := some (.bool b)

/-- The pointer `footer` of an embed as the footer it is declared to be: the
    first three pointers of the structure. -/
def read_footer : EmbedFooter ⊕ Embed → EmbedFooter
  | .inl footer => footer
  | .inr embed =>
    { address := embed.address
      text := embed.title
      icon_url := embed.type
      proxy_icon_url := embed.description }

/-- `embed_add_footer`. -/
def embed_add_footer (footer : EmbedFooter) : CJson :=
  cJSON_object
    [("text", cJSON_CreateString footer.text),
      ("icon_url", cJSON_CreateString footer.icon_url),
      ("proxy_icon_url", cJSON_CreateString footer.proxy_icon_url)]

/-- `embed_add_media`. -/
def embed_add_media (media : EmbedMedia) : CJson :=
  cJSON_object
    [("url", cJSON_CreateString media.url),
      ("proxy_url", cJSON_CreateString media.proxy_url),
      ("height", cJSON_CreateNumber media.height),
      ("width", cJSON_CreateNumber media.width)]

/-- The provider in `create_embed_json`. Both tests are of the name. -/
def embed_add_provider (provider : EmbedProvider) : CJson :=
  cJSON_object
    [("name", cJSON_CreateString provider.name),
      ("url", if provider.name.isSome then cJSON_CreateString provider.url else none)]

/-- `embed_add_author`. -/
def embed_add_author (author : EmbedAuthor) : CJson :=
  cJSON_object
    [("name", cJSON_CreateString author.name),
      ("url", cJSON_CreateString author.url),
      ("icon_url", cJSON_CreateString author.icon_url),
      ("proxy_icon_url", cJSON_CreateString author.proxy_icon_url)]

/-- `embed_add_field`. -/
def embed_add_field (field : EmbedField) : CJson :=
  cJSON_object
    [("name", cJSON_CreateString field.name),
      ("value", cJSON_CreateString field.value),
      ("inline", cJSON_CreateBool field._inline)]

/-- The array for the items of `array`, if its count is not 0. -/
def cJSON_array {α : Type} (array : CArray α) (create : α → CJson) : Option CJson :=
  if array.count = 0 then none else some (.array (array.items.map create))

/-- What `create_embed_json` adds, in order. -/
def embed_members (embed : Embed) : List (String × Option CJson) :=
  [("title", cJSON_CreateString embed.title),
    ("description", cJSON_CreateString embed.description),
    ("type", cJSON_CreateString embed.type),
    ("url", cJSON_CreateString embed.url),
    ("timestamp", cJSON_CreateString embed.timestamp),
    ("color", cJSON_CreateNumber embed.color),
    ("footer", embed.footer.map fun footer => embed_add_footer (read_footer footer)),
    ("image", embed.image.map embed_add_media),
    ("thumbnail", embed.thumbnail.map embed_add_media),
    ("video", embed.video.map embed_add_media),
    ("provider", embed.provider.map embed_add_provider),
    ("author", embed.author.map embed_add_author),
    ("fields", cJSON_array embed.fields embed_add_field)]

/-- `create_embed_json`. -/
def create_embed_json (embed : Embed) : CJson := cJSON_object (embed_members embed)

/-! ### Structures without their addresses -/

def CStr.plain (s : CStr) : CStr := { s with address := 0 }

def EmbedFooter.plain (footer : EmbedFooter) : EmbedFooter where
  address := 0
  text := footer.text.map CStr.plain
  icon_url := footer.icon_url.map CStr.plain
  proxy_icon_url := footer.proxy_icon_url.map CStr.plain

def EmbedMedia.plain (media : EmbedMedia) : EmbedMedia where
  address := 0
  url := media.url.map CStr.plain
  proxy_url := media.proxy_url.map CStr.plain
  height := media.height
  width := media.width

def EmbedProvider.plain (provider : EmbedProvider) : EmbedProvider where
  address := 0
  name := provider.name.map CStr.plain
  url := provider.url.map CStr.plain

def EmbedAuthor.plain (author : EmbedAuthor) : EmbedAuthor where
  address := 0
  name := author.name.map CStr.plain
  url := author.url.map CStr.plain
  icon_url := author.icon_url.map CStr.plain
  proxy_icon_url := author.proxy_icon_url.map CStr.plain

def EmbedField.plain (field : EmbedField) : EmbedField where
  address := 0
  name := field.name.map CStr.plain
  value := field.value.map CStr.plain
  _inline := field._inline

def plain_footer (footer : EmbedFooter ⊕ Embed) : EmbedFooter ⊕ Embed :=
  .inl (read_footer footer).plain

/-- The embed without its addresses, and its footer as it is declared. Two
    embeds are structurally equal when these are the same. -/
def Embed.plain (embed : Embed) : Embed where
  address := 0
  title := embed.title.map CStr.plain
  type := embed.type.map CStr.plain
  description := embed.description.map CStr.plain
  url := embed.url.map CStr.plain
  timestamp := embed.timestamp.map CStr.plain
  color := embed.color
  footer := embed.footer.map plain_footer
  image := embed.image.map EmbedMedia.plain
  thumbnail := embed.thumbnail.map EmbedMedia.plain
  video := embed.video.map EmbedMedia.plain
  provider := embed.provider.map EmbedProvider.plain
  author := embed.author.map EmbedAuthor.plain
  fields := .block 0 (embed.fields.items.map EmbedField.plain)

/-! ### What is read -/

/-- The string `_d_get_string_from_json` reads. -/
def json_text (data : CJson) (name : String) : Option CStr :=
  (cJSON_IsString (cJSON_GetObjectItem data name)).map fun s => ⟨0, strndup s 4097⟩

def json_embed_media (data : CJson) : EmbedMedia where
  address := 0
  url := json_text data "url"
  proxy_url := json_text data "url"
  height := _d_get_int_from_json data "height" (-1)
  width := _d_get_int_from_json data "width" (-1)

def json_embed_provider (data : CJson) : EmbedProvider where
  address := 0
  name := json_text data "name"
  url := json_text data "url"

def json_embed_author (data : CJson) : EmbedAuthor where
  address := 0
  name := json_text data "name"
  url := json_text data "url"
  icon_url := json_text data "icon_url"
  proxy_icon_url := json_text data "proxy_icon_url"

def json_embed_field (data : CJson) : EmbedField where
  address := 0
  name := json_text data "name"
  value := json_text data "value"
  _inline := _d_get_bool_from_json data "inline" false

/-- The footer is read as an embed, and used as a footer. -/
def json_embed_footer (data : CJson) : EmbedFooter ⊕ Embed := .inl
  { address := 0
    text := json_text data "title"
    icon_url := json_text data "type"
    proxy_icon_url := json_text data "description" }

/-- What `_d_json_to_embed` reads, without the addresses. -/
def json_embed (data : CJson) : Embed where
  address := 0
  title := json_text data "title"
  type := json_text data "type"
  description := json_text data "description"
  url := json_text data "url"
  timestamp := json_text data "timestamp"
  color := _d_get_int_from_json data "color" 0
  footer := (cJSON_GetObjectItem data "footer").map json_embed_footer
  image := (cJSON_GetObjectItem data "image").map json_embed_media
  thumbnail := (cJSON_GetObjectItem data "thumbnail").map json_embed_media
  video := (cJSON_GetObjectItem data "video").map json_embed_media
  provider := (cJSON_GetObjectItem data "provider").map json_embed_provider
  author := (cJSON_GetObjectItem data "author").map json_embed_author
  fields := .block 0 ((cJSON_ArrayItems (cJSON_GetObjectItem data "fields")).map json_embed_field)

open Mem

theorem get_string_yields (data : CJson) (name : String) :
    (_d_get_string_from_json data name).Yields fun s => s.map CStr.plain = json_text data name := by
  refine Yields.unless_null (fun h => ?_) fun s hs => ?_
  · rw [json_text, h]
    rfl
  · refine (Yields.alloc _).bind fun address _ => Yields.pure ?_
    rw [json_text, hs]
    rfl

theorem embed_media_yields (data : CJson) :
    (_d_json_to_embed_media data).Yields fun m => m.plain = json_embed_media data := by
  refine (Yields.alloc _).bind fun address _ => ?_
  refine (get_string_yields data "url").bind fun url hurl => ?_
  refine (get_string_yields data "url").bind fun proxy_url hproxy_url => Yields.pure ?_
  rw [EmbedMedia.plain, hurl, hproxy_url]
  rfl

theorem embed_provider_yields (data : CJson) :
    (_d_json_to_embed_provider data).Yields fun p => p.plain = json_embed_provider data := by
  refine (Yields.alloc _).bind fun address _ => ?_
  refine (get_string_yields data "name").bind fun name hname => ?_
  refine (get_string_yields data "url").bind fun url hurl => Yields.pure ?_
  rw [EmbedProvider.plain, hname, hurl]
  rfl

theorem embed_author_yields (data : CJson) :
    (_d_json_to_embed_author data).Yields fun a => a.plain = json_embed_author data := by
  refine (Yields.alloc _).bind fun address _ => ?_
  refine (get_string_yields data "name").bind fun name hname => ?_
  refine (get_string_yields data "url").bind fun url hurl => ?_
  refine (get_string_yields data "icon_url").bind fun icon_url hicon_url => ?_
  refine (get_string_yields data "proxy_icon_url").bind fun proxy_icon_url hproxy => Yields.pure ?_
  rw [EmbedAuthor.plain, hname, hurl, hicon_url, hproxy]
  rfl

theorem embed_field_yields (data : CJson) :
    (_d_json_to_embed_field data).Yields fun f => f.plain = json_embed_field data := by
  refine (Yields.alloc _).bind fun address _ => ?_
  refine (get_string_yields data "name").bind fun name hname => ?_
  refine (get_string_yields data "value").bind fun value hvalue => Yields.pure ?_
  rw [EmbedField.plain, hname, hvalue]
  rfl

/-- What a pointer to a structure points to, without addresses. -/
theorem pointer_yields {α β : Type} {tmp : Option CJson}
    {func : (c : CJson) → tmp = some c → CMem α} {g : α → β} {h : CJson → β}
    (hf : ∀ c hc, (func c hc).Yields fun a => g a = h c) :
    (Mem.unless_null tmp func).Yields fun p => p.map g = tmp.map h := by
  refine Yields.unless_null (fun hnone => by rw [hnone]; rfl) fun c hc => (hf c hc).mono ?_
  intro a ha
  rw [hc, Option.map_some, Option.map_some, ha]

theorem array_yields {α β : Type} {tmp : Option CJson}
    {func : (c : CJson) → c ∈ cJSON_ArrayItems tmp → CMem α} {g : α → β} {h : CJson → β}
    (hf : ∀ c hc, (func c hc).Yields fun a => g a = h c) :
    (array_from_items tmp func).Yields fun a => a.items.map g = (cJSON_ArrayItems tmp).map h := by
  unfold array_from_items
  split
  next hsize =>
    refine Yields.pure ?_
    rw [cJSON_ArrayItems_of_size hsize]
    rfl
  next =>
    refine (Yields.alloc _).bind fun address _ => (Yields.each hf).bind fun items hitems => ?_
    exact Yields.pure hitems

theorem footer_yields {tmp : Option CJson}
    (h : ∀ c, tmp = some c → (_d_json_to_embed c).Yields fun e => e.plain = json_embed c) :
    (Mem.unless_null tmp fun c _ => do
      let footer ← _d_json_to_embed c
      pure (.inr footer : EmbedFooter ⊕ Embed)).Yields fun p =>
        p.map plain_footer = tmp.map json_embed_footer := by
  refine pointer_yields fun c hc => (h c hc).bind fun e he => Yields.pure ?_
  have htitle : e.title.map CStr.plain = json_text c "title" := congrArg Embed.title he
  have htype : e.type.map CStr.plain = json_text c "type" := congrArg Embed.type he
  have hdescription : e.description.map CStr.plain = json_text c "description" :=
    congrArg Embed.description he
  simp only [plain_footer, read_footer, EmbedFooter.plain, json_embed_footer, htitle, htype,
    hdescription]

/-- **`_d_json_to_embed`** always returns, and this is what it returns. -/
theorem embed_yields (data : CJson) :
    (_d_json_to_embed data).Yields fun e => e.plain = json_embed data := by
  -- the footer is decoded by `_d_json_to_embed` itself, from a smaller tree
  have ih : ∀ c, cJSON_GetObjectItem data "footer" = some c →
      (_d_json_to_embed c).Yields fun e => e.plain = json_embed c := by
    intro c hc
    have : sizeOf c < sizeOf data := sizeOf_item hc
    exact embed_yields c
  rw [_d_json_to_embed]
  refine (Yields.alloc _).bind fun address _ => ?_
  refine (get_string_yields data "title").bind fun title htitle => ?_
  refine (get_string_yields data "type").bind fun type htype => ?_
  refine (get_string_yields data "description").bind fun description hdescription => ?_
  refine (get_string_yields data "url").bind fun url hurl => ?_
  refine (get_string_yields data "timestamp").bind fun timestamp htimestamp => ?_
  refine (footer_yields ih).bind fun footer hfooter => ?_
  refine (pointer_yields fun c _ => embed_media_yields c).bind fun image himage => ?_
  refine (pointer_yields fun c _ => embed_media_yields c).bind fun thumbnail hthumbnail => ?_
  refine (pointer_yields fun c _ => embed_media_yields c).bind fun video hvideo => ?_
  refine (pointer_yields fun c _ => embed_provider_yields c).bind fun provider hprovider => ?_
  refine (pointer_yields fun c _ => embed_author_yields c).bind fun author hauthor => ?_
  refine (array_yields fun c _ => embed_field_yields c).bind fun fields hfields => Yields.pure ?_
  simp only [Embed.plain, json_embed, htitle, htype, hdescription, hurl, htimestamp, himage,
    hthumbnail, hvideo, hprovider, hauthor, hfields, hfooter]
termination_by sizeOf data

/-! ### Reading what was written -/

/-- A string of at most 4096 bytes, if there is one. -/
def TextFits (s : Option CStr) : Prop := ∀ c ∈ s, c.bytes.toList.length ≤ 4096

/-- A value of the type `int`. -/
def IsInt (i : Int) : Prop := -2147483648 ≤ i ∧ i ≤ 2147483647

instance (i : Int) : Decidable (IsInt i) :=
  inferInstanceAs (Decidable (-2147483648 ≤ i ∧ i ≤ 2147483647))

theorem isString_createString (s : Option CStr) :
    cJSON_IsString (cJSON_CreateString s) = s.map CStr.bytes := by
  cases s <;> rfl

theorem json_text_of {data : CJson} {name : String} {s : Option CStr}
    (h : cJSON_GetObjectItem data name = cJSON_CreateString s) (hs : TextFits s) :
    json_text data name = s.map CStr.plain := by
  rw [json_text, h, isString_createString, Option.map_map]
  cases s with
  | none => rfl
  | some c =>
    have hlen : c.bytes.toList.length ≤ 4097 := Nat.le_succ_of_le (hs c rfl)
    rw [Option.map_some, Option.map_some, Function.comp_apply, strndup_of_length_le hlen]
    rfl

theorem json_int_of {data : CJson} {name : String} {i default_ : Int}
    (h : cJSON_GetObjectItem data name = cJSON_CreateNumber i) (hi : IsInt i) :
    _d_get_int_from_json data name default_ = i := by
  rw [_d_get_int_from_json, h]
  exact int_of_intCast hi.1 hi.2

theorem json_bool_of {data : CJson} {name : String} {b default_ : Bool}
    (h : cJSON_GetObjectItem data name = cJSON_CreateBool b) :
    _d_get_bool_from_json data name default_ = b := by
  rw [_d_get_bool_from_json, h]
  rfl

/-- The items of an array that was written. -/
theorem arrayItems_array {α : Type} (array : CArray α) (create : α → CJson) :
    cJSON_ArrayItems (cJSON_array array create) = array.items.map create := by
  unfold cJSON_array
  split
  next hcount =>
    rw [List.length_eq_zero_iff.mp hcount]
    rfl
  next => rfl

theorem embed_item {e : Embed} {name : String} {item : Option CJson}
    (h : (name, item) ∈ embed_members e) :
    cJSON_GetObjectItem (create_embed_json e) name = item :=
  getObjectItem_object (.of_keys ["title", "description", "type", "url", "timestamp", "color",
    "footer", "image", "thumbnail", "video", "provider", "author", "fields"] (by decide) rfl) h

def EmbedFooter.Fits (f : EmbedFooter) : Prop :=
  TextFits f.text ∧ TextFits f.icon_url ∧ TextFits f.proxy_icon_url

def EmbedMedia.Fits (m : EmbedMedia) : Prop :=
  TextFits m.url ∧ TextFits m.proxy_url ∧ IsInt m.height ∧ IsInt m.width

def EmbedProvider.Fits (p : EmbedProvider) : Prop := TextFits p.name ∧ TextFits p.url

def EmbedAuthor.Fits (a : EmbedAuthor) : Prop :=
  TextFits a.name ∧ TextFits a.url ∧ TextFits a.icon_url ∧ TextFits a.proxy_icon_url

def EmbedField.Fits (f : EmbedField) : Prop := TextFits f.name ∧ TextFits f.value

/-- All strings are at most 4096 bytes, and all numbers are of the type
    `int`. -/
structure Embed.Fits (e : Embed) : Prop where
  title : TextFits e.title
  type : TextFits e.type
  description : TextFits e.description
  url : TextFits e.url
  timestamp : TextFits e.timestamp
  color : IsInt e.color
  footer : ∀ f ∈ e.footer, (read_footer f).Fits
  image : ∀ m ∈ e.image, m.Fits
  thumbnail : ∀ m ∈ e.thumbnail, m.Fits
  video : ∀ m ∈ e.video, m.Fits
  provider : ∀ p ∈ e.provider, p.Fits
  author : ∀ a ∈ e.author, a.Fits
  fields : ∀ f ∈ e.fields.items, f.Fits

/-- A footer comes back with no field set. -/
theorem json_embed_footer_add (f : EmbedFooter) : json_embed_footer (embed_add_footer f) =
    .inl { address := 0, text := none, icon_url := none, proxy_icon_url := none } := by
  have hnone : ∀ name, name ∈ ["title", "type", "description"] →
      json_text (embed_add_footer f) name = none := by
    intro name hname
    have hkeys : ∀ name ∈ ["title", "type", "description"],
        ∀ key ∈ ["text", "icon_url", "proxy_icon_url"],
          CJson.fold_key name ≠ CJson.fold_key key := by decide
    rw [json_text, embed_add_footer, getObjectItem_object_none fun m hm => ?_]
    · rfl
    · exact hkeys name hname m.1 (List.mem_map_of_mem hm)
  rw [json_embed_footer, hnone "title" (by simp), hnone "type" (by simp),
    hnone "description" (by simp)]

/-- A medium comes back with `url` for its `proxy_url`. -/
theorem json_embed_media_add {m : EmbedMedia} (h : m.Fits) :
    json_embed_media (embed_add_media m) = { m.plain with proxy_url := m.url.map CStr.plain } := by
  have hitem : ∀ {name item}, (name, item) ∈ _ →
      cJSON_GetObjectItem (embed_add_media m) name = item :=
    getObjectItem_object (.of_keys ["url", "proxy_url", "height", "width"] (by decide) rfl)
  obtain ⟨hurl, -, hheight, hwidth⟩ := h
  rw [json_embed_media, json_text_of (hitem (by simp)) hurl, json_int_of (hitem (by simp)) hheight,
    json_int_of (hitem (by simp)) hwidth]
  rfl

/-- A provider comes back without its URL, unless it has a name. -/
theorem json_embed_provider_add {p : EmbedProvider} (h : p.Fits) :
    json_embed_provider (embed_add_provider p) =
      { p.plain with url := if p.name.isSome then p.url.map CStr.plain else none } := by
  have hitem : ∀ {name item}, (name, item) ∈ _ →
      cJSON_GetObjectItem (embed_add_provider p) name = item :=
    getObjectItem_object (.of_keys ["name", "url"] (by decide) rfl)
  rw [json_embed_provider, json_text_of (hitem (by simp)) h.1]
  -- the url is written under the name only
  cases hname : p.name with
  | some name =>
    rw [json_text_of (s := p.url) (hitem (by simp [hname])) h.2, EmbedProvider.plain, hname]
    rfl
  | none =>
    rw [json_text_of (s := none) (hitem (by simp [hname, cJSON_CreateString])) (by nofun),
      EmbedProvider.plain, hname]
    rfl

theorem json_embed_author_add {a : EmbedAuthor} (h : a.Fits) :
    json_embed_author (embed_add_author a) = a.plain := by
  have hitem : ∀ {name item}, (name, item) ∈ _ →
      cJSON_GetObjectItem (embed_add_author a) name = item :=
    getObjectItem_object (.of_keys ["name", "url", "icon_url", "proxy_icon_url"] (by decide) rfl)
  obtain ⟨hname, hurl, hicon, hproxy⟩ := h
  rw [json_embed_author, json_text_of (hitem (by simp)) hname, json_text_of (hitem (by simp)) hurl,
    json_text_of (hitem (by simp)) hicon, json_text_of (hitem (by simp)) hproxy]
  rfl

theorem json_embed_field_add {f : EmbedField} (h : f.Fits) :
    json_embed_field (embed_add_field f) = f.plain := by
  have hitem : ∀ {name item}, (name, item) ∈ _ →
      cJSON_GetObjectItem (embed_add_field f) name = item :=
    getObjectItem_object (.of_keys ["name", "value", "inline"] (by decide) rfl)
  rw [json_embed_field, json_text_of (hitem (by simp)) h.1, json_text_of (hitem (by simp)) h.2,
    json_bool_of (b := f._inline) (hitem (by simp))]
  rfl

/-! ### The round trip -/

/-- What has to hold of an embed to come back as it is. -/
structure ComesBack (e : Embed) : Prop where
  footer : ∀ f ∈ e.footer, (read_footer f).text = none ∧ (read_footer f).icon_url = none ∧
    (read_footer f).proxy_icon_url = none
  image : ∀ m ∈ e.image, m.proxy_url.map CStr.plain = m.url.map CStr.plain
  thumbnail : ∀ m ∈ e.thumbnail, m.proxy_url.map CStr.plain = m.url.map CStr.plain
  video : ∀ m ∈ e.video, m.proxy_url.map CStr.plain = m.url.map CStr.plain
  provider : ∀ p ∈ e.provider, p.name = none → p.url = none

theorem map_map_eq_iff {α β γ : Type} {o : Option α} {create : α → β} {read : β → γ} {g : α → γ} :
    (o.map create).map read = o.map g ↔ ∀ a ∈ o, read (create a) = g a := by
  cases o <;> simp

theorem media_back_iff {m : EmbedMedia} (h : m.Fits) :
    json_embed_media (embed_add_media m) = m.plain ↔
      m.proxy_url.map CStr.plain = m.url.map CStr.plain := by
  rw [json_embed_media_add h]
  simp only [EmbedMedia.plain, EmbedMedia.mk.injEq, true_and, and_true]
  exact eq_comm

theorem footer_back_iff {f : EmbedFooter ⊕ Embed} :
    json_embed_footer (embed_add_footer (read_footer f)) = plain_footer f ↔
      (read_footer f).text = none ∧ (read_footer f).icon_url = none ∧
        (read_footer f).proxy_icon_url = none := by
  rw [json_embed_footer_add, plain_footer, EmbedFooter.plain]
  simp only [Sum.inl.injEq, EmbedFooter.mk.injEq, true_and, eq_comm (a := (none : Option CStr)),
    Option.map_eq_none_iff]

/-- A provider that loses its URL without a name is the same if it has none
    to lose. -/
theorem provider_plain_iff (p : EmbedProvider) :
    { p.plain with url := if p.name.isSome then p.url.map CStr.plain else none } = p.plain ↔
      (p.name = none → p.url = none) := by
  cases hname : p.name with
  | some name => simp [EmbedProvider.plain]
  | none => simp [EmbedProvider.plain, eq_comm (a := (none : Option CStr))]

theorem provider_back_iff {p : EmbedProvider} (h : p.Fits) :
    json_embed_provider (embed_add_provider p) = p.plain ↔ (p.name = none → p.url = none) := by
  rw [json_embed_provider_add h]
  exact provider_plain_iff p

/-- A pointer of the embed comes back when what it points to does. -/
theorem pointer_back_iff {α : Type} (e : Embed) (name : String) (o : Option α)
    {create : α → CJson} {read : CJson → α} {g : α → α} {G : α → Prop}
    (hm : (name, o.map create) ∈ embed_members e)
    (hG : ∀ a ∈ o, read (create a) = g a ↔ G a) :
    (cJSON_GetObjectItem (create_embed_json e) name).map read = o.map g ↔ ∀ a ∈ o, G a := by
  rw [embed_item hm, map_map_eq_iff]
  exact forall₂_congr hG

theorem fields_back {e : Embed} (h : e.Fits) :
    (cJSON_ArrayItems (cJSON_GetObjectItem (create_embed_json e) "fields")).map json_embed_field =
      e.fields.items.map EmbedField.plain := by
  have hitem : cJSON_GetObjectItem (create_embed_json e) "fields" =
      cJSON_array e.fields embed_add_field := embed_item (by simp [embed_members])
  rw [hitem, arrayItems_array, List.map_map]
  exact List.map_congr_left fun f hf => json_embed_field_add (h.fields f hf)

/-- What is read of an embed that was written. -/
theorem json_embed_create_iff {e : Embed} (h : e.Fits) :
    json_embed (create_embed_json e) = e.plain ↔ ComesBack e := by
  have hfooter := pointer_back_iff e "footer" e.footer (by simp [embed_members])
    fun f _ => footer_back_iff (f := f)
  have himage := pointer_back_iff e "image" e.image (by simp [embed_members])
    fun m hm => media_back_iff (h.image m hm)
  have hthumbnail := pointer_back_iff e "thumbnail" e.thumbnail (by simp [embed_members])
    fun m hm => media_back_iff (h.thumbnail m hm)
  have hvideo := pointer_back_iff e "video" e.video (by simp [embed_members])
    fun m hm => media_back_iff (h.video m hm)
  have hprovider := pointer_back_iff e "provider" e.provider (by simp [embed_members])
    fun p hp => provider_back_iff (h.provider p hp)
  have hauthor := pointer_back_iff e "author" e.author (by simp [embed_members])
    fun a ha => iff_true_intro (json_embed_author_add (h.author a ha))
  -- texts, the color and the fields come back as they are
  have htext : ∀ name s, (name, cJSON_CreateString s) ∈ embed_members e → TextFits s →
      json_text (create_embed_json e) name = s.map CStr.plain :=
    fun name s hm hs => json_text_of (embed_item hm) hs
  have hcolor : _d_get_int_from_json (create_embed_json e) "color" 0 = e.color :=
    json_int_of (embed_item (by simp [embed_members])) h.color
  rw [json_embed, Embed.plain, Embed.mk.injEq, fields_back h, hfooter, himage, hthumbnail, hvideo,
    hprovider, hauthor, hcolor, htext "title" e.title (by simp [embed_members]) h.title,
    htext "type" e.type (by simp [embed_members]) h.type,
    htext "description" e.description (by simp [embed_members]) h.description,
    htext "url" e.url (by simp [embed_members]) h.url,
    htext "timestamp" e.timestamp (by simp [embed_members]) h.timestamp]
  constructor
  · rintro ⟨-, -, -, -, -, -, -, hf, hi, ht, hv, hp, -, -⟩
    exact ⟨hf, hi, ht, hv, hp⟩
  · rintro ⟨hf, hi, ht, hv, hp⟩
    exact ⟨rfl, rfl, rfl, rfl, rfl, rfl, rfl, hf, hi, ht, hv, hp, fun _ _ => trivial, rfl⟩

/-- The embed that is decoded from the JSON of `e` is structurally equal to
    it. -/
def RoundTrip (e : Embed) : Prop :=
  (_d_json_to_embed (create_embed_json e)).Yields fun d => d.plain = e.plain

theorem roundTrip_iff (e : Embed) : RoundTrip e ↔ json_embed (create_embed_json e) = e.plain :=
  Yields.iff_of_eq (embed_yields (create_embed_json e))

/-- **Embed round trip**: an embed comes back as it is exactly when it has no
    footer with a field set, no medium whose two URLs differ, and no provider
    with a URL and no name. -/
theorem embed_round_trip_iff (e : Embed) (h : e.Fits) : RoundTrip e ↔ ComesBack e :=
  (roundTrip_iff e).trans (json_embed_create_iff h)

/-- An embed with a type and nothing else. -/
def bare_embed : Embed where
  address := 0
  title := none
  type := some ⟨1, "rich"⟩
  description := none
  url := none
  timestamp := none
  color := 255
  footer := none
  image := none
  thumbnail := none
  video := none
  provider := none
  author := none
  fields := .null

theorem bare_embed_fits : bare_embed.Fits where
  title := nofun
  type := by
    rintro _ ⟨⟩
    decide
  description := nofun
  url := nofun
  timestamp := nofun
  color := by decide
  footer := nofun
  image := nofun
  thumbnail := nofun
  video := nofun
  provider := nofun
  author := nofun
  fields := nofun

/-- An embed with texts, an image, a provider, an author and two fields. -/
def full_embed : Embed :=
  { bare_embed with
    title := some ⟨2, "title"⟩
    description := some ⟨3, "description"⟩
    timestamp := some ⟨4, "2022-12-01"⟩
    image := some ⟨5, some ⟨6, "image.png"⟩, some ⟨7, "image.png"⟩, 10, 20⟩
    provider := some ⟨8, some ⟨9, "provider"⟩, some ⟨10, "provider.org"⟩⟩
    author := some ⟨11, some ⟨12, "author"⟩, none, none, none⟩
    fields := .block 13
      [⟨14, some ⟨15, "first"⟩, some ⟨16, "1"⟩, true⟩,
        ⟨17, some ⟨18, "second"⟩, some ⟨19, "2"⟩, false⟩] }

theorem textFits_some {s : CStr} (h : s.bytes.toList.length ≤ 4096) : TextFits (some s) := by
  rintro _ ⟨⟩
  exact h

theorem textFits_none : TextFits none := nofun

theorem full_embed_fits : full_embed.Fits where
  title := textFits_some (by decide)
  type := bare_embed_fits.type
  description := textFits_some (by decide)
  url := textFits_none
  timestamp := textFits_some (by decide)
  color := bare_embed_fits.color
  footer := nofun
  image := by
    rintro _ ⟨⟩
    exact ⟨textFits_some (by decide), textFits_some (by decide), by decide, by decide⟩
  thumbnail := nofun
  video := nofun
  provider := by
    rintro _ ⟨⟩
    exact ⟨textFits_some (by decide), textFits_some (by decide)⟩
  author := by
    rintro _ ⟨⟩
    exact ⟨textFits_some (by decide), textFits_none, textFits_none, textFits_none⟩
  fields := by
    intro f hf
    rcases List.mem_cons.mp hf with rfl | hf
    · exact ⟨textFits_some (by decide), textFits_some (by decide)⟩
    · rw [List.mem_singleton.mp hf]
      exact ⟨textFits_some (by decide), textFits_some (by decide)⟩

theorem embed_round_trip_full : RoundTrip full_embed :=
  (embed_round_trip_iff full_embed full_embed_fits).mpr
    { footer := nofun
      image := by
        rintro _ ⟨⟩
        rfl
      thumbnail := nofun
      video := nofun
      provider := by
        rintro _ ⟨⟩ hnone
        cases hnone }

/-- A footer with a text. -/
def text_footer : EmbedFooter where
  address := 2
  text := some ⟨3, "hi"⟩
  icon_url := none
  proxy_icon_url := none

theorem text_footer_fits : text_footer.Fits := by
  refine ⟨?_, nofun, nofun⟩
  rintro _ ⟨⟩
  decide

/-- The text of a footer is lost. -/
theorem footer_lost : ¬ RoundTrip { bare_embed with footer := some (.inl text_footer) } := by
  have hfits : Embed.Fits { bare_embed with footer := some (.inl text_footer) } :=
    { bare_embed_fits with
      footer := by
        rintro _ ⟨⟩
        exact text_footer_fits }
  intro h
  have hback := (json_embed_create_iff hfits).mp ((roundTrip_iff _).mp h)
  have hnone : text_footer.text = none := (hback.footer _ rfl).1
  cases hnone

end DiscoC
