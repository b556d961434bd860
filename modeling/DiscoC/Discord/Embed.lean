import DiscoC.Discord.Disco

/-! # Embeds

  Model of `discord/embed.c`. The footer of an embed is stored through
  `void *`: it is declared as a footer, but it is decoded as an embed.
-/

namespace DiscoC

/-! ### Data -/

/-- `struct discord_embed_footer` -/
structure EmbedFooter where
  address : Nat
  text : Option CStr
  icon_url : Option CStr
  proxy_icon_url : Option CStr

/-- `struct discord_embed_media` -/
structure EmbedMedia where
  address : Nat
  url : Option CStr
  proxy_url : Option CStr
  height : Int
  width : Int

/-- `struct discord_embed_provider` -/
structure EmbedProvider where
  address : Nat
  name : Option CStr
  url : Option CStr

/-- `struct discord_embed_author` -/
structure EmbedAuthor where
  address : Nat
  name : Option CStr
  url : Option CStr
  icon_url : Option CStr
  proxy_icon_url : Option CStr

/-- `struct discord_embed_field` -/
structure EmbedField where
  address : Nat
  name : Option CStr
  value : Option CStr
  _inline : Bool

/-- `struct discord_embed` -/
structure Embed where
  address : Nat
  title : Option CStr
  type : Option CStr
  description : Option CStr
  url : Option CStr
  timestamp : Option CStr
  color : Int
  /-- a footer, or the structure that is stored as one -/
  footer : Option (EmbedFooter ⊕ Embed)
  image : Option EmbedMedia
  thumbnail : Option EmbedMedia
  video : Option EmbedMedia
  provider : Option EmbedProvider
  author : Option EmbedAuthor
  fields : CArray EmbedField

/-! ### Parts -/

/-- `_d_copy_embed_footer`, of a footer that is not null. -/
def _d_copy_embed_footer (src : EmbedFooter) : CMem EmbedFooter := do
  Mem.visit .embed_footer ⟨.embed_footer, src.address⟩
  let address ← Mem.alloc .embed_footer
  let text ← copy_string src.text 2050
  let icon_url ← copy_string src.icon_url 2050
  let proxy_icon_url ← copy_string src.proxy_icon_url 2050
  pure { address, text, icon_url, proxy_icon_url }

/-- `discord_destroy_embed_footer`. -/
def discord_destroy_embed_footer (footer : EmbedFooter) : CMem Unit :=
  Mem.destroying .embed_footer footer.address do
    free_string footer.text
    free_string footer.icon_url
    free_string footer.proxy_icon_url

/-- `_d_json_to_embed_media`. Both URLs are read from the same field. -/
def _d_json_to_embed_media (data : CJson) : CMem EmbedMedia := do
  let address ← Mem.alloc .embed_media
  let url ← _d_get_string_from_json data "url"
  let proxy_url ← _d_get_string_from_json data "url"
  pure {
    address, url, proxy_url
    height := _d_get_int_from_json data "height" (-1)
    width := _d_get_int_from_json data "width" (-1) }

/-- `_d_copy_embed_media`, of a structure that is not null. -/
def _d_copy_embed_media (src : EmbedMedia) : CMem EmbedMedia := do
  Mem.visit .embed_media ⟨.embed_media, src.address⟩
  let address ← Mem.alloc .embed_media
  let url ← copy_string src.url 2050
  let proxy_url ← copy_string src.proxy_url 2050
  pure { address, url, proxy_url, height := src.height, width := src.width }

/-- `discord_destroy_embed_media`. -/
def discord_destroy_embed_media (media : EmbedMedia) : CMem Unit :=
  Mem.destroying .embed_media media.address do
    free_string media.url
    free_string media.proxy_url

/-- `_d_json_to_embed_provider`. -/
def _d_json_to_embed_provider (data : CJson) : CMem EmbedProvider := do
  let address ← Mem.alloc .embed_provider
  let name ← _d_get_string_from_json data "name"
  let url ← _d_get_string_from_json data "url"
  pure { address, name, url }

/-- `_d_copy_embed_provider`, of a structure that is not null. -/
def _d_copy_embed_provider (src : EmbedProvider) : CMem EmbedProvider := do
  Mem.visit .embed_provider ⟨.embed_provider, src.address⟩
  let address ← Mem.alloc .embed_provider
  let name ← copy_string src.name 2050
  let url ← copy_string src.url 2050
  pure { address, name, url }

/-- `discord_destroy_embed_provider`. -/
def discord_destroy_embed_provider (provider : EmbedProvider) : CMem Unit :=
  Mem.destroying .embed_provider provider.address do
    free_string provider.name
    free_string provider.url

/-- `_d_json_to_embed_author`. -/
def _d_json_to_embed_author (data : CJson) : CMem EmbedAuthor := do
  let address ← Mem.alloc .embed_author
  let name ← _d_get_string_from_json data "name"
  let url ← _d_get_string_from_json data "url"
  let icon_url ← _d_get_string_from_json data "icon_url"
  let proxy_icon_url ← _d_get_string_from_json data "proxy_icon_url"
  pure { address, name, url, icon_url, proxy_icon_url }

/-- `_d_copy_embed_author`, of a structure that is not null. -/
def _d_copy_embed_author (src : EmbedAuthor) : CMem EmbedAuthor := do
  Mem.visit .embed_author ⟨.embed_author, src.address⟩
  let address ← Mem.alloc .embed_author
  let name ← copy_string src.name 257
  let url ← copy_string src.url 2050
  let icon_url ← copy_string src.icon_url 2050
  let proxy_icon_url ← copy_string src.proxy_icon_url 2050
  pure { address, name, url, icon_url, proxy_icon_url }

/-- `discord_destroy_embed_author`. -/
def discord_destroy_embed_author (author : EmbedAuthor) : CMem Unit :=
  Mem.destroying .embed_author author.address do
    free_string author.name
    free_string author.icon_url
    free_string author.url
    free_string author.proxy_icon_url

/-- `_d_json_to_embed_field`. -/
def _d_json_to_embed_field (data : CJson) : CMem EmbedField := do
  let address ← Mem.alloc .embed_field
  let name ← _d_get_string_from_json data "name"
  let value ← _d_get_string_from_json data "value"
  pure { address, name, value, _inline := _d_get_bool_from_json data "inline" false }

/-- `_d_copy_embed_field`, of a structure that is not null. -/
def _d_copy_embed_field (src : EmbedField) : CMem EmbedField := do
  Mem.visit .embed_field ⟨.embed_field, src.address⟩
  let address ← Mem.alloc .embed_field
  let name ← copy_string src.name 257
  let value ← copy_string src.value 1025
  pure { address, name, value, _inline := src._inline }

/-- `discord_destroy_embed_field`. -/
def discord_destroy_embed_field (field : EmbedField) : CMem Unit :=
  Mem.destroying .embed_field field.address do
    free_string field.name
    free_string field.value

/-! ### Embeds -/

/-- `_d_json_to_embed`. -/
def _d_json_to_embed (data : CJson) : CMem Embed := do
  let address ← Mem.alloc .embed
  let title ← _d_get_string_from_json data "title"
  let type ← _d_get_string_from_json data "type"
  let description ← _d_get_string_from_json data "description"
  let url ← _d_get_string_from_json data "url"
  let timestamp ← _d_get_string_from_json data "timestamp"
  let footer ← Mem.unless_null (cJSON_GetObjectItem data "footer") fun tmp h => do
    have : sizeOf tmp < sizeOf data := sizeOf_item h
    -- The footer is decoded by the routine for embeds.
    let footer ← _d_json_to_embed tmp
    pure (.inr footer)
  let image ← Mem.unless_null (cJSON_GetObjectItem data "image") fun tmp _ =>
    _d_json_to_embed_media tmp
  let thumbnail ← Mem.unless_null (cJSON_GetObjectItem data "thumbnail") fun tmp _ =>
    _d_json_to_embed_media tmp
  let video ← Mem.unless_null (cJSON_GetObjectItem data "video") fun tmp _ =>
    _d_json_to_embed_media tmp
  let provider ← Mem.unless_null (cJSON_GetObjectItem data "provider") fun tmp _ =>
    _d_json_to_embed_provider tmp
  let author ← Mem.unless_null (cJSON_GetObjectItem data "author") fun tmp _ =>
    _d_json_to_embed_author tmp
  let fields ← _d_get_array_from_json data "fields" fun cur _ => _d_json_to_embed_field cur
  pure {
    address, title, type, description, url, timestamp, footer, image, thumbnail, video
    provider, author, fields
    color := _d_get_int_from_json data "color" 0 }
termination_by data

/-- `_d_copy_embed`, of an embed that is not null. -/
def _d_copy_embed (src : Embed) : CMem Embed := do
  Mem.visit .embed ⟨.embed, src.address⟩
  let address ← Mem.alloc .embed
  let title ← copy_string src.title 257
  let type ← copy_string src.type 20
  let description ← copy_string src.description 4097
  let url ← copy_string src.url 2050
  let timestamp ← copy_string src.timestamp 50
  let footer ← Mem.unless_null src.footer fun footer _ =>
    Mem.declared _d_copy_embed_footer footer
  let image ← Mem.unless_null src.image fun media _ => _d_copy_embed_media media
  let thumbnail ← Mem.unless_null src.thumbnail fun media _ => _d_copy_embed_media media
  let video ← Mem.unless_null src.video fun media _ => _d_copy_embed_media media
  let provider ← Mem.unless_null src.provider fun provider _ => _d_copy_embed_provider provider
  let author ← Mem.unless_null src.author fun author _ => _d_copy_embed_author author
  let fields ← copy_array src.fields fun field _ => _d_copy_embed_field field
  pure { src with
    address, title, type, description, url, timestamp, image, thumbnail, video
    provider, author, fields
    footer := footer.map .inl }

/-- `if (embed->timestamp) free(embed->title)`. -/
def free_timestamp (embed : Embed) : CMem Unit :=
  if embed.timestamp.isSome then
    free_string embed.title
  else
    pure ()

/-- `discord_destroy_embed`. -/
def discord_destroy_embed (embed : Embed) : CMem Unit :=
  Mem.destroying .embed embed.address do
    free_string embed.title
    free_string embed.type
    free_string embed.description
    free_string embed.url
    free_timestamp embed
    destroy_pointer embed.footer fun footer _ =>
      Mem.declared discord_destroy_embed_footer footer
    destroy_pointer embed.image fun media _ => discord_destroy_embed_media media
    destroy_pointer embed.thumbnail fun media _ => discord_destroy_embed_media media
    destroy_pointer embed.video fun media _ => discord_destroy_embed_media media
    destroy_pointer embed.provider fun provider _ => discord_destroy_embed_provider provider
    destroy_pointer embed.author fun author _ => discord_destroy_embed_author author
    destroy_array embed.fields fun field _ => discord_destroy_embed_field field

end DiscoC
