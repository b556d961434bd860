import DiscoC.Discord.Disco

/-! # Users and members

  Model of `discord/user.c`.
-/

namespace DiscoC

/-! ### Data -/

/-- `struct discord_user` -/
structure User where
  address : Nat
  id : UInt64
  username : Option CStr
  discriminator : Option CStr
  avatar : Option CStr
  bot : Bool
  system : Bool
  mfa_enabled : Bool
  banner : Option CStr
  accent_color : Int
  locale : Option CStr
  verified : Bool
  email : Option CStr
  flags : Int
  premium_type : Int
  public_flags : Int

/-- `struct discord_member` -/
structure Member where
  address : Nat
  /-- user structure if given -/
  user : Option User
  /-- guild nickname; null if the member has no nickname -/
  nick : Option CStr
  avatar : Option CStr
  /-- the roles the member has -/
  roles : CArray UInt64
  joined_at : Option CStr
  premium_since : Option CStr
  deaf : Bool
  mute : Bool
  pending : Bool
  permissions : Option CStr
  communication_disabled_until : Option CStr

/-! ### Users -/

/-- `_d_json_to_user`. -/
def _d_json_to_user (data : CJson) : CMem User := do
  let address ← Mem.alloc .user
  let username ← _d_get_string_from_json data "username"
  let discriminator ← _d_get_string_from_json data "discriminator"
  let avatar ← _d_get_string_from_json data "avatar"
  let banner ← _d_get_string_from_json data "banner"
  let locale ← _d_get_string_from_json data "locale"
  let email ← _d_get_string_from_json data "email"
  pure {
    address, username, discriminator, avatar, banner, locale, email
    id := _d_get_long_from_string_json data "id" 0
    bot := _d_get_bool_from_json data "bot" false
    system := _d_get_bool_from_json data "system" false
    mfa_enabled := _d_get_bool_from_json data "mfa_enabled" false
    accent_color := _d_get_int_from_json data "accent_color" 0
    verified := _d_get_bool_from_json data "verified" false
    flags := _d_get_int_from_json data "flags" 0
    premium_type := _d_get_int_from_json data "premium_type" 0
    public_flags := _d_get_int_from_json data "public_flags" 0 }

/-- `_d_copy_user`, of a user that is not null. -/
def _d_copy_user (src : User) : CMem User := do
  Mem.visit .user ⟨.user, src.address⟩
  let address ← Mem.alloc .user
  let username ← copy_string src.username 50
  let discriminator ← copy_string src.discriminator 5
  let avatar ← copy_string src.avatar 100
  let banner ← copy_string src.banner 100
  let locale ← copy_string src.locale 10
  let email ← copy_string src.email 100
  pure { src with address, username, discriminator, avatar, banner, locale, email }

/-- `discord_destroy_user`. -/
def discord_destroy_user (user : User) : CMem Unit :=
  Mem.destroying .user user.address do
    free_string user.username
    free_string user.discriminator
    free_string user.avatar
    free_string user.banner
    free_string user.locale
    free_string user.email

/-! ### Members -/

/-- The user of a member. Where there is no user structure yet, the user
    information might be in the document of the member. -/
def member_user (data : CJson) : Option User → CMem (Option User)
  | some user => pure (some user)
  | none => Mem.unless_null (cJSON_GetObjectItem data "user") fun tmp _ => _d_json_to_user tmp

/-- `_d_json_to_member`, with the user structure if there already is one. -/
def _d_json_to_member (data : CJson) (user : Option User) : CMem Member := do
  let address ← Mem.alloc .member
  let user ← member_user data user
  let nick ← _d_get_string_from_json data "nick"
  let avatar ← _d_get_string_from_json data "avatar"
  let roles ← array_from_items (cJSON_GetObjectItem data "roles") fun cur _ => read_id cur
  let joined_at ← _d_get_string_from_json data "joined_at"
  let premium_since ← _d_get_string_from_json data "premium_since"
  let permissions ← _d_get_string_from_json data "permissions"
  let communication_disabled_until ←
    _d_get_string_from_json data "communication_disabled_until"
  pure {
    address, user, nick, avatar, roles, joined_at, premium_since, permissions
    communication_disabled_until
    deaf := _d_get_bool_from_json data "deaf" false
    mute := _d_get_bool_from_json data "mute" false
    pending := _d_get_bool_from_json data "pending" false }

/-- `_d_copy_member`, of a member that is not null. The copy gets `user`,
    which is not copied again. -/
def _d_copy_member (src : Member) (user : Option User) : CMem Member := do
  Mem.visit .member ⟨.member, src.address⟩
  let address ← Mem.alloc .member
  let nick ← copy_string src.nick 50
  let avatar ← copy_string src.avatar 100
  let roles ← copy_array src.roles fun role _ => pure role
  let joined_at ← copy_string src.joined_at 50
  let premium_since ← copy_string src.premium_since 50
  let permissions ← copy_string src.permissions 50
  let communication_disabled_until ← copy_string src.communication_disabled_until 50
  pure { src with
    address, user, nick, avatar, roles, joined_at, premium_since, permissions
    communication_disabled_until }

/-- `discord_destroy_member`. -/
def discord_destroy_member (mem : Member) : CMem Unit :=
  Mem.destroying .member mem.address do
    free_string mem.nick
    free_string mem.avatar
    free_string mem.joined_at
    free_string mem.premium_since
    free_string mem.permissions
    free_string mem.communication_disabled_until
    free_array mem.roles
    destroy_pointer mem.user fun user _ => discord_destroy_user user

/-- The user is destroyed with the member, if there is one. -/
def destroy_author : Option Member → Option User → CMem Unit
  | some member, _ => discord_destroy_member member
  | none, user => destroy_pointer user fun user _ => discord_destroy_user user

end DiscoC
