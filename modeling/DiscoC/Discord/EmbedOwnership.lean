import DiscoC.Discord.RecordOwnership

/-! # Ownership of embeds

  An embed with a timestamp is destroyed without it, and its title is freed
  again in its place. The footer of an embed is decoded as an embed.
-/

namespace DiscoC

/-! ### Parts -/

def EmbedMedia.blocks (m : EmbedMedia) : List (Block StructType) :=
  ⟨.embed_media, m.address⟩ :: (string_blocks m.url ++ string_blocks m.proxy_url)

theorem embed_media_owns (data : CJson) :
    Owns [] (_d_json_to_embed_media data) True fun m own => own = m.blocks := by
  apply (Owns.alloc _).seq
  rintro address _ rfl
  iterate 2
    apply (get_string_owns _ _).seq
    rintro s _ rfl
  exact Owns.pure (by simp [EmbedMedia.blocks]) rfl

theorem embed_media_disposes (m : EmbedMedia) :
    Destroys (discord_destroy_embed_media m) m.blocks True := by
  apply Disposes.destroying rfl
  exact (free_string_disposes _).seq fun _ => free_string_disposes _

theorem embed_media_traverses (m : EmbedMedia) :
    Copies (_d_copy_embed_media m) m.blocks True := by
  apply (Traverses.visit _ rfl).seq
  intro _
  apply (Traverses.alloc _).skip
  intro _
  iterate 2
    apply (copy_string_skips _ _).skip
    intro _
  exact Traverses.pure_plain _ (by simp)

def EmbedProvider.blocks (p : EmbedProvider) : List (Block StructType) :=
  ⟨.embed_provider, p.address⟩ :: (string_blocks p.name ++ string_blocks p.url)

theorem embed_provider_owns (data : CJson) :
    Owns [] (_d_json_to_embed_provider data) True fun p own => own = p.blocks := by
  apply (Owns.alloc _).seq
  rintro address _ rfl
  iterate 2
    apply (get_string_owns _ _).seq
    rintro s _ rfl
  exact Owns.pure (by simp [EmbedProvider.blocks]) rfl

theorem embed_provider_disposes (p : EmbedProvider) :
    Destroys (discord_destroy_embed_provider p) p.blocks True := by
  apply Disposes.destroying rfl
  exact (free_string_disposes _).seq fun _ => free_string_disposes _

theorem embed_provider_traverses (p : EmbedProvider) :
    Copies (_d_copy_embed_provider p) p.blocks True := by
  apply (Traverses.visit _ rfl).seq
  intro _
  apply (Traverses.alloc _).skip
  intro _
  iterate 2
    apply (copy_string_skips _ _).skip
    intro _
  exact Traverses.pure_plain _ (by simp)

def EmbedAuthor.blocks (a : EmbedAuthor) : List (Block StructType) :=
  ⟨.embed_author, a.address⟩ :: (string_blocks a.name ++ (string_blocks a.icon_url ++
    (string_blocks a.url ++ string_blocks a.proxy_icon_url)))

theorem embed_author_owns (data : CJson) :
    Owns [] (_d_json_to_embed_author data) True fun a own => own = a.blocks := by
  apply (Owns.alloc _).seq
  rintro address _ rfl
  iterate 4
    apply (get_string_owns _ _).seq
    rintro s _ rfl
  refine Owns.pure ?_ rfl
  -- The icon is decoded after the URL and destroyed before it.
  rw [List.perm_iff_count]
  intro b
  simp only [EmbedAuthor.blocks, List.count_append, List.count_cons, List.count_nil]
  omega

theorem embed_author_disposes (a : EmbedAuthor) :
    Destroys (discord_destroy_embed_author a) a.blocks True := by
  apply Disposes.destroying rfl
  iterate 3
    apply (free_string_disposes _).seq
    intro _
  exact free_string_disposes _

theorem embed_author_traverses (a : EmbedAuthor) :
    Copies (_d_copy_embed_author a) a.blocks True := by
  apply (Traverses.visit _ rfl).seq
  intro _
  apply (Traverses.alloc _).skip
  intro _
  iterate 4
    apply (copy_string_skips _ _).skip
    intro _
  exact Traverses.pure_plain _ (by simp)

def EmbedField.blocks (f : EmbedField) : List (Block StructType) :=
  ⟨.embed_field, f.address⟩ :: (string_blocks f.name ++ string_blocks f.value)

theorem embed_field_owns (data : CJson) :
    Owns [] (_d_json_to_embed_field data) True fun f own => own = f.blocks := by
  apply (Owns.alloc _).seq
  rintro address _ rfl
  iterate 2
    apply (get_string_owns _ _).seq
    rintro s _ rfl
  exact Owns.pure (by simp [EmbedField.blocks]) rfl

theorem embed_field_disposes (f : EmbedField) :
    Destroys (discord_destroy_embed_field f) f.blocks True := by
  apply Disposes.destroying rfl
  exact (free_string_disposes _).seq fun _ => free_string_disposes _

theorem embed_field_traverses (f : EmbedField) :
    Copies (_d_copy_embed_field f) f.blocks True := by
  apply (Traverses.visit _ rfl).seq
  intro _
  apply (Traverses.alloc _).skip
  intro _
  iterate 2
    apply (copy_string_skips _ _).skip
    intro _
  exact Traverses.pure_plain _ (by simp)

/-! ### Embeds -/

/-- A field with media, as it is decoded. -/
abbrev MediaOwn (tmp : Option CJson) (media : Option EmbedMedia)
    (own : List (Block StructType)) : Prop :=
  PointerOwn (fun _ media own => own = media.blocks) tmp media own

/-- The parts that an embed is made of. -/
structure EmbedParts (data : CJson) (e : Embed) where
  footer : List (Block StructType)
  image : List (Block StructType)
  thumbnail : List (Block StructType)
  video : List (Block StructType)
  provider : List (Block StructType)
  author : List (Block StructType)
  fields : List (Block StructType)
  timestamp : e.timestamp = none ↔ cJSON_IsString (cJSON_GetObjectItem data "timestamp") = none
  footer_own : PointerOwn (fun _ p _ => StoredAs EmbedFooter p)
    (cJSON_GetObjectItem data "footer") e.footer footer
  image_own : MediaOwn (cJSON_GetObjectItem data "image") e.image image
  thumbnail_own : MediaOwn (cJSON_GetObjectItem data "thumbnail") e.thumbnail thumbnail
  video_own : MediaOwn (cJSON_GetObjectItem data "video") e.video video
  provider_own : PointerOwn (fun _ p own => own = p.blocks) (cJSON_GetObjectItem data "provider")
    e.provider provider
  author_own : PointerOwn (fun _ a own => own = a.blocks) (cJSON_GetObjectItem data "author")
    e.author author
  fields_own : ArrayOwn (fun _ f own => own = f.blocks) (cJSON_GetObjectItem data "fields")
    e.fields fields

namespace EmbedParts

variable {data : CJson} {e : Embed}

/-- The blocks of an embed, with `timestamp` in place of those of the
    timestamp. -/
def blocks_with (p : EmbedParts data e) (timestamp : List (Block StructType)) :
    List (Block StructType) :=
  ⟨.embed, e.address⟩ :: (string_blocks e.title ++ (string_blocks e.type ++
    (string_blocks e.description ++ (string_blocks e.url ++ (timestamp ++ (p.footer ++ (p.image ++
      (p.thumbnail ++ (p.video ++ (p.provider ++ (p.author ++ p.fields)))))))))))

def blocks (p : EmbedParts data e) : List (Block StructType) :=
  p.blocks_with (string_blocks e.timestamp)

theorem blocks_with_perm (p : EmbedParts data e) (timestamp : List (Block StructType)) :
    (p.blocks_with timestamp).Perm (timestamp ++ p.blocks_with []) := by
  rw [List.perm_iff_count]
  intro b
  simp only [blocks_with, List.count_append, List.count_cons, List.count_nil]
  omega

theorem mem_blocks_of_title (p : EmbedParts data e) {s : CStr} (h : e.title = some s) :
    ⟨.chars, s.address⟩ ∈ p.blocks_with [] := by
  simp [blocks_with, h, string_blocks]

/-- What is freed in place of the timestamp. -/
def freed (e : Embed) : List (Block StructType) :=
  if e.timestamp.isSome then string_blocks e.title else []

theorem free_timestamp_disposes (e : Embed) : Destroys (free_timestamp e) (freed e) True := by
  unfold free_timestamp freed
  split
  · exact free_string_disposes _
  · exact Disposes.pure ()

theorem disposes (p : EmbedParts data e) :
    Destroys (discord_destroy_embed e) (p.blocks_with (freed e))
      (cJSON_GetObjectItem data "footer" = none) := by
  rw [← forall_not_some_iff, ← and_true (∀ c, _ → False)]
  apply Disposes.destroying rfl
  iterate 4
    apply (free_string_disposes _).seq
    intro _
  apply (free_timestamp_disposes e).seq
  intro _
  -- the footer has been decoded as an embed, so no routine fits it
  apply (destroy_pointer_disposes p.footer_own fun c f own h => h.disposes _ own).bind
  intro _
  apply (destroy_pointer_disposes_all p.image_own fun c m own h => h ▸ embed_media_disposes m).seq
  intro _
  apply (destroy_pointer_disposes_all p.thumbnail_own fun c m own h =>
    h ▸ embed_media_disposes m).seq
  intro _
  apply (destroy_pointer_disposes_all p.video_own fun c m own h => h ▸ embed_media_disposes m).seq
  intro _
  apply (destroy_pointer_disposes_all p.provider_own fun c m own h =>
    h ▸ embed_provider_disposes m).seq
  intro _
  apply (destroy_pointer_disposes_all p.author_own fun c a own h =>
    h ▸ embed_author_disposes a).seq
  intro _
  exact destroy_array_disposes_all p.fields_own fun c f own h => h ▸ embed_field_disposes f

theorem traverses (p : EmbedParts data e) :
    Copies (_d_copy_embed e) p.blocks (cJSON_GetObjectItem data "footer" = none) := by
  have h : Copies (_d_copy_embed e) (⟨.embed, e.address⟩ :: (p.footer ++ (p.image ++
      (p.thumbnail ++ (p.video ++ (p.provider ++ (p.author ++ (p.fields ++
        (string_blocks e.title ++ (string_blocks e.type ++ (string_blocks e.description ++
          (string_blocks e.url ++ string_blocks e.timestamp))))))))))))
      ((∀ c, cJSON_GetObjectItem data "footer" = some c → False) ∧ True) := by
    apply (Traverses.visit _ rfl).seq
    intro _
    apply (Traverses.alloc _).skip
    intro _
    iterate 5
      apply (copy_string_skips _ _).skip
      intro _
    -- the footer is the one part with a condition
    apply (copy_pointer_traverses p.footer_own fun c f own h => h.traverses _ own).bind
    intro _
    apply (copy_pointer_traverses_all p.image_own fun c m own h => h ▸ embed_media_traverses m).seq
    intro _
    apply (copy_pointer_traverses_all p.thumbnail_own fun c m own h =>
      h ▸ embed_media_traverses m).seq
    intro _
    apply (copy_pointer_traverses_all p.video_own fun c m own h => h ▸ embed_media_traverses m).seq
    intro _
    apply (copy_pointer_traverses_all p.provider_own fun c m own h =>
      h ▸ embed_provider_traverses m).seq
    intro _
    apply (copy_pointer_traverses_all p.author_own fun c a own h =>
      h ▸ embed_author_traverses a).seq
    intro _
    apply (copy_array_traverses_all p.fields_own fun c f own h => h ▸ embed_field_traverses f).seq
    intro _
    exact Traverses.pure_plain _ (by simp)
  apply (h.perm _).congr
  · rw [forall_not_some_iff, and_true]
  · rw [List.perm_iff_count]
    intro b
    simp only [blocks, blocks_with, List.count_append, List.count_cons]
    omega

end EmbedParts

/-- Decoding an embed. -/
theorem embed_owns (data : CJson) :
    Owns [] (_d_json_to_embed data) True fun e own =>
      ∃ p : EmbedParts data e, own.Perm p.blocks := by
  -- a footer is decoded as an embed, so the induction is on the tree
  have ih : ∀ c, cJSON_GetObjectItem data "footer" = some c →
      Owns [] (_d_json_to_embed c) True fun _ _ => True := by
    intro c hc
    have : sizeOf c < sizeOf data := sizeOf_item hc
    exact (embed_owns c).mono fun _ _ _ => trivial
  rw [_d_json_to_embed]
  apply (Owns.alloc _).seq
  rintro address _ rfl
  iterate 4
    apply (get_string_owns _ _).seq
    rintro s _ rfl
  apply (get_string_owns_iff _ _).seq
  rintro timestamp _ ⟨rfl, htimestamp⟩
  apply (pointer_owns_total fun c hc => stored_owns (ih c hc)).seq
  intro footer own_footer hfooter
  apply (pointer_owns_total fun c _ => embed_media_owns c).seq
  intro image own_image himage
  apply (pointer_owns_total fun c _ => embed_media_owns c).seq
  intro thumbnail own_thumbnail hthumbnail
  apply (pointer_owns_total fun c _ => embed_media_owns c).seq
  intro video own_video hvideo
  apply (pointer_owns_total fun c _ => embed_provider_owns c).seq
  intro provider own_provider hprovider
  apply (pointer_owns_total fun c _ => embed_author_owns c).seq
  intro author own_author hauthor
  apply (array_owns_total fun c _ => embed_field_owns c).seq
  intro fields own_fields hfields
  refine Owns.pure (.refl _) ⟨⟨own_footer, own_image, own_thumbnail, own_video, own_provider,
    own_author, own_fields, htimestamp, hfooter, himage, hthumbnail, hvideo, hprovider, hauthor,
    hfields⟩, ?_⟩
  simp [EmbedParts.blocks, EmbedParts.blocks_with]
termination_by sizeOf data

end DiscoC
