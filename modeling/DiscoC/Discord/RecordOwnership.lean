import DiscoC.Discord.Message

/-! # Ownership of the plain structures

  The structures that hold no structure of their own kind: what blocks each of
  them is made of, that its decoder builds it of these, that its destroyer
  gives up all of them, and that its copier goes through each structure among
  them.
-/

namespace DiscoC

/-- The routine gives up `own`, if and only if `G`. -/
abbrev Destroys {α : Type} (x : CMem α) (own : List (Block StructType)) (G : Prop) : Prop :=
  Disposes StructType.has_routine x own G

/-- The routine goes through the structures among `own`, if and only if `G`. -/
abbrev Copies {α : Type} (x : CMem α) (own : List (Block StructType)) (G : Prop) : Prop :=
  Traverses StructType.has_routine x own G

/-! ### Strings and arrays -/

section
variable {α β : Type} {D G : Prop} {own : List (Block StructType)}

@[simp] theorem structs_string (s : Option CStr) :
    structs StructType.has_routine (string_blocks s) = [] := by
  cases s <;> rfl

@[simp] theorem structs_array (array : CArray α) :
    structs StructType.has_routine array.blocks = [] := by
  cases array <;> rfl

theorem new_string_owns (s : String) (n : Nat) :
    Owns [] (new_string s n) True fun c own => own = string_blocks (some c) := by
  unfold new_string
  apply (Owns.alloc _).seq
  rintro address _ rfl
  exact Owns.pure (.refl _) rfl

theorem get_string_owns_iff (data : CJson) (name : String) :
    Owns [] (_d_get_string_from_json data name) True fun s own => own = string_blocks s ∧
      (s = none ↔ cJSON_IsString (cJSON_GetObjectItem data name) = none) := by
  refine Owns.congr (Owns.unless_null (fun h => ⟨rfl, iff_of_true rfl h⟩) fun s hs =>
    (new_string_owns s 4097).mono fun c own h => ⟨h, ?_⟩) (by simp)
  rw [hs]
  exact iff_of_false (Option.some_ne_none c) (Option.some_ne_none s)

theorem get_string_owns (data : CJson) (name : String) :
    Owns [] (_d_get_string_from_json data name) True fun s own => own = string_blocks s :=
  (get_string_owns_iff data name).mono fun _ _ h => h.1

theorem free_string_disposes (s : Option CStr) :
    Destroys (free_string s) (string_blocks s) True := by
  cases s with
  | none => exact Disposes.pure ()
  | some s => exact Disposes.free rfl

/-- Copying a string goes through no structure. -/
theorem copy_string_skips (s : Option CStr) (n : Nat) : Copies (copy_string s n) [] True := by
  cases s with
  | none => exact Traverses.pure none
  | some s =>
    apply Traverses.skip (Traverses.skip (Traverses.alloc _) fun _ => Traverses.pure _)
    intro c
    exact Traverses.pure _

/-- An array is made of its own block and those of its items. -/
def ArrayOwn (R : CJson → α → List (Block StructType) → Prop) (tmp : Option CJson)
    (array : CArray α) (own : List (Block StructType)) : Prop :=
  ∃ items, Each R (cJSON_ArrayItems tmp) array.items items ∧ own = array.blocks ++ items

theorem array_owns {tmp : Option CJson} {func : (c : CJson) → c ∈ cJSON_ArrayItems tmp → CMem α}
    {E : CJson → Prop} {R : CJson → α → List (Block StructType) → Prop}
    (h : ∀ c hc, Owns [] (func c hc) (E c) (R c)) :
    Owns [] (array_from_items tmp func) (∀ c ∈ cJSON_ArrayItems tmp, E c) (ArrayOwn R tmp) := by
  unfold array_from_items
  split
  next hsize =>
    rw [cJSON_ArrayItems_of_size hsize]
    refine (Owns.pure (.refl _) ⟨[], ?_, rfl⟩).congr (by simp)
    rw [cJSON_ArrayItems_of_size hsize]
    exact .nil
  next hsize =>
    apply (Owns.alloc _).seq
    rintro address _ rfl
    apply (Owns.each h).bind_total
    intro items own hitems
    exact Owns.pure (.refl _) ⟨own, hitems, rfl⟩

/-- Each item is always decoded. -/
theorem array_owns_total {tmp : Option CJson}
    {func : (c : CJson) → c ∈ cJSON_ArrayItems tmp → CMem α}
    {R : CJson → α → List (Block StructType) → Prop} (h : ∀ c hc, Owns [] (func c hc) True (R c)) :
    Owns [] (array_from_items tmp func) True (ArrayOwn R tmp) :=
  (array_owns h).congr (by simp)

theorem free_array_disposes (array : CArray α) : Destroys (free_array array) array.blocks True := by
  cases array with
  | null => exact Disposes.pure ()
  | block address items => exact Disposes.free rfl

/-- An array is given up when each of its items is. -/
theorem destroy_array_disposes {R : CJson → α → List (Block StructType) → Prop}
    {tmp : Option CJson} {array : CArray α} {destroy : α → CMem Unit} {E : CJson → Prop}
    (hown : ArrayOwn R tmp array own)
    (h : ∀ c a own, R c a own → Destroys (destroy a) own (E c)) :
    Destroys (destroy_array array fun a _ => destroy a) own
      (∀ c ∈ cJSON_ArrayItems tmp, E c) := by
  obtain ⟨items, hitems, rfl⟩ := hown
  refine Disposes.perm ?_ List.perm_append_comm
  exact ((Disposes.each h hitems).bind fun _ => free_array_disposes array).congr (by simp)

theorem destroy_array_disposes_all {R : CJson → α → List (Block StructType) → Prop}
    {tmp : Option CJson} {array : CArray α} {destroy : α → CMem Unit}
    (hown : ArrayOwn R tmp array own) (h : ∀ c a own, R c a own → Destroys (destroy a) own True) :
    Destroys (destroy_array array fun a _ => destroy a) own True :=
  (destroy_array_disposes hown h).congr (by simp)

/-- The structures below an array are gone through when each of its items
    is. -/
theorem copy_array_traverses {R : CJson → α → List (Block StructType) → Prop}
    {tmp : Option CJson} {array : CArray α} {copy : α → CMem β} {E : CJson → Prop}
    (hown : ArrayOwn R tmp array own)
    (h : ∀ c a own, R c a own → Copies (copy a) own (E c)) :
    Copies (copy_array array fun a _ => copy a) own (∀ c ∈ cJSON_ArrayItems tmp, E c) := by
  obtain ⟨items, hitems, rfl⟩ := hown
  have hloop := Traverses.each h hitems
  cases array with
  | null =>
    generalize cJSON_ArrayItems tmp = js at hitems
    cases hitems with
    | nil => exact (Traverses.pure _).congr (by simp)
  | block address as =>
    apply Traverses.skip (Traverses.alloc _)
    intro copied
    refine Traverses.perm ?_ List.perm_append_comm
    refine (hloop.bind fun copies => Traverses.pure_plain _ ?_).congr (by simp)
    exact structs_array _

theorem copy_array_traverses_all {R : CJson → α → List (Block StructType) → Prop}
    {tmp : Option CJson} {array : CArray α} {copy : α → CMem β}
    (hown : ArrayOwn R tmp array own) (h : ∀ c a own, R c a own → Copies (copy a) own True) :
    Copies (copy_array array fun a _ => copy a) own True :=
  (copy_array_traverses hown h).congr (by simp)

/-- An array whose items have no blocks. -/
theorem ArrayOwn.plain {tmp : Option CJson} {array : CArray α}
    (h : ArrayOwn (fun _ _ own => own = []) tmp array own) : own = array.blocks := by
  obtain ⟨items, hitems, rfl⟩ := h
  rw [hitems.own_nil, List.append_nil]

/-- Copying an array goes through no structure when copying the items does
    not. -/
theorem copy_array_skips {copy : α → CMem β} (h : ∀ a, Copies (copy a) [] True)
    (array : CArray α) : Copies (copy_array array fun a _ => copy a) [] True := by
  cases array with
  | null => exact Traverses.pure _
  | block address as =>
    apply (Traverses.alloc _).skip
    intro copied
    exact (Traverses.each_skips h as).skip fun _ => Traverses.pure _

/-- Destroying an array frees only the array when nothing is freed for the
    items. -/
theorem destroy_plain_array_disposes {destroy : α → CMem Unit}
    (h : ∀ a, Destroys (destroy a) [] True) (array : CArray α) :
    Destroys (destroy_array array fun a _ => destroy a) array.blocks True :=
  (Disposes.each_skips h _).skip fun _ => free_array_disposes array

/-- The null array has no items. -/
theorem destroy_null_array_disposes {destroy : α → CMem Unit} {array : CArray α}
    (h : array = .null) : Destroys (destroy_array array fun a _ => destroy a) [] True := by
  rw [h]
  exact Disposes.skip (Disposes.pure []) fun _ => Disposes.pure ()

theorem copy_null_array_skips {copy : α → CMem β} {array : CArray α} (h : array = .null) :
    Copies (copy_array array fun a _ => copy a) [] True := by
  rw [h]
  exact Traverses.pure _

/-- A string is read as an id. -/
def is_id (c : CJson) : Prop := c.valuestring.isSome

theorem read_id_owns (c : CJson) : Owns [] (read_id c) (is_id c) fun _ own => own = [] := by
  unfold read_id is_id
  cases c.valuestring with
  | none =>
    refine Owns.congr Mem.Spec.undefined ?_
    simp
  | some s =>
    refine Owns.congr (Owns.pure (.refl _) rfl) ?_
    simp

/-! ### Pointers -/

/-- What a pointer field points to is made of its blocks. -/
inductive PointerOwn (R : CJson → α → List (Block StructType) → Prop) :
    Option CJson → Option α → List (Block StructType) → Prop where
  | null : PointerOwn R none none []
  | pointer {c : CJson} {a : α} {own : List (Block StructType)} :
      R c a own → PointerOwn R (some c) (some a) own

theorem pointer_owns {tmp : Option CJson} {func : (c : CJson) → tmp = some c → CMem α}
    {E : CJson → Prop} {R : CJson → α → List (Block StructType) → Prop}
    (h : ∀ c hc, Owns [] (func c hc) (E c) (R c)) :
    Owns [] (Mem.unless_null tmp func) (∀ c, tmp = some c → E c) (PointerOwn R tmp) := by
  apply Owns.unless_null
  · intro hnone
    rw [hnone]
    exact .null
  · intro c hc
    apply (h c hc).mono
    intro a own ha
    rw [hc]
    exact .pointer ha

theorem pointer_owns_total {tmp : Option CJson} {func : (c : CJson) → tmp = some c → CMem α}
    {R : CJson → α → List (Block StructType) → Prop} (h : ∀ c hc, Owns [] (func c hc) True (R c)) :
    Owns [] (Mem.unless_null tmp func) True (PointerOwn R tmp) :=
  (pointer_owns h).congr (by simp)

theorem destroy_pointer_disposes {R : CJson → α → List (Block StructType) → Prop}
    {tmp : Option CJson} {p : Option α} {destroy : α → CMem Unit} {E : CJson → Prop}
    (hown : PointerOwn R tmp p own) (h : ∀ c a own, R c a own → Destroys (destroy a) own (E c)) :
    Destroys (destroy_pointer p fun a _ => destroy a) own (∀ c, tmp = some c → E c) := by
  cases hown with
  | null => exact (Disposes.skip (Disposes.pure _) fun _ => Disposes.pure _).congr (by simp)
  | pointer ha =>
    exact (((h _ _ _ ha).ret some).ret fun _ => ()).congr (by simp)

theorem destroy_pointer_disposes_all {R : CJson → α → List (Block StructType) → Prop}
    {tmp : Option CJson} {p : Option α} {destroy : α → CMem Unit}
    (hown : PointerOwn R tmp p own) (h : ∀ c a own, R c a own → Destroys (destroy a) own True) :
    Destroys (destroy_pointer p fun a _ => destroy a) own True :=
  (destroy_pointer_disposes hown h).congr (by simp)

theorem copy_pointer_traverses {R : CJson → α → List (Block StructType) → Prop}
    {tmp : Option CJson} {p : Option α} {copy : α → CMem β} {E : CJson → Prop}
    (hown : PointerOwn R tmp p own) (h : ∀ c a own, R c a own → Copies (copy a) own (E c)) :
    Copies (Mem.unless_null p fun a _ => copy a) own (∀ c, tmp = some c → E c) := by
  cases hown with
  | null => exact (Traverses.pure _).congr (by simp)
  | pointer ha =>
    exact ((h _ _ _ ha).ret some).congr (by simp)

theorem copy_pointer_traverses_all {R : CJson → α → List (Block StructType) → Prop}
    {tmp : Option CJson} {p : Option α} {copy : α → CMem β}
    (hown : PointerOwn R tmp p own) (h : ∀ c a own, R c a own → Copies (copy a) own True) :
    Copies (Mem.unless_null p fun a _ => copy a) own True :=
  (copy_pointer_traverses hown h).congr (by simp)

theorem destroy_null_pointer_disposes {destroy : α → CMem Unit} {p : Option α} (h : p = none) :
    Destroys (destroy_pointer p fun a _ => destroy a) [] True := by
  rw [h]
  exact Disposes.skip (Disposes.pure none) fun _ => Disposes.pure ()

theorem copy_null_pointer_skips {copy : α → CMem β} {p : Option α} (h : p = none) :
    Copies (Mem.unless_null p fun a _ => copy a) [] True := by
  rw [h]
  exact Traverses.pure _

/-- A block that is left alone is lost. -/
theorem disposes_lost {x : CMem α} {H : Prop} (h : Destroys x own G) (b : Block StructType)
    (hH : ¬ H) : Destroys x (b :: own) H := by
  refine (h.leak.perm List.perm_append_comm).congr (?_ : G ∧ [b] = [] ↔ H)
  simp [hH]

end

/-! ### Structures stored as another type -/

/-- A structure that is stored as another type is neither destroyed nor
    copied. -/
def StoredAs (α : Type) {β : Type} (p : α ⊕ β) : Prop := p.isRight

theorem StoredAs.disposes {α β : Type} {p : α ⊕ β} (h : StoredAs α p) (f : α → CMem Unit)
    (own : List (Block StructType)) : Destroys (Mem.declared f p) own False := by
  cases p with
  | inl a => cases h
  | inr b => exact Disposes.undefined own

theorem StoredAs.traverses {α β γ : Type} {p : α ⊕ β} (h : StoredAs α p) (f : α → CMem γ)
    (own : List (Block StructType)) : Copies (Mem.declared f p) own False := by
  cases p with
  | inl a => cases h
  | inr b => exact Traverses.undefined own

theorem stored_owns {α β : Type} {decode : CMem β} {R : β → List (Block StructType) → Prop}
    (h : Owns [] decode True R) :
    Owns [] (decode >>= fun b => pure (Sum.inr b)) True fun (p : α ⊕ β) _ => StoredAs α p :=
  h.seq fun _ _ _ => Owns.pure (.refl _) rfl

theorem forall_not_mem_iff {α : Type} {as : List α} : (∀ a ∈ as, False) ↔ as = [] :=
  List.eq_nil_iff_forall_not_mem.symm

theorem forall_not_some_iff {α : Type} {p : Option α} : (∀ a, p = some a → False) ↔ p = none :=
  Option.eq_none_iff_forall_ne_some.symm

/-! ### Users -/

def User.blocks (u : User) : List (Block StructType) :=
  ⟨.user, u.address⟩ :: (string_blocks u.username ++ (string_blocks u.discriminator ++
    (string_blocks u.avatar ++ (string_blocks u.banner ++ (string_blocks u.locale ++
      string_blocks u.email)))))

theorem user_owns (data : CJson) :
    Owns [] (_d_json_to_user data) True fun u own => own = u.blocks := by
  unfold _d_json_to_user
  apply (Owns.alloc _).seq
  rintro address _ rfl
  iterate 6
    apply (get_string_owns _ _).seq
    rintro s _ rfl
  exact Owns.pure (by simp [User.blocks]) rfl

theorem user_disposes (u : User) : Destroys (discord_destroy_user u) u.blocks True := by
  apply Disposes.destroying rfl
  iterate 5
    apply (free_string_disposes _).seq
    intro _
  exact free_string_disposes _

theorem user_traverses (u : User) : Copies (_d_copy_user u) u.blocks True := by
  apply (Traverses.visit _ rfl).seq
  intro _
  apply (Traverses.alloc _).skip
  intro _
  iterate 6
    apply (copy_string_skips _ _).skip
    intro _
  exact Traverses.pure_plain _ (by simp)

/-! ### Members -/

def user_blocks : Option User → List (Block StructType)
  | none => []
  | some u => u.blocks

/-- The blocks of a member but for those of its user. -/
def Member.own_blocks (m : Member) : List (Block StructType) :=
  ⟨.member, m.address⟩ :: (string_blocks m.nick ++ (string_blocks m.avatar ++
    (string_blocks m.joined_at ++ (string_blocks m.premium_since ++
      (string_blocks m.permissions ++ (string_blocks m.communication_disabled_until ++
        m.roles.blocks))))))

def Member.blocks (m : Member) : List (Block StructType) := m.own_blocks ++ user_blocks m.user

/-- The roles of a member are given as strings. -/
def roles_readable (data : CJson) : Prop :=
  ∀ c ∈ cJSON_ArrayItems (cJSON_GetObjectItem data "roles"), is_id c

/-- A member decoded from `data` has the user it was given, or one of its
    own. -/
structure MemberOwn (data : CJson) (user : Option User) (m : Member)
    (own : List (Block StructType)) : Prop where
  blocks : own = m.blocks
  given : user ≠ none → m.user = user
  own_user : user = none → (m.user = none ↔ cJSON_GetObjectItem data "user" = none)

theorem user_pointer_owns (tmp : Option CJson) :
    Owns [] (Mem.unless_null tmp fun data _ => _d_json_to_user data) True fun u own =>
      own = user_blocks u ∧ (u = none ↔ tmp = none) := by
  apply ((pointer_owns fun c _ => user_owns c).congr (by simp)).mono
  intro u own h
  cases h with
  | null => exact ⟨rfl, by simp⟩
  | pointer h => exact ⟨h, by simp⟩

theorem member_user_owns (data : CJson) (user : Option User) :
    Owns (user_blocks user) (member_user data user) True fun u own =>
      own = user_blocks u ∧ (user ≠ none → u = user) ∧
        (user = none → (u = none ↔ cJSON_GetObjectItem data "user" = none)) := by
  cases user with
  | some user => exact Owns.pure (.refl _) ⟨rfl, fun _ => rfl, by simp⟩
  | none =>
    apply (user_pointer_owns _).mono
    intro u own ⟨hown, hu⟩
    exact ⟨hown, by simp, fun _ => hu⟩

theorem member_owns (data : CJson) (user : Option User) :
    Owns (user_blocks user) (_d_json_to_member data user) (roles_readable data)
      (MemberOwn data user) := by
  unfold _d_json_to_member
  apply (Owns.alloc _).seq
  rintro address _ rfl
  -- The user that was given is used by the next routine.
  refine Owns.perm_base ?_ List.perm_append_comm
  apply (member_user_owns data user).frame_seq
  rintro u _ ⟨rfl, hgiven, hown⟩
  iterate 2
    apply (get_string_owns _ _).seq
    rintro s _ rfl
  apply (array_owns fun c _ => read_id_owns c).bind_total
  intro roles own hroles
  rw [hroles.plain]
  iterate 4
    apply (get_string_owns _ _).seq
    rintro s _ rfl
  refine Owns.pure ?_ ⟨rfl, hgiven, hown⟩
  rw [List.perm_iff_count]
  intro b
  simp only [Member.blocks, Member.own_blocks, List.count_append, List.count_cons,
    List.count_nil]
  omega

theorem destroy_user_pointer_disposes (user : Option User) :
    Destroys (destroy_pointer user fun user _ => discord_destroy_user user) (user_blocks user)
      True := by
  cases user with
  | none => exact Disposes.skip (Disposes.pure _) fun _ => Disposes.pure _
  | some user => exact ((user_disposes user).ret some).ret fun _ => ()

theorem member_disposes (m : Member) : Destroys (discord_destroy_member m) m.blocks True := by
  have h : Destroys (discord_destroy_member m) (⟨.member, m.address⟩ ::
      (string_blocks m.nick ++ (string_blocks m.avatar ++ (string_blocks m.joined_at ++
        (string_blocks m.premium_since ++ (string_blocks m.permissions ++
          (string_blocks m.communication_disabled_until ++
            (m.roles.blocks ++ user_blocks m.user)))))))) True := by
    apply Disposes.destroying rfl
    iterate 6
      apply (free_string_disposes _).seq
      intro _
    exact (free_array_disposes _).seq fun _ => destroy_user_pointer_disposes _
  apply h.perm
  simp [Member.blocks, Member.own_blocks]

/-- A member is copied without its user. -/
theorem member_own_traverses (m : Member) (user : Option User) :
    Copies (_d_copy_member m user) m.own_blocks True := by
  apply (Traverses.visit _ rfl).seq
  intro _
  apply (Traverses.alloc _).skip
  intro _
  iterate 2
    apply (copy_string_skips _ _).skip
    intro _
  apply (copy_array_skips (fun _ => Traverses.pure _) _).skip
  intro _
  iterate 4
    apply (copy_string_skips _ _).skip
    intro _
  exact Traverses.pure_plain _ (by simp)

theorem structs_user_blocks_eq_nil (user : Option User) :
    structs StructType.has_routine (user_blocks user) = [] ↔ user = none := by
  cases user with
  | none => exact iff_of_true rfl rfl
  | some u =>
    refine iff_of_false ?_ (Option.some_ne_none u)
    simp [user_blocks, User.blocks, structs, StructType.has_routine]

/-- A member that is copied for no user goes without its own. -/
theorem member_traverses {data : CJson} {m : Member} {own : List (Block StructType)}
    (h : MemberOwn data none m own) :
    Copies (_d_copy_member m none) own (cJSON_GetObjectItem data "user" = none) := by
  rw [h.blocks]
  apply (Traverses.miss (member_own_traverses m none)).congr
  rw [true_and, structs_user_blocks_eq_nil, h.own_user rfl]

/-! ### Authors

  A message and an interaction hold a user and a member that may share it.
-/

/-- The user and the member decoded from two fields. -/
inductive AuthorOwn (tmp_user tmp_member : Option CJson) (user : Option User) :
    Option Member → List (Block StructType) → Prop where
  | alone (hmember : tmp_member = none) :
      AuthorOwn tmp_user tmp_member user none (user_blocks user)
  | member {c : CJson} {m : Member} {own : List (Block StructType)} (hmember : tmp_member = some c)
      (huser : user = none ↔ tmp_user = none) (hm : MemberOwn c user m own) :
      AuthorOwn tmp_user tmp_member user (some m) own

/-- The roles of the member can be read. -/
def author_readable (tmp_member : Option CJson) : Prop :=
  ∀ c, tmp_member = some c → roles_readable c

/-- The member has no user of its own, which a copy would go without. -/
def author_copied (tmp_user tmp_member : Option CJson) : Prop :=
  tmp_user = none → ∀ c, tmp_member = some c → cJSON_GetObjectItem c "user" = none

/-- Decoding a user and a member, with what comes after. -/
theorem author_owns {β : Type} {tmp_user tmp_member : Option CJson}
    {base : List (Block StructType)} {f : Option User → Option Member → CMem β} {D : Prop}
    {S : β → List (Block StructType) → Prop}
    (hf : ∀ user member own, AuthorOwn tmp_user tmp_member user member own →
      Owns (base ++ own) (f user member) D S) :
    Owns base (do
      let user ← Mem.unless_null tmp_user fun c _ => _d_json_to_user c
      let member ← Mem.unless_null tmp_member fun c _ => _d_json_to_member c user
      f user member) (author_readable tmp_member ∧ D) S := by
  apply (user_pointer_owns tmp_user).seq
  rintro user _ ⟨rfl, huser⟩
  cases tmp_member with
  | none =>
    -- without a member, the user is owned alone
    have hnull : Owns [] (pure none : CMem (Option Member)) True fun m own => m = none ∧ own = [] :=
      Owns.pure (.refl _) ⟨rfl, rfl⟩
    have hrest : Owns (base ++ user_blocks user) (pure none >>= fun m => f user m) D S := by
      apply hnull.seq
      rintro _ _ ⟨rfl, rfl⟩
      rw [List.append_nil]
      exact hf user none _ (.alone rfl)
    exact hrest.congr (by simp [author_readable])
  | some c =>
    -- the user goes to the member
    have hmember : Owns (user_blocks user)
        (Mem.unless_null (some c) fun c _ => _d_json_to_member c user) (roles_readable c ∧ True)
        fun member own => AuthorOwn tmp_user (some c) user member own :=
      (member_owns c user).pass fun m own hm => Owns.pure (.refl _) (.member rfl huser hm)
    refine (hmember.frame_bind fun member own hown => hf user member own hown).congr ?_
    simp [author_readable]

theorem author_disposes {tmp_user tmp_member : Option CJson} {user : Option User}
    {member : Option Member} {own : List (Block StructType)}
    (h : AuthorOwn tmp_user tmp_member user member own) :
    Destroys (destroy_author member user) own True := by
  cases h with
  | alone _ => exact destroy_user_pointer_disposes user
  | member _ _ hm =>
    rw [hm.blocks]
    exact member_disposes _

theorem copy_user_pointer_traverses (user : Option User) :
    Copies (Mem.unless_null user fun user _ => _d_copy_user user) (user_blocks user) True := by
  cases user with
  | none => exact Traverses.pure _
  | some user => exact (user_traverses user).ret some

/-- Copying a user and a member, with what comes after. -/
theorem author_traverses {β : Type} {tmp_user tmp_member : Option CJson} {user : Option User}
    {member : Option Member} {own own' : List (Block StructType)} {G : Prop}
    {f : Option User → Option Member → CMem β}
    (h : AuthorOwn tmp_user tmp_member user member own)
    (hf : ∀ user member, Copies (f user member) own' G) :
    Copies (do
      let user ← Mem.unless_null user fun user _ => _d_copy_user user
      let member ← Mem.unless_null member fun member _ => _d_copy_member member user
      f user member) (own ++ own') (author_copied tmp_user tmp_member ∧ G) := by
  cases h with
  | alone hmember =>
    refine ((copy_user_pointer_traverses user).seq fun u =>
      (Traverses.pure none).skip fun m => hf u m).congr ?_
    simp [author_copied, hmember]
  | @member c m own hmember huser hm =>
    have hcopy (u : Option User) :
        Copies (Mem.unless_null (some m) fun member _ => _d_copy_member member u) m.own_blocks
          True :=
      (member_own_traverses m u).ret some
    rw [hm.blocks, Member.blocks]
    cases user with
    | some u =>
      -- The copy of the member gets the copy of the user.
      rw [hm.given (Option.some_ne_none u)]
      refine (((copy_user_pointer_traverses (some u)).seq fun u =>
        (hcopy u).seq fun m => hf u m).perm ?_).congr ?_
      · rw [← List.append_assoc]
        exact List.perm_append_comm.append_right _
      · have htmp : tmp_user ≠ none := fun h => Option.some_ne_none u (huser.mpr h)
        simp [author_copied, htmp]
    | none =>
      -- The copy of the member gets no user, so that its own is missed.
      refine ((Traverses.pure none).skip fun u =>
        ((hcopy u).miss.bind fun m => hf u m)).congr ?_
      simp [author_copied, hmember, huser.mp rfl, structs_user_blocks_eq_nil, hm.own_user rfl]

/-! ### Attachments -/

def Attachment.blocks (a : Attachment) : List (Block StructType) :=
  ⟨.attachment, a.address⟩ :: (string_blocks a.filename ++ (string_blocks a.description ++
    (string_blocks a.content_type ++ (string_blocks a.url ++ string_blocks a.proxy_url))))

theorem attachment_owns (data : CJson) :
    Owns [] (_d_json_to_attachment data) True fun a own => own = a.blocks := by
  unfold _d_json_to_attachment
  apply (Owns.alloc _).seq
  rintro address _ rfl
  iterate 5
    apply (get_string_owns _ _).seq
    rintro s _ rfl
  exact Owns.pure (by simp [Attachment.blocks]) rfl

theorem attachment_disposes (a : Attachment) :
    Destroys (discord_destroy_attachment a) a.blocks True := by
  apply Disposes.destroying rfl
  iterate 4
    apply (free_string_disposes _).seq
    intro _
  exact free_string_disposes _

theorem attachment_traverses (a : Attachment) : Copies (_d_copy_attachment a) a.blocks True := by
  apply (Traverses.visit _ rfl).seq
  intro _
  apply (Traverses.alloc _).skip
  intro _
  iterate 5
    apply (copy_string_skips _ _).skip
    intro _
  exact Traverses.pure_plain _ (by simp)

/-! ### Channel mentions -/

theorem channel_mention_owns (data : CJson) :
    Owns [] (_d_json_to_channel_mention data) True fun ch own =>
      own = ⟨.channel_mention, ch.address⟩ :: string_blocks ch.name := by
  apply (Owns.alloc _).seq
  rintro address _ rfl
  apply (get_string_owns _ _).seq
  rintro name _ rfl
  exact Owns.pure (.refl _) rfl

/-! ### Select options -/

def SelectOption.blocks (o : SelectOption) : List (Block StructType) :=
  ⟨.select_option, o.address⟩ :: (string_blocks o.label ++ (string_blocks o.value ++
    string_blocks o.description))

/-- No block is allocated for a structure that is not implemented. -/
theorem unimplemented_owns (data : CJson) :
    Owns [] (json_to_unimplemented data) True fun p own => p = none ∧ own = [] :=
  Owns.pure (.refl _) ⟨rfl, rfl⟩

theorem unimplemented_field_owns (tmp : Option CJson) :
    Owns [] (unimplemented_field tmp json_to_unimplemented) True fun p own =>
      p = none ∧ own = [] := by
  cases tmp with
  | none => exact Owns.pure (.refl _) ⟨rfl, rfl⟩
  | some tmp => exact unimplemented_owns tmp

theorem unimplemented_array_owns (data : CJson) (name : String) :
    Owns [] (_d_get_array_from_json data name fun cur _ => json_to_unimplemented cur) True
      fun array own => own = array.blocks := by
  apply (array_owns_total fun c _ => (unimplemented_owns c).mono fun p own h => h.2).mono
  exact fun array own h => h.plain

theorem select_option_owns (data : CJson) :
    Owns [] (_d_json_to_select_option data) True fun o own => own = o.blocks := by
  unfold _d_json_to_select_option
  apply (Owns.alloc _).seq
  rintro address _ rfl
  iterate 3
    apply (get_string_owns _ _).seq
    rintro s _ rfl
  apply (unimplemented_field_owns _).seq
  rintro emoji _ ⟨rfl, rfl⟩
  exact Owns.pure (by simp [SelectOption.blocks]) rfl

theorem select_option_disposes (o : SelectOption) :
    Destroys (discord_destroy_select_option o) o.blocks True := by
  apply Disposes.destroying rfl
  iterate 2
    apply (free_string_disposes _).seq
    intro _
  refine Disposes.perm ((free_string_disposes _).seq fun _ => Disposes.pure ()) ?_
  rw [List.append_nil]

theorem select_option_traverses (o : SelectOption) :
    Copies (_d_copy_select_option o) o.blocks True := by
  apply (Traverses.visit _ rfl).seq
  intro _
  apply (Traverses.alloc _).skip
  intro _
  iterate 3
    apply (copy_string_skips _ _).skip
    intro _
  exact Traverses.skip (Traverses.pure _) fun _ => Traverses.pure_plain _ (by simp)

/-! ### Message references and applications -/

theorem message_reference_owns (data : CJson) :
    Owns [] (_d_json_to_message_reference data) True fun r own =>
      own = [⟨.message_reference, r.address⟩] := by
  apply (Owns.alloc _).seq
  rintro address _ rfl
  exact Owns.pure (.refl _) rfl

theorem message_reference_disposes (r : MessageReference) :
    Destroys (discord_destroy_message_reference r) [⟨.message_reference, r.address⟩] True :=
  Disposes.destroying rfl (Disposes.pure ())

theorem message_reference_traverses (r : MessageReference) :
    Copies (_d_copy_message_reference r) [⟨.message_reference, r.address⟩] True :=
  (Traverses.visit _ rfl).seq fun _ => (Traverses.alloc _).skip fun _ => Traverses.pure _

theorem application_owns (data : CJson) :
    Owns [] (_d_json_to_application data) True fun a own =>
      own = [⟨.application, a.address⟩] := by
  apply (Owns.alloc _).seq
  rintro address _ rfl
  exact Owns.pure (.refl _) rfl

theorem application_disposes (a : Application) :
    Destroys (discord_destroy_application a) [⟨.application, a.address⟩] True :=
  Disposes.destroying rfl (Disposes.pure ())

theorem application_traverses (a : Application) :
    Copies (_d_copy_application a) [⟨.application, a.address⟩] True :=
  (Traverses.visit _ rfl).seq fun _ => Traverses.pure _

end DiscoC
