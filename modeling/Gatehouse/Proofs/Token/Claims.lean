import Gatehouse.Proofs.Json.RoundTrip
import Gatehouse.Token.Claims

/-!
# Claims - Round trip

Claims are read back from the object that they are written as.  Parts that were left out come back
as empty, and a part that was written is found under its name, because no name is written twice.

Main results:

- Theorem `Claims.ofJson?_toJson`: claims whose times fit into 64 bits are read back.
- Theorem `Claims.isDocument_toJson`: the object that claims are written as can be a document.
-/

namespace Gatehouse.Json

/-- An object whose members are some of the known ones, in their order, describes the record of
just those members. -/
theorem Record.ofValue?_object {names : List String} {members : List (String × Value)}
    (nodup : names.Nodup) (h : (members.map (·.1)).Sublist names) :
    Record.ofValue? names (.object members) = some ⟨true, members⟩ := by
  have known : members.filter (fun m => names.contains m.1) = members := by
    rw [List.filter_eq_self]
    intro m hm
    simpa using h.subset (List.mem_map_of_mem hm)
  rw [Record.ofValue?, known, if_pos (nodup.sublist h)]

theorem readString_string (s : String) : readString (.string s) = some s := rfl

/-- A whole number of 64 bits is read as it is. -/
theorem readInt64_int {i : Int} (low : Word.firstSigned64 ≤ i) (high : i ≤ Word.lastSigned64) :
    readInt64 (.int i) = some i := by
  rw [readInt64, Value.int, readInt, if_pos ⟨low, high⟩]

/-- A list of data is read back when each of them is. -/
theorem readList_map {α : Type} {read : Reader α} {write : α → Value}
    (h : ∀ a, read (write a) = some a) (items : List α) :
    readList read (.array (items.map write)) = some items := by
  rw [readList]
  induction items with
  | nil => rfl
  | cons a rest ih => simp [List.mapM_cons, h, ih]

end Gatehouse.Json

namespace Gatehouse.Token

open Json (Value Record Reader)

/-! ## Members that may be left out -/

theorem names_textMember (name text : String) :
    ((textMember name text).map (·.1)).Sublist [name] := by
  unfold textMember
  split
  · exact List.nil_sublist _
  · exact List.Sublist.refl _

theorem names_partMember {α : Type} (name : String) (write : α → Value) (part : Option α) :
    ((partMember name write part).map (·.1)).Sublist [name] := by
  cases part with
  | none => exact List.nil_sublist _
  | some a => exact List.Sublist.refl _

theorem find?_textMember (name text wanted : String) :
    (textMember name text).find? (·.1 == wanted) =
      if name = wanted ∧ text ≠ "" then some (name, .string text) else none := by
  unfold textMember
  by_cases empty : text = ""
  · simp [empty]
  · by_cases same : name = wanted
    · simp [empty, same]
    · simp [empty, same]

theorem find?_partMember {α : Type} (name : String) (write : α → Value) (part : Option α)
    (wanted : String) :
    (partMember name write part).find? (·.1 == wanted) =
      if name = wanted then part.map fun a => (name, write a) else none := by
  cases part with
  | none => simp [partMember]
  | some a =>
      by_cases same : name = wanted
      · simp [partMember, same]
      · simp [partMember, same]

/-! ## The parts of the claims -/

theorem readScope_name (s : Scope) : readScope (.string s.name) = some s := by
  cases s <;> decide

theorem readLoginKind_name (k : LoginKind) : readLoginKind (.string k.name) = some k := by
  cases k <;> decide

/-- The roles in an authorization are read back. -/
theorem Authorization.ofJson?_toJson (a : Authorization) :
    Authorization.ofJson? a.toJson = some a := by
  obtain ⟨roles⟩ := a
  have sublist : ((if roles.isEmpty then [] else [("roles", Value.strings roles)]).map
      (·.1)).Sublist ["roles"] := by
    split
    · exact List.nil_sublist _
    · exact List.Sublist.refl _
  rw [Authorization.ofJson?, Authorization.toJson,
    Record.ofValue?_object (by decide) sublist]
  cases roles with
  | nil => rfl
  | cons r rest =>
      have read := Json.readList_map Json.readString_string (r :: rest)
      simp [Record.orElse, Record.value?, Value.strings] at read ⊢
      simp [read]

/-- The members of the metadata stand in their order. -/
theorem names_metadata (m : Metadata) :
    ((("token_version", Value.string m.version) ::
      (partMember "parent_token" .string m.parent ++
        partMember "authorization" Authorization.toJson m.authorization ++
        partMember "loginKind" (fun k : LoginKind => .string k.name) m.loginKind)).map
      (·.1)).Sublist ["token_version", "parent_token", "authorization", "loginKind"] := by
  simp only [List.map_cons, List.map_append]
  exact (((names_partMember _ _ _).append (names_partMember _ _ _)).append
    (names_partMember _ _ _)).cons_cons _

/-- A part that is written as something else than nothing is read back. -/
theorem readNullable_some {α : Type} {read : Reader α} {v : Value} {a : α} (h : read v = some a)
    (present : v ≠ .null) : Json.readNullable read v = some (some a) := by
  cases v with
  | null => exact absurd rfl present
  | _ => simp [Json.readNullable, h]

/-- The metadata are read back. -/
theorem Metadata.ofJson?_toJson (m : Metadata) : Metadata.ofJson? m.toJson = some m := by
  obtain ⟨version, parent, authorization, kind⟩ := m
  have readParent (s : String) :
      Json.readNullable Json.readString (.string s) = some (some s) := rfl
  have readAuthorization (a : Authorization) :=
    readNullable_some (Authorization.ofJson?_toJson a) (by simp [Authorization.toJson])
  have readKind (k : LoginKind) := readNullable_some (readLoginKind_name k) (by simp)
  rw [Metadata.ofJson?, Metadata.toJson, Record.ofValue?_object (by decide) (names_metadata _)]
  cases parent <;> cases authorization <;> cases kind <;>
    simp [Record.required, Record.orElse, Record.value?, partMember, Json.readString, readParent,
      readAuthorization, readKind]

/-- The members of the claims stand in their order. -/
theorem names_claims (c : Claims) (members : List (String × Value))
    (h : c.toJson = .object members) : (members.map (·.1)).Sublist claimNames := by
  rw [Claims.toJson] at h
  obtain rfl := Value.object.inj h
  simp only [List.map_append]
  show List.Sublist _ (["aud"] ++ ["iss"] ++ ["jti", "iat", "nbf", "exp", "sub"] ++ ["name"] ++
    ["displayName"] ++ ["email"] ++ ["scopes"] ++ ["app_metadata"])
  refine List.Sublist.append (List.Sublist.append (List.Sublist.append (List.Sublist.append
    (List.Sublist.append (List.Sublist.append (List.Sublist.append ?_ ?_) ?_) ?_) ?_) ?_) ?_) ?_
  · exact names_textMember _ _
  · exact names_textMember _ _
  · exact List.Sublist.refl _
  · exact names_textMember _ _
  · exact names_textMember _ _
  · exact names_textMember _ _
  · exact List.Sublist.refl _
  · exact names_partMember _ _ _

/-! ## The claims -/

/-- A time that can be written. -/
def IsTime (t : Time) : Prop :=
  Word.firstSigned64 ≤ t ∧ t ≤ Word.lastSigned64

instance (t : Time) : Decidable (IsTime t) :=
  inferInstanceAs (Decidable (_ ∧ _))

/-- Claims whose times can be written. -/
structure Claims.IsTimely (c : Claims) : Prop where
  issued : IsTime c.issuedAt
  starts : IsTime c.notBefore
  expires : IsTime c.expiresAt

/-- A text that is left out when it is empty is read back. -/
theorem orElse_text {r : Record} {name text : String}
    (h : r.value? name =
      (if name = name ∧ text ≠ "" then some (name, Value.string text) else none).map (·.2)) :
    r.orElse name "" Json.readString = some text := by
  rw [Record.orElse, h]
  by_cases empty : text = ""
  · rw [if_neg (by simp [empty]), empty]
    rfl
  · rw [if_pos ⟨rfl, empty⟩]
    rfl

/-- A field that has to be there is read when its value is. -/
theorem required_some {α : Type} {r : Record} {name : String} {v : Value} {read : Reader α} {a : α}
    (h : r.value? name = some v) (ha : read v = some a) : r.required name read = some a := by
  rw [Record.required, h]
  exact ha

/-- Claims are read back from the object that they are written as. -/
theorem Claims.ofJson?_toJson {c : Claims} (h : c.IsTimely) :
    Claims.ofJson? c.toJson = some c := by
  obtain ⟨members, hm⟩ : ∃ members, c.toJson = .object members := ⟨_, rfl⟩
  have record := Record.ofValue?_object (by decide) (names_claims c members hm)
  obtain ⟨r, hr⟩ : ∃ r : Record, r = ⟨true, members⟩ := ⟨_, rfl⟩
  have value (name : String) : r.value? name = (members.find? (·.1 == name)).map (·.2) := by
    rw [hr, Record.value?]
  simp only [← Value.object.inj hm, List.find?_append, find?_textMember, find?_partMember] at value
  have aud : r.orElse "aud" "" Json.readString = some c.audience := orElse_text (by simp [value])
  have iss : r.orElse "iss" "" Json.readString = some c.issuer := orElse_text (by simp [value])
  have name : r.orElse "name" "" Json.readString = some c.name := orElse_text (by simp [value])
  have displayName : r.orElse "displayName" "" Json.readString = some c.displayName :=
    orElse_text (by simp [value])
  have email : r.orElse "email" "" Json.readString = some c.email := orElse_text (by simp [value])
  have jti : r.required "jti" Json.readString = some c.id :=
    required_some (v := .string c.id) (by simp [value]) rfl
  have iat : r.required "iat" Json.readInt64 = some c.issuedAt :=
    required_some (by simp [value]) (Json.readInt64_int h.issued.1 h.issued.2)
  have nbf : r.required "nbf" Json.readInt64 = some c.notBefore :=
    required_some (by simp [value]) (Json.readInt64_int h.starts.1 h.starts.2)
  have exp : r.required "exp" Json.readInt64 = some c.expiresAt :=
    required_some (by simp [value]) (Json.readInt64_int h.expires.1 h.expires.2)
  have sub : r.required "sub" Json.readString = some c.subject :=
    required_some (v := .string c.subject) (by simp [value]) rfl
  have scopes : r.orElse "scopes" [] (Json.readList readScope) = some c.scopes := by
    have stands : r.value? "scopes" =
        some (.array (c.scopes.map fun s => .string s.name)) := by simp [value]
    rw [Record.orElse, stands]
    exact Json.readList_map readScope_name c.scopes
  have metadata : r.orElse "app_metadata" none (Json.readNullable Metadata.ofJson?) =
      some c.metadata := by
    have stands : r.value? "app_metadata" = c.metadata.map Metadata.toJson := by
      simp [value, Function.comp_def]
    rw [Record.orElse, stands]
    cases c.metadata with
    | none => rfl
    | some m => exact readNullable_some (Metadata.ofJson?_toJson m) (by simp [Metadata.toJson])
  rw [Claims.ofJson?, hm, record, ← hr]
  simp [aud, iss, jti, iat, nbf, exp, sub, name, displayName, email, scopes, metadata]

/-! ## Documents -/

/-- A member that may be left out holds a text. -/
theorem isDocument_textMember {name text : String} {depth : Nat} {m : String × Value}
    (h : m ∈ textMember name text) : m.2.IsDocument depth := by
  unfold textMember at h
  split at h
  · simp at h
  · obtain rfl := List.mem_singleton.1 h
    exact Json.isDocument_string _ _

/-- A member that may be absent holds what its part is written as. -/
theorem isDocument_partMember {α : Type} {name : String} {write : α → Value} {part : Option α}
    {depth : Nat} (hw : ∀ a, part = some a → (write a).IsDocument depth) {m : String × Value}
    (h : m ∈ partMember name write part) : m.2.IsDocument depth := by
  cases part with
  | none => simp [partMember] at h
  | some a =>
      obtain rfl := List.mem_singleton.1 h
      exact hw a rfl

theorem Authorization.isDocument_toJson (a : Authorization) (depth : Nat) :
    a.toJson.IsDocument (depth + 2) := by
  refine Json.isDocument_object fun m hm => ?_
  split at hm
  · simp at hm
  · obtain rfl := List.mem_singleton.1 hm
    refine Json.isDocument_array fun v hv => ?_
    obtain ⟨role, -, rfl⟩ := List.mem_map.1 hv
    exact Json.isDocument_string _ _

theorem Metadata.isDocument_toJson (d : Metadata) (depth : Nat) :
    d.toJson.IsDocument (depth + 3) := by
  refine Json.isDocument_object fun m hm => ?_
  simp only [List.mem_cons, List.mem_append] at hm
  rcases hm with rfl | (hm | hm) | hm
  · exact Json.isDocument_string _ _
  · exact isDocument_partMember (fun _ _ => Json.isDocument_string _ _) hm
  · exact isDocument_partMember (fun a _ => a.isDocument_toJson depth) hm
  · exact isDocument_partMember (fun _ _ => Json.isDocument_string _ _) hm

/-- The object that claims are written as can be a document. -/
theorem Claims.isDocument_toJson {c : Claims} (h : c.IsTimely) :
    c.toJson.IsDocument Json.maxDepth := by
  have time {t : Time} (ht : IsTime t) (depth : Nat) : (Value.int t).IsDocument depth :=
    Json.isDocument_int ht.1 (Int.lt_of_le_of_lt ht.2 (by decide)) depth
  show Value.IsDocument (126 + 1) _
  refine Json.isDocument_object fun m hm => ?_
  simp only [List.mem_append, List.mem_cons, List.not_mem_nil, or_false] at hm
  rcases hm with ((((((((hm | hm) | rfl | rfl | rfl | rfl | rfl) | hm) | hm) | hm) | rfl) | hm))
  · exact isDocument_textMember hm
  · exact isDocument_textMember hm
  · exact Json.isDocument_string _ _
  · exact time h.issued _
  · exact time h.starts _
  · exact time h.expires _
  · exact Json.isDocument_string _ _
  · exact isDocument_textMember hm
  · exact isDocument_textMember hm
  · exact isDocument_textMember hm
  · refine Json.isDocument_array fun v hv => ?_
    obtain ⟨scope, -, rfl⟩ := List.mem_map.1 hv
    exact Json.isDocument_string _ _
  · exact isDocument_partMember (fun d _ => d.isDocument_toJson 123) hm

end Gatehouse.Token
