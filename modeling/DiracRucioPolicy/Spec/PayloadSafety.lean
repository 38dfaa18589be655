import DiracRucioPolicy.Native.Payload
import DiracRucioPolicy.Native.Schema
import DiracRucioPolicy.Spec.Returns

/-!
# Validated payloads in the permission check

A payload that `validate_schema` has accepted is read by the handlers of the bulk actions.
Two things can still raise there. `RULE` does not require the key `account` and
`ATTACHMENT` not the key `scope`, which the handlers subscript. And the falsy payloads
that `validate_schema` lets through may not be iterable.

## Key results

- `getItem_value_returns_iff`: subscripting a wrapped payload
- `addDids_payload_returns_iff`, `attachments_payload_returns_iff`: when the handlers
  return on an accepted payload
- `payload_safe_iff`: the two together
-/

namespace DiracRucioPolicy

/-! ## Wrapped payloads -/

namespace Wrapping

variable (w : Wrapping)

/-- The elements of an array are wrapped one by one. -/
theorem values_eq_map (vs : List Json) : w.values vs = vs.map w.value := by
  induction vs with
  | nil => rfl
  | cons v vs ih => rw [values, ih, List.map_cons]

/-- An array becomes a list. -/
theorem value_arr (vs : List Json) : w.value (.arr vs) = .list (vs.map w.value) := by
  rw [value, values_eq_map]

/-- Wrapping keeps the keys. -/
theorem get?_fields (fs : List (String × Json)) (key : String) :
    Dict.get? (w.fields fs) key = (fs.lookup key).map fun v => w.wrap key v (w.value v) := by
  induction fs with
  | nil => rfl
  | cons f fs ih =>
    obtain ⟨k, v⟩ := f
    rw [Dict.get?] at ih ⊢
    rw [fields, List.lookup_cons, List.lookup_cons, ih]
    by_cases hk : key = k
    · rw [hk, beq_self_eq_true]
      rfl
    · rw [beq_eq_false_iff_ne.mpr hk]

/-- Subscripting a wrapped object gives the value under the key, wrapped for that key. -/
theorem getItem_value {v x : Json} {key : String} (h : v.get? key = some x) :
    (w.value v).getItem key = .ok (w.wrap key x (w.value x)) := by
  cases v with
  | obj fs =>
    have hget := w.get?_fields fs key
    rw [show fs.lookup key = some x from h, Option.map_some] at hget
    rw [value]
    exact Dict.getItem_eq_ok_iff.mpr hget
  | _ => cases h

/-- Only the keys of an object can be subscripted. -/
theorem getItem_value_returns_iff {v : Json} {key : String} :
    ((w.value v).getItem key).Returns ↔ (v.get? key).isSome = true := by
  constructor
  · intro h
    obtain ⟨y, hy⟩ := h
    obtain ⟨d, hd, hget⟩ := PyVal.getItem_eq_ok_iff.mp hy
    cases v with
    | obj fs =>
      rw [value, PyVal.dict.injEq] at hd
      rw [← hd, get?_fields] at hget
      show (fs.lookup key).isSome = true
      rw [← Option.isSome_map, hget]
      rfl
    | num q =>
      rw [value] at hd
      split at hd
      · cases hd
      · cases hd
    | _ => cases hd
  · intro h
    obtain ⟨x, hx⟩ := Option.isSome_iff_exists.mp h
    exact ⟨_, w.getItem_value hx⟩

end Wrapping

/-! ## Rules of a payload -/

/-- The elements of an array. -/
def elements : Json → List Json
  | .arr vs => vs
  | _ => []

/-- The rules that come with a DID. -/
def rulesIn (did : Json) : List Json := elements ((did.get? "rules").getD (.arr []))

/-- The rule names the issuer as its account. -/
def namesIssuer (w : Wrapping) (issuer : InternalAccount) (rule : Json) : Bool :=
  match rule.get? "account" with
  | some (.str account) => (w.account account).internal = issuer.internal
  | _ => false

/-- The handlers see a rule of the issuer in the wrapped form of one. -/
theorem isOwnRule_value (w : Wrapping) (issuer : InternalAccount) (rule : Json) :
    isOwnRule issuer (w.value rule) = namesIssuer w issuer rule := by
  unfold isOwnRule namesIssuer
  cases haccount : rule.get? "account" with
  | none =>
    -- without the key the rule is nobody's
    have hraises : ¬ ((w.value rule).getItem "account").Returns := by
      rw [w.getItem_value_returns_iff, haccount]
      simp
    cases hitem : (w.value rule).getItem "account" with
    | ok v => exact absurd ⟨v, hitem⟩ hraises
    | error e => rfl
  | some x =>
    rw [w.getItem_value haccount]
    cases x with
    | str s => rfl
    | num q =>
      show (w.value (.num q)).isAccount issuer = false
      rw [Wrapping.value]
      split
      · rfl
      · rfl
    | _ => rfl

/-- The rules of a valid DID are read from its wrapped form. -/
theorem rulesOf_value (u : UnicodeDb) (w : Wrapping) {did : Json}
    (h : (Schemas.did u).valid did = true) :
    ((w.value did).get "rules" (.list []) >>= PyVal.iter) = .ok ((rulesIn did).map w.value) := by
  obtain ⟨fs, rfl⟩ := Schema.eq_obj_of_valid rfl h
  have hprops := ((Schema.valid_obj_iff rfl rfl fs).mp h).1
  have hget := w.get?_fields fs "rules"
  show (Dict.getD (w.fields fs) "rules" (.list [])).iter = _
  unfold Dict.getD rulesIn
  show _ = Except.ok ((elements ((fs.lookup "rules").getD (.arr []))).map w.value)
  cases hrules : fs.lookup "rules" with
  | none =>
    rw [hrules] at hget
    rw [hget]
    rfl
  | some x =>
    -- the schema asks for an array
    have hvalid : (Schemas.rules u).valid x = true :=
      hprops ("rules", Schemas.rules u) (by simp [Schemas.did]) x hrules
    obtain ⟨rs, rfl⟩ := Schema.eq_arr_of_valid rfl hvalid
    rw [hrules] at hget
    rw [hget, Option.map_some, Option.getD_some, Option.getD_some]
    show (w.value (.arr rs)).iter = _
    rw [w.value_arr]
    rfl

/-! ## Accepted payloads -/

/-- The falsy payloads over which there is no loop. -/
def NotIterable (p : Json) : Prop := p ∈ [.null, .bool false, .num 0]

instance (p : Json) : Decidable (NotIterable p) := inferInstanceAs (Decidable (p ∈ _))

/-- The handlers fail to loop over them. -/
theorem iter_value_of_notIterable (w : Wrapping) {p : Json} (h : NotIterable p) :
    ∃ e, (w.value p).iter = .error e := by
  simp only [NotIterable, List.mem_cons, List.not_mem_nil, or_false] at h
  rcases h with rfl | rfl | rfl
  · exact ⟨_, rfl⟩
  · exact ⟨_, rfl⟩
  · exact ⟨_, rfl⟩

/-- The loop over an accepted payload of an array schema visits its elements, which are
    all valid. -/
theorem iter_value_of_accepted {u : UnicodeDb} {name : String} {s t : Schema}
    (hname : (Schemas.schemas u).lookup name = some s) (htype : s.type = some [.array])
    (hitems : s.items = some t) (w : Wrapping) {p : Json}
    (h : validateSchema u name p = .ok ()) (hp : ¬ NotIterable p) :
    (w.value p).iter = .ok ((elements p).map w.value) ∧ ∀ v ∈ elements p, t.valid v = true := by
  rw [validateSchema_entry_iff hname, Json.truthy_eq_false_iff] at h
  cases h with
  | inl hfalsy =>
    -- the other falsy values have no elements
    have hnone : p ∈ [.str "", .arr [], .obj []] := by
      rw [NotIterable] at hp
      exact (List.mem_append (s := [.null, .bool false, .num 0]).mp hfalsy).resolve_left hp
    simp only [List.mem_cons, List.not_mem_nil, or_false] at hnone
    rcases hnone with rfl | rfl | rfl
    · exact ⟨rfl, fun v hv => absurd hv List.not_mem_nil⟩
    · exact ⟨rfl, fun v hv => absurd hv List.not_mem_nil⟩
    · exact ⟨rfl, fun v hv => absurd hv List.not_mem_nil⟩
  | inr hvalid =>
    obtain ⟨vs, rfl⟩ := Schema.eq_arr_of_valid htype hvalid
    rw [Schema.valid_iff] at hvalid
    obtain ⟨-, -, -, -, -, -, hall, -⟩ := hvalid
    rw [w.value_arr]
    exact ⟨rfl, hall t (by rw [hitems]; rfl) vs rfl⟩

/-! ## The handlers on accepted payloads -/

section Handlers

variable {db : Db} {issuer : InternalAccount} {u : UnicodeDb} (w : Wrapping) {p : Json}

/-- `add_dids` returns on an accepted payload when the first rule that is not one of the
    issuer names an account. -/
theorem addDids_payload_returns_iff (h : validateSchema u "dids" p = .ok ()) :
    (hasPermission db issuer "add_dids" [("dids", w.value p)]).Returns ↔
      isPrivileged db issuer = true ∨ ¬ NotIterable p ∧
        ∀ rule, ((elements p).flatMap rulesIn).find? (fun rule => !namesIssuer w issuer rule) =
          some rule → (rule.get? "account").isSome = true := by
  have hhandler : hasPermission db issuer "add_dids" [("dids", w.value p)] =
    permAddDids db issuer [("dids", w.value p)] := rfl
  rw [hhandler]
  by_cases hp : NotIterable p
  · obtain ⟨e, he⟩ := iter_value_of_notIterable w hp
    rw [permAddDids_returns_of_error rfl he]
    simp [hp]
  · obtain ⟨hiter, hvalid⟩ := iter_value_of_accepted (s := Schemas.dids u) rfl rfl rfl w h hp
    have hread : ∀ did ∈ (elements p).map w.value,
        (did.get "rules" (.list []) >>= PyVal.iter).Returns := by
      intro did hdid
      obtain ⟨d, hd, rfl⟩ := List.mem_map.mp hdid
      exact ⟨_, rulesOf_value u w (hvalid d hd)⟩
    -- the rules the handler sees are those of the payload
    have hrules : ((elements p).map w.value).flatMap rulesOf =
        ((elements p).flatMap rulesIn).map w.value := by
      rw [List.flatMap_map, List.map_flatMap]
      apply List.flatMap_congr
      intro d hd
      rw [rulesOf, rulesOf_value u w (hvalid d hd)]
    have hforeign : (fun rule => !isOwnRule issuer rule) ∘ w.value =
        fun rule => !namesIssuer w issuer rule := by
      funext rule
      rw [Function.comp_apply, isOwnRule_value]
    rw [permAddDids_returns_iff rfl hiter hread, hrules, List.find?_map, hforeign]
    simp only [Option.map_eq_some_iff, forall_exists_index, and_imp, forall_apply_eq_imp_iff₂,
      Wrapping.getItem_value_returns_iff, hp, not_false_eq_true, true_and]

/-- `attach_dids_to_dids` returns on an accepted payload when every attachment has a
    scope. -/
theorem attachments_payload_returns_iff (h : validateSchema u "attachments" p = .ok ()) :
    (hasPermission db issuer "attach_dids_to_dids" [("attachments", w.value p)]).Returns ↔
      isPrivileged db issuer = true ∨ ¬ NotIterable p ∧
        ∀ a ∈ elements p, (a.get? "scope").isSome = true := by
  have hhandler : hasPermission db issuer "attach_dids_to_dids" [("attachments", w.value p)] =
    permAttachDidsToDids db issuer [("attachments", w.value p)] := rfl
  rw [hhandler]
  by_cases hp : NotIterable p
  · obtain ⟨e, he⟩ := iter_value_of_notIterable w hp
    rw [permAttachDidsToDids_returns_of_error rfl he]
    simp [hp]
  · obtain ⟨hiter, hvalid⟩ :=
      iter_value_of_accepted (s := Schemas.attachments u) rfl rfl rfl w h hp
    rw [permAttachDidsToDids_returns_iff rfl hiter]
    · simp [hp, Wrapping.getItem_value_returns_iff]
    · -- a scope that is present is a string, and has been wrapped
      intro a ha y hy
      obtain ⟨v, hv, rfl⟩ := List.mem_map.mp ha
      obtain ⟨x, hx⟩ := Option.isSome_iff_exists.mp
        ((w.getItem_value_returns_iff).mp ⟨y, hy⟩)
      have hvx : (Schemas.scope u).valid x = true := by
        obtain ⟨fs, rfl⟩ := Schema.eq_obj_of_valid rfl (hvalid v hv)
        have hprops := ((Schema.valid_obj_iff rfl rfl fs).mp (hvalid _ hv)).1
        exact hprops ("scope", Schemas.scope u) (by simp [Schemas.attachment]) x hx
      obtain ⟨s, rfl⟩ := Schema.eq_str_of_valid rfl hvx
      rw [w.getItem_value hx, Except.ok.injEq] at hy
      exact ⟨w.scope s, hy.symm⟩

end Handlers

/-- On an accepted payload the bulk handlers raise nothing exactly when the issuer is
    privileged, or the payload is not null, false or zero and carries the key the loop
    comes to read: for `add_dids` the account of the first rule that is not a rule of
    the issuer, for `attach_dids_to_dids` the scope of every attachment. -/
theorem payload_safe_iff (u : UnicodeDb) (w : Wrapping) (db : Db) (issuer : InternalAccount) :
    (∀ p, validateSchema u "dids" p = .ok () →
      ((hasPermission db issuer "add_dids" [("dids", w.value p)]).Returns ↔
        isPrivileged db issuer = true ∨ ¬ NotIterable p ∧
          ∀ rule, ((elements p).flatMap rulesIn).find?
            (fun rule => !namesIssuer w issuer rule) = some rule →
              (rule.get? "account").isSome = true)) ∧
    (∀ p, validateSchema u "attachments" p = .ok () →
      ((hasPermission db issuer "attach_dids_to_dids" [("attachments", w.value p)]).Returns ↔
        isPrivileged db issuer = true ∨ ¬ NotIterable p ∧
          ∀ a ∈ elements p, (a.get? "scope").isSome = true)) :=
  ⟨fun _ h => addDids_payload_returns_iff w h, fun _ h => attachments_payload_returns_iff w h⟩

/-- The wrapping of a single virtual organisation. -/
def defWrapping : Wrapping where
  account name := ⟨name, "def"⟩
  scope name := ⟨name, "def"⟩

/-- A dataset with a rule that has the given additional fields. -/
def ruledDid (extra : List (String × Json)) : Json :=
  .obj [("scope", .str "bob"), ("name", .str "/vo/bob/data"),
    ("rules", .arr [.obj (("dids", .arr []) :: ("copies", .num 1) ::
      ("rse_expression", .str "DISK") :: extra)])]

/-- An attachment of one DID, with the given additional fields. -/
def attachmentOfDid (extra : List (String × Json)) : Json :=
  .obj (("dids", .arr [.obj [("scope", .str "bob"), ("name", .str "/vo/bob/data")]]) :: extra)

/-- Bob's rules and his scope are named, so that his payloads are decided. -/
theorem payload_safe_bob :
    (hasPermission bobsDb bob "add_dids"
      [("dids", defWrapping.value (.arr [ruledDid [("account", .str "bob")]]))]).Returns ∧
    (hasPermission bobsDb bob "attach_dids_to_dids"
      [("attachments", defWrapping.value (.arr [attachmentOfDid [("scope", .str "bob")]]))]).Returns
    := by
  have hsafe := payload_safe_iff .ascii defWrapping bobsDb bob
  constructor
  · refine (hsafe.1 (.arr [ruledDid [("account", .str "bob")]]) (by decide)).mpr
      (Or.inr ⟨by decide, ?_⟩)
    -- the only rule is one of the issuer
    intro rule hrule
    cases hrule
  · exact (hsafe.2 (.arr [attachmentOfDid [("scope", .str "bob")]]) (by decide)).mpr
      (Or.inr ⟨by decide, List.forall_mem_singleton.mpr (by decide)⟩)

/-- A rule without an account and an attachment without a scope are accepted, and raise
    for an ordinary issuer. -/
theorem payload_raises :
    (¬ ∀ (u : UnicodeDb) (w : Wrapping) (db : Db) (issuer : InternalAccount) (p : Json),
      validateSchema u "dids" p = .ok () →
      (hasPermission db issuer "add_dids" [("dids", w.value p)]).Returns) ∧
    (¬ ∀ (u : UnicodeDb) (w : Wrapping) (db : Db) (issuer : InternalAccount) (p : Json),
      validateSchema u "attachments" p = .ok () →
      (hasPermission db issuer "attach_dids_to_dids" [("attachments", w.value p)]).Returns) := by
  constructor
  · intro h
    have hreturns := h .ascii defWrapping bobsDb bob (.arr [ruledDid []]) (by decide)
    have hraises : hasPermission bobsDb bob "add_dids"
      [("dids", defWrapping.value (.arr [ruledDid []]))] = .error (.keyError "account") := rfl
    rw [hraises] at hreturns
    exact Except.not_returns_error _ hreturns
  · intro h
    have hreturns := h .ascii defWrapping bobsDb bob (.arr [attachmentOfDid []]) (by decide)
    have hraises : hasPermission bobsDb bob "attach_dids_to_dids"
      [("attachments", defWrapping.value (.arr [attachmentOfDid []]))] =
        .error (.keyError "scope") := rfl
    rw [hraises] at hreturns
    exact Except.not_returns_error _ hreturns

end DiracRucioPolicy
