import DiracRucioPolicy.Spec.Grants

/-!
# Country admins

An account with the attribute `country-C` = `admin` administers the RSEs of the country
`C`. Four handlers decide about account limits on that ground and two about account
usage; they are compared here with one rule over the attributes of the account and of
the RSEs. The global handlers read the RSEs from the records that `parse_expression`
returns, and raise on a record without the key `rse_id`.

## Key results

- `mem_countriesOf_iff`: the countries the handlers collect are those of the attributes
- `resolvedRseCountries_of_readable`, `resolvedRseCountries_of_not_readable`: what the
  global handlers make of the records
- `limitsFollowRule_iff`: when setting and deleting limits follow the rule
- `globalUsage_iff`: when global usage is limited to the countries of the issuer
-/

namespace DiracRucioPolicy

/-! ## Countries -/

/-- The issuer has the attribute that makes it an admin of the country. -/
def AdminOf (db : Db) (issuer : InternalAccount) (country : String) : Prop :=
  ("country-" ++ country, .str "admin") ∈ db.accountAttributes issuer.internal

/-- The RSE that a record is about: its `rse_id`, or its `id` where the first is missing. -/
def recordRse (rse : Dict) : PyVal := (rse.get? "rse_id").getD (rse.getD "id" .none)

/-- The handlers find the key they read in every record. -/
def Readable (rses : List Dict) : Prop := ∀ rse ∈ rses, rse.Has "rse_id"

/-- The RSE of the record has the country as its country attribute. -/
def InCountry (db : Db) (rse : Dict) (country : String) : Prop :=
  (db.rseAttributes (recordRse rse)).lookup "country" = some (.str country)

/-- The issuer is an admin of the country of every RSE. -/
def Covers (db : Db) (issuer : InternalAccount) (rses : List Dict) : Prop :=
  ∀ rse ∈ rses, ∃ country, AdminOf db issuer country ∧ InCountry db rse country

/-- The rule for account limits: root and admins, and country admins of all the RSEs. -/
def LimitRule (db : Db) (issuer : InternalAccount) (rses : List Dict) : Prop :=
  isPrivileged db issuer = true ∨ (∃ country, AdminOf db issuer country) ∧ Covers db issuer rses

/-- The country of a key is what follows the prefix. -/
theorem behindDash_country (c : String) : behindDash ("country-" ++ c) = c := by
  rw [behindDash, String.toList_append]
  show String.ofList c.toList = c
  exact String.ofList_toList

/-- The handlers collect the countries of the attributes. -/
theorem mem_countriesOf_iff {db : Db} {issuer : InternalAccount} {c : String} :
    c ∈ countriesOf db issuer ↔ AdminOf db issuer c := by
  rw [countriesOf, List.mem_map, AdminOf]
  constructor
  · intro h
    obtain ⟨⟨key, value⟩, hkv, rfl⟩ := h
    obtain ⟨hmem, hadmin⟩ := List.mem_filter.mp hkv
    simp only [isCountryAdmin, Bool.and_eq_true, decide_eq_true_eq, List.isPrefixOf_iff_prefix]
      at hadmin
    obtain ⟨⟨t, ht⟩, rfl⟩ := hadmin
    -- the key is the prefix followed by the country
    have hkey : key = "country-" ++ String.ofList t := by
      rw [← String.toList_inj, ← ht]
      simp
    rw [hkey, behindDash_country, ← hkey]
    exact hmem
  · intro h
    refine ⟨_, List.mem_filter.mpr ⟨h, ?_⟩, behindDash_country c⟩
    simp [isCountryAdmin]

/-- The handlers collect nothing for an account that is no country admin. -/
theorem countriesOf_ne_nil_iff {db : Db} {issuer : InternalAccount} :
    countriesOf db issuer ≠ [] ↔ ∃ country, AdminOf db issuer country := by
  simp only [← mem_countriesOf_iff]
  constructor
  · exact List.exists_mem_of_ne_nil _
  · intro h
    obtain ⟨c, hc⟩ := h
    exact List.ne_nil_of_mem hc

/-- A missing country attribute reads as `None`, which is no country. -/
theorem rseCountry_eq_str_iff {db : Db} {rse : Dict} {c : String} :
    db.rseCountry (recordRse rse) = .str c ↔ InCountry db rse c := by
  unfold Db.rseCountry InCountry Db.rseAttrCountry
  cases (db.rseAttributes (recordRse rse)).lookup "country" with
  | none => simp
  | some a => simp

/-! ## The resolved records -/

/-- The handlers read the RSE of a record with the key. -/
theorem getItem_rse_id {rse : Dict} (h : rse.Has "rse_id") :
    rse.getItem "rse_id" = .ok (recordRse rse) := by
  obtain ⟨v, hv⟩ := Option.isSome_iff_exists.mp h
  rw [recordRse, hv, Option.getD_some]
  exact Dict.getItem_eq_ok_iff.mpr hv

section

variable {db : Db} {issuer : InternalAccount} {kwargs : Dict} {e : PyVal} {rses : List Dict}

/-- The countries of the RSEs of the records, as a set. -/
def recordCountries (db : Db) (rses : List Dict) : List PyAtom :=
  (rses.map fun rse => db.rseCountry (recordRse rse)).dedup

/-- Records with the key are looked up one by one. -/
theorem resolvedRseCountries_of_readable (he : kwargs.get? "rse_expression" = some e)
    (hrses : db.parseExpression e issuer.vo = .ok rses) (hread : Readable rses) :
    resolvedRseCountries db issuer kwargs = .ok (recordCountries db rses) := by
  have hitem : kwargs.getItem "rse_expression" = .ok e := Dict.getItem_eq_ok_iff.mpr he
  have hall : (rses.mapM fun rse => do return db.rseCountry (← rse.getItem "rse_id")) =
      .ok (rses.map fun rse => db.rseCountry (recordRse rse)) := by
    apply List.mapM_eq_ok_map
    intro rse hmem
    rw [getItem_rse_id (hread rse hmem)]
    rfl
  rw [resolvedRseCountries, hitem, Except.ok_bind, hrses, Except.ok_bind, hall]
  rfl

/-- A record without the key ends the request. -/
theorem resolvedRseCountries_of_not_readable (he : kwargs.get? "rse_expression" = some e)
    (hrses : db.parseExpression e issuer.vo = .ok rses) (hread : ¬ Readable rses) :
    resolvedRseCountries db issuer kwargs = .error (.keyError "rse_id") := by
  have hitem : kwargs.getItem "rse_expression" = .ok e := Dict.getItem_eq_ok_iff.mpr he
  have hmissing : ∀ {rse : Dict}, ¬ rse.Has "rse_id" →
      (do return db.rseCountry (← rse.getItem "rse_id")) =
        (.error (.keyError "rse_id") : Except PyErr PyAtom) := by
    intro rse hnot
    have hnone : rse.get? "rse_id" = none := by simpa [Dict.Has] using hnot
    rw [Dict.getItem, hnone]
    rfl
  have hraise : (rses.mapM fun rse => do return db.rseCountry (← rse.getItem "rse_id")) =
      .error (.keyError "rse_id") := by
    apply List.mapM_eq_error
    · intro rse _
      by_cases hhas : rse.Has "rse_id"
      · rw [getItem_rse_id hhas]
        exact Or.inr (Except.returns_ok _)
      · exact Or.inl (hmissing hhas)
    · simp only [Readable, not_forall] at hread
      obtain ⟨rse, hmem, hnot⟩ := hread
      exact ⟨rse, hmem, hmissing hnot⟩
  rw [resolvedRseCountries, hitem, Except.ok_bind, hrses, Except.ok_bind, hraise]
  rfl

/-- The countries of the issuer contain those of the records when the issuer covers them. -/
theorem subset_recordCountries_iff :
    subsetOfCountries (recordCountries db rses) (countriesOf db issuer) = true ↔
      Covers db issuer rses := by
  simp only [subsetOfCountries_iff, recordCountries, List.mem_dedup, List.forall_mem_map,
    mem_countriesOf_iff, rseCountry_eq_str_iff, Covers]

/-! ## Account limits -/

/-- The privileged are granted every limit. -/
theorem limits_of_privileged (hpriv : isPrivileged db issuer = true) (kwargs : Dict) :
    localAccountLimit db issuer kwargs = .ok true ∧
      permSetGlobalAccountLimit db issuer kwargs = .ok true ∧
      permDeleteGlobalAccountLimit db issuer kwargs = .ok true := by
  simp [localAccountLimit, permSetGlobalAccountLimit, permDeleteGlobalAccountLimit, pyOr, hpriv]

/-- Others must be active for any limit. -/
theorem limits_of_not_active (hpriv : isPrivileged db issuer = false)
    (hactive : ¬ Active db issuer) (kwargs : Dict) :
    localAccountLimit db issuer kwargs = .error .accountNotFound ∧
      permSetGlobalAccountLimit db issuer kwargs = .error .accountNotFound ∧
      permDeleteGlobalAccountLimit db issuer kwargs = .error .accountNotFound := by
  rw [localAccountLimit, permSetGlobalAccountLimit, permDeleteGlobalAccountLimit, hpriv,
    adminInCountry_of_not_active hactive]
  exact ⟨rfl, rfl, rfl⟩

/-- The local actions look the country of the RSE up in those of the issuer. -/
theorem localAccountLimit_eq {rse : PyVal} (hpriv : isPrivileged db issuer = false)
    (hactive : Active db issuer) (hrse : kwargs.get? "rse_id" = some rse) :
    localAccountLimit db issuer kwargs =
      .ok ((countriesOf db issuer).any fun c => db.rseCountry rse = .str c) := by
  have hitem : kwargs.getItem "rse_id" = .ok rse := Dict.getItem_eq_ok_iff.mpr hrse
  rw [localAccountLimit, hpriv, adminInCountry_of_active hactive, hitem]
  -- without a country the handler stops early, with the same answer
  cases countriesOf db issuer with
  | nil => rfl
  | cons c cs => rfl

/-- Setting compares the resolved countries with those of the issuer. -/
theorem permSetGlobalAccountLimit_eq (hpriv : isPrivileged db issuer = false)
    (hactive : Active db issuer) :
    permSetGlobalAccountLimit db issuer kwargs = do
      return subsetOfCountries (← resolvedRseCountries db issuer kwargs)
        (countriesOf db issuer) := by
  rw [permSetGlobalAccountLimit, hpriv, adminInCountry_of_active hactive]
  rfl

/-- So does deleting for a country admin. -/
theorem permDeleteGlobalAccountLimit_eq_set (hpriv : isPrivileged db issuer = false)
    (hactive : Active db issuer) (hadmin : ∃ country, AdminOf db issuer country) :
    permDeleteGlobalAccountLimit db issuer kwargs =
      permSetGlobalAccountLimit db issuer kwargs := by
  rw [permSetGlobalAccountLimit_eq hpriv hactive, permDeleteGlobalAccountLimit, hpriv,
    adminInCountry_of_active hactive]
  cases hcountries : countriesOf db issuer with
  | nil => exact absurd hcountries (countriesOf_ne_nil_iff.mpr hadmin)
  | cons c cs => rfl

/-- For others deleting does not come to the records. -/
theorem permDeleteGlobalAccountLimit_eq_false (hpriv : isPrivileged db issuer = false)
    (hactive : Active db issuer) (hadmin : ¬ ∃ country, AdminOf db issuer country) :
    permDeleteGlobalAccountLimit db issuer kwargs = .ok false := by
  have hnil : countriesOf db issuer = [] := by
    by_contra hne
    exact hadmin (countriesOf_ne_nil_iff.mp hne)
  rw [permDeleteGlobalAccountLimit, hpriv, adminInCountry_of_active hactive, hnil]
  rfl

/-- All four actions follow the rule on the RSEs that the request resolves to: the global
    ones grant what the rule grants, they agree with each other, and on a single RSE the
    local ones decide as the global ones do. An exception is another end than a refusal. -/
structure LimitsFollowRule (db : Db) (issuer : InternalAccount) (kwargs : Dict)
    (rses : List Dict) : Prop where
  setGlobal : hasPermission db issuer "set_global_account_limit" kwargs = .ok true ↔
    LimitRule db issuer rses
  deleteGlobal : hasPermission db issuer "delete_global_account_limit" kwargs = .ok true ↔
    LimitRule db issuer rses
  agree : hasPermission db issuer "set_global_account_limit" kwargs =
    hasPermission db issuer "delete_global_account_limit" kwargs
  setLocal : ∀ rse localArgs, rses = [rse] → localArgs.get? "rse_id" = some (recordRse rse) →
    hasPermission db issuer "set_local_account_limit" localArgs =
      hasPermission db issuer "set_global_account_limit" kwargs
  deleteLocal : ∀ rse localArgs, rses = [rse] → localArgs.get? "rse_id" = some (recordRse rse) →
    hasPermission db issuer "delete_local_account_limit" localArgs =
      hasPermission db issuer "delete_global_account_limit" kwargs

/-- The limits follow the rule when both global actions grant what it grants and end
    alike, and the local ones end as they do. -/
theorem limitsFollowRule_iff_outcomes :
    LimitsFollowRule db issuer kwargs rses ↔
      (permSetGlobalAccountLimit db issuer kwargs = .ok true ↔ LimitRule db issuer rses) ∧
      permSetGlobalAccountLimit db issuer kwargs = permDeleteGlobalAccountLimit db issuer kwargs ∧
      ∀ rse localArgs, rses = [rse] → localArgs.get? "rse_id" = some (recordRse rse) →
        localAccountLimit db issuer localArgs = permSetGlobalAccountLimit db issuer kwargs := by
  constructor
  · intro h
    exact ⟨h.setGlobal, h.agree, h.setLocal⟩
  · intro h
    obtain ⟨hset, hagree, hlocal⟩ := h
    have hdelete : permDeleteGlobalAccountLimit db issuer kwargs = .ok true ↔
        LimitRule db issuer rses := hagree ▸ hset
    exact ⟨hset, hdelete, hagree, hlocal, fun rse localArgs hrses hrse =>
      (hlocal rse localArgs hrses hrse).trans hagree⟩

/-- For the privileged the limits follow the rule. -/
theorem limitsFollowRule_of_privileged (hpriv : isPrivileged db issuer = true) :
    LimitsFollowRule db issuer kwargs rses := by
  obtain ⟨-, hset, hdelete⟩ := limits_of_privileged hpriv kwargs
  rw [limitsFollowRule_iff_outcomes, hset, hdelete]
  exact ⟨iff_of_true rfl (Or.inl hpriv), rfl,
    fun _ localArgs _ _ => (limits_of_privileged hpriv localArgs).1⟩

/-- An account that is not active is refused by an exception, whatever the rule says. -/
theorem limitsFollowRule_of_not_active (hpriv : isPrivileged db issuer = false)
    (hactive : ¬ Active db issuer) :
    LimitsFollowRule db issuer kwargs rses ↔ ¬ LimitRule db issuer rses := by
  obtain ⟨-, hset, hdelete⟩ := limits_of_not_active hpriv hactive kwargs
  rw [limitsFollowRule_iff_outcomes, hset, hdelete]
  constructor
  · intro h hrule
    cases h.1.mpr hrule
  · intro hrule
    exact ⟨iff_of_false (by simp) hrule, rfl,
      fun _ localArgs _ _ => (limits_of_not_active hpriv hactive localArgs).1⟩

/-- On readable records only the missing guard of the setting action can break the rule. -/
theorem limitsFollowRule_of_readable (he : kwargs.get? "rse_expression" = some e)
    (hrses : db.parseExpression e issuer.vo = .ok rses) (hpriv : isPrivileged db issuer = false)
    (hactive : Active db issuer) (hread : Readable rses) :
    LimitsFollowRule db issuer kwargs rses ↔
      (∃ country, AdminOf db issuer country) ∨ rses ≠ [] := by
  have hset : permSetGlobalAccountLimit db issuer kwargs =
      .ok (subsetOfCountries (recordCountries db rses) (countriesOf db issuer)) := by
    rw [permSetGlobalAccountLimit_eq hpriv hactive,
      resolvedRseCountries_of_readable he hrses hread]
    rfl
  have hlocal : ∀ rse localArgs, rses = [rse] → localArgs.get? "rse_id" = some (recordRse rse) →
      localAccountLimit db issuer localArgs = permSetGlobalAccountLimit db issuer kwargs := by
    intro rse localArgs hsingle hrse
    rw [hset, localAccountLimit_eq hpriv hactive hrse, hsingle]
    simp [recordCountries, subsetOfCountries]
  have hrule : LimitRule db issuer rses ↔
      (∃ country, AdminOf db issuer country) ∧ Covers db issuer rses := by
    rw [LimitRule, hpriv]
    exact or_iff_right Bool.false_ne_true
  rw [limitsFollowRule_iff_outcomes]
  by_cases hadmin : ∃ country, AdminOf db issuer country
  · -- a country admin: both actions compare the countries
    refine iff_of_true ⟨?_, (permDeleteGlobalAccountLimit_eq_set hpriv hactive hadmin).symm,
      hlocal⟩ (Or.inl hadmin)
    rw [hset, Except.ok.injEq, subset_recordCountries_iff, hrule]
    exact (and_iff_right hadmin).symm
  · -- of the others only the deleting action refuses all
    rw [permDeleteGlobalAccountLimit_eq_false hpriv hactive hadmin]
    have hcovers : Covers db issuer rses ↔ rses = [] := by
      constructor
      · intro h
        rw [List.eq_nil_iff_forall_not_mem]
        intro rse hmem
        obtain ⟨country, hcountry, -⟩ := h rse hmem
        exact hadmin ⟨country, hcountry⟩
      · intro h rse hmem
        rw [h] at hmem
        exact absurd hmem List.not_mem_nil
    constructor
    · intro h
      refine Or.inr fun hnil => ?_
      have hsubset := subset_recordCountries_iff.mpr (hcovers.mpr hnil)
      rw [hset, hsubset] at h
      cases h.2.1
    · intro h
      have hne := h.resolve_left hadmin
      have hfalse :
          subsetOfCountries (recordCountries db rses) (countriesOf db issuer) = false := by
        rw [← Bool.not_eq_true, subset_recordCountries_iff, hcovers]
        exact hne
      refine ⟨?_, by rw [hset, hfalse], hlocal⟩
      rw [hset, hfalse, hrule]
      exact iff_of_false (by simp) fun h => hadmin h.1

/-- On other records the setting action raises, and only a country admin of some, but not
    all of several RSEs does not notice. -/
theorem limitsFollowRule_of_not_readable (he : kwargs.get? "rse_expression" = some e)
    (hrses : db.parseExpression e issuer.vo = .ok rses) (hpriv : isPrivileged db issuer = false)
    (hactive : Active db issuer) (hread : ¬ Readable rses) :
    LimitsFollowRule db issuer kwargs rses ↔
      (∃ country, AdminOf db issuer country) ∧ ¬ Covers db issuer rses ∧ rses.length ≠ 1 := by
  have hset : permSetGlobalAccountLimit db issuer kwargs = .error (.keyError "rse_id") := by
    rw [permSetGlobalAccountLimit_eq hpriv hactive,
      resolvedRseCountries_of_not_readable he hrses hread]
    rfl
  rw [limitsFollowRule_iff_outcomes, hset, LimitRule, hpriv]
  constructor
  · intro h
    obtain ⟨hgranted, hagree, hlocal⟩ := h
    have hadmin : ∃ country, AdminOf db issuer country := by
      by_contra hnot
      rw [permDeleteGlobalAccountLimit_eq_false hpriv hactive hnot] at hagree
      cases hagree
    refine ⟨hadmin, fun hcovers => absurd (hgranted.mpr (Or.inr ⟨hadmin, hcovers⟩)) (by simp), ?_⟩
    -- on a single record the local actions answer
    intro hlength
    obtain ⟨rse, hsingle⟩ := List.length_eq_one_iff.mp hlength
    have hanswer := hlocal rse [("rse_id", recordRse rse)] hsingle rfl
    rw [localAccountLimit_eq hpriv hactive rfl] at hanswer
    cases hanswer
  · intro h
    obtain ⟨hadmin, hcovers, hlength⟩ := h
    refine ⟨iff_of_false (by simp) fun h => ?_, ?_, ?_⟩
    · exact h.elim Bool.false_ne_true fun hrule => hcovers hrule.2
    · rw [permDeleteGlobalAccountLimit_eq_set hpriv hactive hadmin, hset]
    · intro rse _ hsingle _
      rw [hsingle] at hlength
      exact absurd rfl hlength

/-- The limits follow the rule for the privileged; for active accounts on readable records,
    unless an account without a country sets a limit on an expression without RSEs; and
    where the rule refuses and both global actions raise, unless the local ones answer. -/
theorem limitsFollowRule_iff (db : Db) (issuer : InternalAccount) (kwargs : Dict) (e : PyVal)
    (rses : List Dict) (he : kwargs.get? "rse_expression" = some e)
    (hrses : db.parseExpression e issuer.vo = .ok rses) :
    LimitsFollowRule db issuer kwargs rses ↔
      isPrivileged db issuer = true ∨
      (Active db issuer ∧ Readable rses ∧
        ((∃ country, AdminOf db issuer country) ∨ rses ≠ [])) ∨
      (¬ ((∃ country, AdminOf db issuer country) ∧ Covers db issuer rses) ∧
        (¬ Active db issuer ∨
          (∃ country, AdminOf db issuer country) ∧ ¬ Readable rses ∧ rses.length ≠ 1)) := by
  cases hpriv : isPrivileged db issuer with
  | true => exact iff_of_true (limitsFollowRule_of_privileged hpriv) (Or.inl rfl)
  | false =>
    simp only [Bool.false_eq_true, false_or]
    by_cases hactive : Active db issuer
    · by_cases hread : Readable rses
      · rw [limitsFollowRule_of_readable he hrses hpriv hactive hread]
        simp only [hactive, hread, true_and, not_true_eq_false, false_and, and_false, or_false]
      · rw [limitsFollowRule_of_not_readable he hrses hpriv hactive hread]
        simp only [hactive, hread, false_and, and_false, not_true_eq_false, not_false_eq_true,
          true_and, false_or, not_and]
        constructor
        · intro h
          exact ⟨fun _ => h.2.1, h.1, h.2.2⟩
        · intro h
          exact ⟨h.2.1, h.1 h.2.1, h.2.2⟩
    · rw [limitsFollowRule_of_not_active hpriv hactive, LimitRule, hpriv]
      simp only [hactive, Bool.false_eq_true, false_or, false_and, not_false_eq_true, true_or,
        and_true]

end

/-! ## An admin of one country -/

/-- The database in which Bob is an admin of `de`, and every expression resolves to an RSE
    in `de` and one in `fr`. -/
def bobsCountryDb : Db :=
  { bobsDb with
    accountAttributes := fun a => if a = bob.internal then [("country-de", .str "admin")] else []
    rseAttributes := fun rse =>
      [("country", .str (if rse.isStr "DESY-DISK" then "de" else "fr"))]
    parseExpression := fun _ _ =>
      .ok [[("rse_id", .str "DESY-DISK")], [("rse_id", .str "LYON-DISK")]] }

/-- Bob may not set limits in both countries, and nothing is raised. -/
theorem limitsFollowRule_bob :
    LimitsFollowRule bobsCountryDb bob [("rse_expression", .str "*")]
      [[("rse_id", .str "DESY-DISK")], [("rse_id", .str "LYON-DISK")]] := by
  have hread : Readable [[("rse_id", .str "DESY-DISK")], [("rse_id", .str "LYON-DISK")]] := by
    simp [Readable, Dict.Has, Dict.get?]
  exact (limitsFollowRule_iff bobsCountryDb bob [("rse_expression", .str "*")] (.str "*")
    [[("rse_id", .str "DESY-DISK")], [("rse_id", .str "LYON-DISK")]] rfl rfl).mpr
      (Or.inr (Or.inl ⟨rfl, hread, Or.inr (List.cons_ne_nil _ _)⟩))

/-- A record under the keys that `parse_expression` uses. -/
def desyRecord : Dict := [("id", .str "DESY-DISK"), ("rse", .str "DESY-DISK")]

/-- Bob sets a global limit on the RSE in `de`, whose record has an `id` and no `rse_id`. -/
theorem limits_keyError :
    ¬ ∀ (db : Db) (issuer : InternalAccount) (kwargs : Dict) (e : PyVal)
        (rses : List Dict), kwargs.get? "rse_expression" = some e →
      db.parseExpression e issuer.vo = .ok rses → LimitsFollowRule db issuer kwargs rses := by
  intro h
  have hfollow := h { bobsCountryDb with parseExpression := fun _ _ => .ok [desyRecord] } bob
    [("rse_expression", .str "country=de")] (.str "country=de") [desyRecord] rfl rfl
  -- Bob is an admin of the country of the RSE, so the rule grants the request
  have hcovers : Covers { bobsCountryDb with parseExpression := fun _ _ => .ok [desyRecord] } bob
      [desyRecord] := by
    refine List.forall_mem_singleton.mpr ⟨"de", ?_, rfl⟩
    exact mem_countriesOf_iff.mp (by decide)
  obtain ⟨country, hadmin, -⟩ := hcovers _ List.mem_cons_self
  have hgranted := hfollow.setGlobal.mpr (Or.inr ⟨⟨country, hadmin⟩, hcovers⟩)
  exact absurd hgranted (by decide)

/-! ## Account usage -/

/-- An ordinary account sees the usage of another account when it is active and an admin of
    any country. -/
theorem globalUsage_granted_iff {db : Db} {issuer : InternalAccount} {kwargs : Dict}
    (hpriv : isPrivileged db issuer = false)
    (haccount : (kwargs.getD "account" .none).isAccount issuer = false) :
    hasPermission db issuer "get_global_account_usage" kwargs = .ok true ↔
      Active db issuer ∧ ∃ country, AdminOf db issuer country := by
  have hhandler : hasPermission db issuer "get_global_account_usage" kwargs =
    accountUsage db issuer kwargs := rfl
  rw [hhandler, accountUsage_granted_iff, hpriv, haccount, ← countriesOf_ne_nil_iff]
  simp [countriesOf, List.filter_eq_nil_iff]

/-- Global usage is limited to the countries of the issuer exactly when the issuer is an
    admin of no country, or of the country of every RSE, or is not active. The handler never
    reads the expression, so neither the key under which it stands nor what it resolves to
    plays a role. -/
theorem globalUsage_iff (db : Db) (issuer : InternalAccount) (kwargs : Dict)
    (hpriv : isPrivileged db issuer = false)
    (haccount : (kwargs.getD "account" .none).isAccount issuer = false) :
    ∀ key e, kwargs.get? key = some e →
      ∀ rses, db.parseExpression e issuer.vo = .ok rses → rses ≠ [] →
        ((hasPermission db issuer "get_global_account_usage" kwargs = .ok true →
            Covers db issuer rses) ↔
          (∀ country, ¬ AdminOf db issuer country) ∨ Covers db issuer rses ∨
            ¬ Active db issuer) := by
  intro _ _ _ rses _ _
  rw [globalUsage_granted_iff hpriv haccount, ← not_exists]
  by_cases hactive : Active db issuer
  · simp only [hactive, true_and, not_true_eq_false, or_false]
    exact imp_iff_not_or
  · simp only [hactive, false_and, false_imp_iff, not_false_eq_true, or_true]

/-- The condition for Bob, an admin of `de`, who asks about an RSE in `fr` as well. -/
theorem globalUsage_bob :
    (hasPermission bobsCountryDb bob "get_global_account_usage"
        [("account", .account ⟨"eve", "def"⟩), ("rse_expression", .str "*")] = .ok true →
      Covers bobsCountryDb bob
        [[("rse_id", .str "DESY-DISK")], [("rse_id", .str "LYON-DISK")]]) ↔
      (∀ country, ¬ AdminOf bobsCountryDb bob country) ∨
        Covers bobsCountryDb bob
          [[("rse_id", .str "DESY-DISK")], [("rse_id", .str "LYON-DISK")]] ∨
        ¬ Active bobsCountryDb bob :=
  globalUsage_iff bobsCountryDb bob
    [("account", .account ⟨"eve", "def"⟩), ("rse_expression", .str "*")] (by decide) (by decide)
    "rse_expression" (.str "*") rfl
    [[("rse_id", .str "DESY-DISK")], [("rse_id", .str "LYON-DISK")]] rfl (by simp)

/-- Bob, an admin of `de` only, sees the usage at an RSE in `fr`. -/
theorem globalUsage_leak :
    ¬ ∀ (db : Db) (issuer : InternalAccount) (kwargs : Dict) (key : String) (e : PyVal)
        (rses : List Dict), isPrivileged db issuer = false →
      (kwargs.getD "account" .none).isAccount issuer = false → kwargs.get? key = some e →
      db.parseExpression e issuer.vo = .ok rses → rses ≠ [] →
      hasPermission db issuer "get_global_account_usage" kwargs = .ok true →
      Covers db issuer rses := by
  intro h
  have hcovers := h bobsCountryDb bob
    [("account", .account ⟨"eve", "def"⟩), ("rse_expression", .str "*")] "rse_expression" (.str "*")
    [[("rse_id", .str "DESY-DISK")], [("rse_id", .str "LYON-DISK")]] (by decide) (by decide) rfl rfl
    (by simp) (by decide)
  obtain ⟨country, hadmin, hin⟩ := hcovers [("rse_id", .str "LYON-DISK")] (by simp)
  -- the RSE is in `fr`, of which Bob has no attribute
  have hfr : some (PyAtom.str "fr") = some (.str country) := hin
  obtain rfl : "fr" = country := by simpa using hfr
  rw [← mem_countriesOf_iff] at hadmin
  exact absurd hadmin (by decide)

end DiracRucioPolicy
