import DiracRucioPolicy.ForStd.SchemaRefinement
import DiracRucioPolicy.Native.Schema

/-!
# Schemas that stay in step

`COLLECTION` is a copy of `DID` with fewer fields and types, and `DELETE_REPLICA_FILE` a
copy of `ADD_REPLICA_FILE` with fewer fields. The copies refine the originals the way
their users expect.

## Key results

- `collections_refines`: a payload of datasets and containers is a payload of DIDs
- `addReplicaFiles_refines`: files announced to the cache can be withdrawn
- `schemas_in_step`: the same for `validate_schema`
-/

namespace DiracRucioPolicy

open Schema

variable (u : UnicodeDb)

/-! ## Collections are DIDs -/

/-- Every type of a collection is a type of a DID. -/
theorem collectionType_refines : Schemas.collectionType.Refines Schemas.didType := by
  apply Refines.enum (s := { type := some [.string] })
  simp [Schemas.strings]

/-- The schema of collections is closed and knows five of the ten fields of a DID. -/
theorem collection_refines : (Schemas.collection u).Refines (Schemas.did u) := by
  apply Refines.properties (s := { type := some [.object] })
  · simp only [List.forall_mem_cons]
    refine ⟨Or.inl ⟨Schemas.scope u, by simp, .refl _⟩, Or.inl ⟨Schemas.name u, by simp, .refl _⟩,
      Or.inl ⟨Schemas.collectionType, by simp, collectionType_refines⟩,
      Or.inl ⟨Schemas.meta u, by simp, .refl _⟩, Or.inl ⟨Schemas.rules u, by simp, .refl _⟩, ?_⟩
    -- the fields of files are unknown to the schema of collections
    simp
  · simp
  · simp

/-- So are lists of collections lists of DIDs. -/
theorem collections_refines : (Schemas.collections u).Refines (Schemas.dids u) :=
  .items (s := { type := some [.array], minItems := some 1, maxItems := some 1000 })
    (collection_refines u)

/-! ## The replica cache -/

/-- The scope and the name of an added file are all that deleting it asks for. -/
theorem addReplicaFile_refines :
    (Schemas.addReplicaFile u).Refines (Schemas.deleteReplicaFile u) := by
  apply Refines.properties (s := { type := some [.object] })
  · simp only [List.forall_mem_cons]
    exact ⟨Or.inl ⟨Schemas.scope u, by simp, .refl _⟩, Or.inl ⟨Schemas.name u, by simp, .refl _⟩,
      by simp⟩
  · simp
  · simp

/-- So are lists of such files. -/
theorem addReplicaFiles_refines :
    (Schemas.addReplicaFiles u).Refines (Schemas.deleteReplicaFiles u) :=
  .items (s := { type := some [.array], minItems := some 1, maxItems := some 1000 })
    (addReplicaFile_refines u)

/-- What is added to the cache can be deleted with the other operation. -/
theorem cacheDeleteReplicas_of_cacheAddReplicas {fields : List (String × Json)}
    (h : (Schemas.cacheAddReplicas u).valid (.obj fields) = true) :
    (Schemas.cacheDeleteReplicas u).valid
      (.obj (Json.replaceField fields "operation" (.str "delete_replicas"))) = true := by
  rw [valid_obj_iff rfl rfl] at h ⊢
  obtain ⟨hprops, hrequired, -⟩ := h
  simp only [Schemas.cacheAddReplicas, List.forall_mem_cons] at hprops hrequired
  obtain ⟨hfiles, hrse, -⟩ := hprops
  obtain ⟨hfiles', hrse', -, hoperation', -⟩ := hrequired
  -- the files and the RSE are still there, the operation is the new one
  have hother : ∀ k, k ≠ "operation" →
      (Json.replaceField fields "operation" (.str "delete_replicas")).lookup k =
        fields.lookup k :=
    fun k hk => Json.lookup_replaceField_of_ne hk
  have hoperation : (Json.replaceField fields "operation" (.str "delete_replicas")).lookup
      "operation" = some (.str "delete_replicas") := by
    obtain ⟨x, hx⟩ := hoperation'
    exact Json.lookup_replaceField_self (by rw [hx]; rfl)
  simp only [Schemas.cacheDeleteReplicas, List.forall_mem_cons, hother "files" (by decide),
    hother "rse" (by decide), hoperation]
  refine ⟨⟨fun x hx => addReplicaFiles_refines u x (hfiles x hx), hrse, ?_, by simp⟩,
    ⟨hfiles', hrse', ⟨_, rfl⟩, by simp⟩, by simp⟩
  intro x hx
  rw [← Option.some.inj hx]
  rfl

/-! ## `validate_schema` -/

/-- An accepted payload of collections is an accepted payload of DIDs; an accepted object
    that adds replicas to the cache is, with the operation replaced, an accepted object
    that deletes them. -/
theorem schemas_in_step :
    (∀ v, validateSchema u "collections" v = .ok () → validateSchema u "dids" v = .ok ()) ∧
    (∀ fields, fields ≠ [] → validateSchema u "cache_add_replicas" (.obj fields) = .ok () →
      validateSchema u "cache_delete_replicas"
        (.obj (Json.replaceField fields "operation" (.str "delete_replicas"))) = .ok ()) := by
  have hcollections : (Schemas.schemas u).lookup "collections" = some (Schemas.collections u) := rfl
  have hdids : (Schemas.schemas u).lookup "dids" = some (Schemas.dids u) := rfl
  have hadd : (Schemas.schemas u).lookup "cache_add_replicas" =
    some (Schemas.cacheAddReplicas u) := rfl
  have hdelete : (Schemas.schemas u).lookup "cache_delete_replicas" =
    some (Schemas.cacheDeleteReplicas u) := rfl
  constructor
  · intro v h
    rw [validateSchema_entry_iff hcollections] at h
    rw [validateSchema_entry_iff hdids]
    exact h.imp_right (collections_refines u v)
  · intro fields hne h
    rw [validateSchema_entry_iff hadd] at h
    rw [validateSchema_entry_iff hdelete]
    -- an object with fields is not falsy
    have htruthy : (Json.obj fields).truthy = true := by simpa [Json.truthy] using hne
    apply Or.inr
    apply cacheDeleteReplicas_of_cacheAddReplicas u
    exact h.resolve_left (by simp [htruthy])

/-- A dataset as a DID, and a file of the cache. -/
theorem schemas_in_step_foo :
    validateSchema .ascii "dids" (.arr [.obj
      [("scope", .str "foo"), ("name", .str "/vo/foo"), ("type", .str "DATASET")]]) = .ok () ∧
    validateSchema .ascii "cache_delete_replicas" (.obj
      [("files", .arr [.obj [("scope", .str "foo"), ("name", .str "/vo/foo"), ("bytes", .num 1),
          ("adler32", .str "0a1b2c3d")]]),
        ("rse", .str "DISK"), ("lifetime", .num 60), ("operation", .str "delete_replicas")]) =
      .ok () :=
  ⟨(schemas_in_step .ascii).1 _ (by decide),
    (schemas_in_step .ascii).2
      [("files", .arr [.obj [("scope", .str "foo"), ("name", .str "/vo/foo"), ("bytes", .num 1),
          ("adler32", .str "0a1b2c3d")]]),
        ("rse", .str "DISK"), ("lifetime", .num 60), ("operation", .str "add_replicas")]
      (by simp) (by decide)⟩

end DiracRucioPolicy
