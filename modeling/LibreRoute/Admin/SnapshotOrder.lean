import LibreRoute.Admin.SnapshotHash

/-!
Whether the hash of a snapshot depends on the order of rows.

It does not as long as the texts the rows are sorted by are all different. The
text of a row without an id joins the server and the profile by a slash and
writes `<nil>` for a missing profile, so two rows may have the same text, and
then stay in the order they came in.
-/

namespace LibreRoute.Admin

open LibreRoute.Lib Json

namespace SnapshotHash

/-! ### Identities -/

/-- What a row is known by. -/
inductive RowIdentity
  | content (text : String)
  | id (text : String)
  | server (serverId : String) (profileId : Option String)
  deriving DecidableEq

def RowIdentity.key : RowIdentity → String
  | .content text => text
  | .id text => text
  | .server serverId profileId => serverId ++ "/" ++ profileId.getD "<nil>"

def rowIdentity : Json → Except Throwable RowIdentity
  | .object obj => do
      match ← thrown (JsonObject.contentOf obj "id") with
      | some id => pure (.id id)
      | none =>
        match JsonObject.get obj "server_id" with
        | none => .error (.platform none)
        | some value => do
            let serverId ← thrown value.content
            let profileId ← thrown (JsonObject.contentOf obj "profile_id")
            pure (.server serverId profileId)
  | .array _ => .error (.json .notAnObject none)
  | row => do
      let text ← thrown row.content
      pure (.content text)

def identityText (row : Json) : Except Throwable String :=
  (rowIdentity row).map RowIdentity.key

theorem rowKey_eq_identityText (row : Json) : rowKey row = identityText row := by
  unfold identityText
  cases row with
  | object obj =>
    simp only [rowKey, rowIdentity]
    cases thrown (JsonObject.contentOf obj "id") with
    | error e => rfl
    | ok id =>
      cases id with
      | some id => rfl
      | none =>
        cases JsonObject.get obj "server_id" with
        | none => rfl
        | some value =>
          simp only [ok_bind]
          cases thrown value.content with
          | error e => rfl
          | ok serverId => cases thrown (JsonObject.contentOf obj "profile_id") <;> rfl
  | array items => rfl
  | _ => rfl

variable {rows' : List Json} {wire' fields : JsonObject} {row row' : Json}

theorem rowIdentity_of_same (hrow : row.Distinct) (h : row.Same row') :
    rowIdentity row = rowIdentity row' := by
  cases row with
  | object obj =>
    cases row' with
    | object obj' =>
      have hnodup := (distinct_object.1 hrow).1
      simp only [rowIdentity, contentOf_of_same hnodup h]
      rcases get_of_same hnodup h "server_id" with
        ⟨hnone, hnone'⟩ | ⟨value, value', hsome, hsome', hsame⟩
      · rw [hnone, hnone']
      · rw [hsome, hsome']
        simp only [content_of_same hsame]
    | _ => exact h.elim
  | array items =>
    cases row' with
    | array items' => rfl
    | _ => exact h.elim
  | null =>
    cases row' with
    | null => rfl
    | _ => exact h.elim
  | string text =>
    cases row' with
    | string text' => exact congrArg (rowIdentity ∘ string) h
    | _ => exact h.elim
  | literal text =>
    cases row' with
    | literal text' => exact congrArg (rowIdentity ∘ literal) h
    | _ => exact h.elim

theorem rowKey_of_same (hrow : row.Distinct) (h : row.Same row') : rowKey row = rowKey row' := by
  rw [rowKey_eq_identityText, rowKey_eq_identityText, identityText, identityText,
    rowIdentity_of_same hrow h]

theorem nodup_of_short {α : Type} {l : List α} (h : l.length ≤ 1) : l.Nodup := by
  cases l with
  | nil => exact .nil
  | cons a l =>
    obtain rfl : l = [] := by simpa using h
    exact List.nodup_singleton a

theorem nodup_identityText_iff {rows : List Json} (h : Sortable rows) :
    (rows.map identityText).Nodup ↔ (rows.map rowText).Nodup := by
  rcases h with hshort | hkeys
  · exact iff_of_true (nodup_of_short (by simpa using hshort))
      (nodup_of_short (by simpa using hshort))
  · have htexts : rows.map identityText = (rows.map rowText).map Except.ok := by
      rw [List.map_map]
      refine List.map_congr_left fun row hrow => ?_
      obtain ⟨key, hkey⟩ := hkeys row hrow
      rw [← rowKey_eq_identityText, hkey, Function.comp, rowText_eq hkey]
    rw [htexts, List.nodup_map_iff fun _ _ heq => Except.ok.inj heq]

/-! ### Different texts fix the order -/

theorem rows_of_sameValue {key : String} {rows : List Json} {value' : Json}
    (h : SameValue key (.array rows) value') :
    ∃ order rows', value' = .array rows' ∧ rows.Perm order ∧
      List.Forall₂ Json.Same order rows' := by
  cases h with
  | same hsame =>
    cases value' with
    | array rows' => exact ⟨rows, rows', rfl, .refl rows, same_array.1 hsame⟩
    | _ => exact hsame.elim
  | rows _ hperm hsame => exact ⟨_, _, rfl, hperm, hsame⟩

theorem sortable_of_same {rows order : List Json} (hrows : ∀ row ∈ rows, row.Distinct)
    (hperm : rows.Perm order) (hsame : List.Forall₂ Json.Same order rows') (h : Sortable rows) :
    Sortable rows' := by
  rcases h with hshort | hkeys
  · exact Or.inl (by rwa [← hsame.length_eq, ← hperm.length_eq])
  · refine Or.inr fun row' hrow' => ?_
    obtain ⟨row, hrow, h⟩ := exists_of_forall₂ hsame.flip hrow'
    have hmem := hperm.mem_iff.2 hrow
    rw [← rowKey_of_same (hrows row hmem) h]
    exact hkeys row hmem

theorem sorted_of_same {rows order : List Json} (hrows : ∀ row ∈ rows, row.Distinct)
    (hperm : rows.Perm order) (hsame : List.Forall₂ Json.Same order rows')
    (hnodup : (rows.map rowText).Nodup) :
    List.Forall₂ Json.Same (sortedBy rowText rows) (sortedBy rowText rows') := by
  rw [sortedBy_eq_of_perm hperm hnodup]
  have hboth : List.Forall₂ (fun row row' => row.Distinct ∧ row.Same row') order rows' :=
    (List.forall₂_and_left _ _).2 ⟨fun row hrow => hrows row (hperm.mem_iff.2 hrow), hsame⟩
  exact (forall₂_sortedBy (fun _ _ h => by rw [rowText, rowText, rowKey_of_same h.1 h.2]) hboth).imp
    fun _ _ h => h.2

theorem canonicalValue_of_sameValue {key : String} {value value' result : Json}
    (hvalue : value.Distinct) (h : canonicalValue key value = .ok result)
    (hsame : SameValue key value value')
    (hnodup : ∀ rows, key ∈ collections → value = .array rows → (rows.map rowText).Nodup) :
    ∃ result', canonicalValue key value' = .ok result' ∧ result.Same result' := by
  rcases canonicalValue_eq_ok_iff.1 h with ⟨hkept, rfl⟩ | ⟨rows, hkey, rfl, hsortable, rfl⟩
  · cases hsame with
    | same hsame =>
      rw [kind_eq_of_same hsame] at hkept
      exact ⟨value', canonicalValue_eq_ok_iff.2 (Or.inl ⟨hkept, rfl⟩), hsame⟩
    | rows hkey _ _ =>
      rcases hkept with hkept | hkept
      · exact absurd hkey hkept
      · exact absurd rfl hkept
  · obtain ⟨order, rows', rfl, hperm, hrows'⟩ := rows_of_sameValue hsame
    have hrows := distinct_array.1 hvalue
    refine ⟨.array (sortedBy rowText rows'), canonicalValue_eq_ok_iff.2 (Or.inr ⟨rows', hkey, rfl,
      sortable_of_same hrows hperm hrows' hsortable, rfl⟩), ?_⟩
    exact same_array.2 (sorted_of_same hrows hperm hrows' (hnodup rows hkey rfl))

theorem rearranged_covered {wire : JsonObject} (h : Rearranged wire wire') :
    Rearranged (covered wire) (covered wire') := by
  obtain ⟨hkeys, hvalues⟩ := h
  have hcovered : ∀ fields : JsonObject, (covered fields).map Prod.fst =
      (fields.map Prod.fst).filter fun key => key != "snapshot_hash" && key != "timestamp" := by
    intro fields
    rw [List.filter_map]
    rfl
  refine ⟨?_, fun field hfield => ?_⟩
  · rw [hcovered, hcovered]
    exact hkeys.filter _
  · obtain ⟨hmem, hkey⟩ := List.mem_filter.1 hfield
    obtain ⟨value', hmem', hsame⟩ := hvalues field hmem
    exact ⟨value', List.mem_filter.2 ⟨hmem', hkey⟩, hsame⟩

/-- No two rows of a listed collection have the same text. -/
def DifferentTexts (wire : JsonObject) : Prop :=
  ∀ key ∈ collections, ∀ rows, (key, array rows) ∈ wire → (rows.map rowText).Nodup

theorem canonical_of_rearranged {wire : JsonObject} (hwire : (object wire).Distinct)
    (hwire' : (object wire').Distinct) (hfields : List.Forall₂ Canonical wire fields)
    (h : Rearranged wire wire') (htexts : DifferentTexts wire) :
    ∃ fields', List.Forall₂ Canonical wire' fields' ∧
      (object fields).Same (.object fields') := by
  obtain ⟨hnodup, hvalues⟩ := distinct_object.1 hwire
  have hnodup' := (distinct_object.1 hwire').1
  -- what a field of the one snapshot becomes, the field of the other one becomes too
  have hfield : ∀ field ∈ wire, ∀ result, canonicalValue field.1 field.2 = .ok result →
      ∃ value' result', (field.1, value') ∈ wire' ∧
        canonicalValue field.1 value' = .ok result' ∧ result.Same result' := by
    intro field hmem result hresult
    obtain ⟨value', hmem', hsame⟩ := h.2 field hmem
    obtain ⟨result', hresult', hsame'⟩ := canonicalValue_of_sameValue (hvalues field hmem) hresult
      hsame fun rows hkey heq => htexts field.1 hkey rows (by rwa [← heq])
    exact ⟨value', result', hmem', hresult', hsame'⟩
  have hunique : ∀ {key value value'}, (key, value) ∈ wire' → (key, value') ∈ wire' →
      value = value' := by
    intro key value value' hmem hmem'
    have hget := (get_eq_some hnodup').2 hmem
    rw [(get_eq_some hnodup').2 hmem'] at hget
    exact (Option.some.inj hget).symm
  have hexists : ∀ field' ∈ wire', ∃ result', Canonical field' result' := by
    rintro ⟨key, value'⟩ hmem'
    have hkey : key ∈ wire.map Prod.fst := h.1.mem_iff.2 (List.mem_map_of_mem hmem')
    obtain ⟨field, hmem, rfl⟩ := List.mem_map.1 hkey
    obtain ⟨_, _, _, hresult⟩ := exists_of_forall₂ hfields hmem
    obtain ⟨value'', result', hmem'', hresult', -⟩ := hfield field hmem _ hresult
    obtain rfl := hunique hmem' hmem''
    exact ⟨(field.1, result'), rfl, hresult'⟩
  obtain ⟨fields', hfields'⟩ := exists_forall₂ hexists
  refine ⟨fields', hfields', same_object.2 ⟨?_, fun result hmem => ?_⟩⟩
  · rw [← keys_of_canonical hfields, ← keys_of_canonical hfields']
    exact h.1
  · obtain ⟨field, hmemField, hkey, hresult⟩ := exists_of_forall₂ hfields.flip hmem
    obtain ⟨value', result', hmem', hresult', hsame⟩ := hfield field hmemField _ hresult
    obtain ⟨⟨_, value⟩, hmemResult, hkey', hvalue⟩ := exists_of_forall₂ hfields' hmem'
    obtain rfl := hkey'
    rw [hresult'] at hvalue
    obtain rfl := Except.ok.inj hvalue
    exact ⟨result', by rwa [← hkey], hsame⟩

theorem isVersion2_of_rearranged {intOrNull : String → Option Int} {wire : JsonObject}
    (hwire : (object wire).Distinct) (hwire' : (object wire').Distinct)
    (h : Rearranged wire wire') (hversion : IsVersion2 intOrNull wire) :
    IsVersion2 intOrNull wire' := by
  obtain ⟨text, hcontent, htwo⟩ := hversion
  refine ⟨text, ?_, htwo⟩
  unfold JsonObject.contentOf at hcontent ⊢
  cases hget : JsonObject.get wire "snapshot_hash_version" with
  | none => simp [hget] at hcontent
  | some value =>
    obtain ⟨value', hmem', hsame⟩ :=
      h.2 _ ((get_eq_some (distinct_object.1 hwire).1).1 hget)
    rw [(get_eq_some (distinct_object.1 hwire').1).2 hmem']
    rw [hget] at hcontent
    cases hsame with
    | same hsame => simpa only [content_of_same hsame] using hcontent
    | rows hkey _ _ => simp [collections] at hkey

/-! ### Rows with the same text keep their order -/

def withRows (wire : JsonObject) (key : String) (rows : List Json) : JsonObject :=
  wire.map fun field => if field.1 = key then (key, .array rows) else field

variable {wire : JsonObject} {key : String} {rows : List Json}

theorem keys_withRows (wire : JsonObject) (key : String) (rows : List Json) :
    (withRows wire key rows).map Prod.fst = wire.map Prod.fst := by
  rw [withRows, List.map_map]
  refine List.map_congr_left fun field _ => ?_
  rw [Function.comp]
  split
  · next hkey => exact hkey.symm
  · rfl

theorem mem_withRows (hmem : (key, array rows) ∈ wire) (rows' : List Json) :
    (key, array rows') ∈ withRows wire key rows' :=
  List.mem_map.2 ⟨_, hmem, if_pos rfl⟩

theorem distinct_withRows (hwire : (object wire).Distinct)
    (hrows' : ∀ row ∈ rows', row.Distinct) : (object (withRows wire key rows')).Distinct := by
  obtain ⟨hnodup, hvalues⟩ := distinct_object.1 hwire
  refine distinct_object.2 ⟨by rwa [keys_withRows], fun field hfield => ?_⟩
  obtain ⟨old, hold, rfl⟩ := List.mem_map.1 hfield
  split
  · exact distinct_array.2 hrows'
  · exact hvalues old hold

theorem rearranged_withRows (hwire : (object wire).Distinct) (hkey : key ∈ collections)
    (hmem : (key, array rows) ∈ wire) (hperm : rows.Perm rows') :
    Rearranged wire (withRows wire key rows') := by
  have hnodup := (distinct_object.1 hwire).1
  refine ⟨by rw [keys_withRows], fun field hfield => ?_⟩
  by_cases hfieldKey : field.1 = key
  · obtain ⟨_, value⟩ := field
    obtain rfl := hfieldKey
    have hget := (get_eq_some hnodup).2 hfield
    rw [(get_eq_some hnodup).2 hmem] at hget
    obtain rfl := Option.some.inj hget
    exact ⟨.array rows', mem_withRows hmem rows', .rows hkey hperm
      (List.forall₂_same.2 fun row _ => same_refl row)⟩
  · exact ⟨field.2, List.mem_map.2 ⟨field, hfield, if_neg hfieldKey⟩, .same (same_refl _)⟩

theorem mem_covered (hkey : key ∈ collections) {value : Json} (hmem : (key, value) ∈ wire) :
    (key, value) ∈ covered wire := by
  have hlisted : ∀ key ∈ collections, (key != "snapshot_hash" && key != "timestamp") = true := by
    decide
  exact List.mem_filter.2 ⟨hmem, hlisted key hkey⟩

theorem rows_of_canonical (hfields : canonical wire = .ok fields) (hkey : key ∈ collections)
    (hmem : (key, array rows) ∈ wire) :
    Sortable rows ∧ (key, array (sortedBy rowText rows)) ∈ fields := by
  obtain ⟨⟨_, value⟩, hresult, rfl, hvalue⟩ :=
    exists_of_forall₂ (canonical_eq_ok_iff.1 hfields) (mem_covered hkey hmem)
  rcases canonicalValue_eq_ok_iff.1 hvalue with ⟨hkept, -⟩ | ⟨rows', -, hrows, hsortable, hsorted⟩
  · rcases hkept with hkept | hkept
    · exact absurd hkey hkept
    · exact absurd rfl hkept
  · obtain rfl := array.inj hrows
    rw [show value = _ from hsorted] at hresult
    exact ⟨hsortable, hresult⟩

theorem sorted_of_hash_eq {intOrNull : String → Option Int} {sha256 : List UInt8 → List UInt8}
    (hsha : Function.Injective sha256) {digest : String} (hwire : (object wire).Distinct)
    (hwire' : (object wire').Distinct)
    (h : computeClusterSnapshotHash intOrNull sha256 wire = .ok digest)
    (h' : computeClusterSnapshotHash intOrNull sha256 wire' = .ok digest) (hkey : key ∈ collections)
    (hmem : (key, array rows) ∈ wire) (hmem' : (key, array rows') ∈ wire') :
    List.Forall₂ Json.Same (sortedBy rowText rows) (sortedBy rowText rows') := by
  obtain ⟨-, fields, hfields, hdigest⟩ := hash_eq_ok_iff.1 h
  obtain ⟨-, fields', hfields', hdigest'⟩ := hash_eq_ok_iff.1 h'
  have hsame := same_of_hash_eq hsha hwire hwire' hfields hfields' (hdigest.symm.trans hdigest')
  have hnodup' := (distinct_object.1
    (distinct_canonical (distinct_covered hwire') (canonical_eq_ok_iff.1 hfields'))).1
  obtain ⟨value', hvalue', hrows⟩ :=
    (same_object.1 hsame).2 _ (rows_of_canonical hfields hkey hmem).2
  have hget := (get_eq_some hnodup').2 hvalue'
  rw [(get_eq_some hnodup').2 (rows_of_canonical hfields' hkey hmem').2] at hget
  rw [← Option.some.inj hget] at hrows
  exact same_array.1 hrows

theorem not_sorted_of_reverse (hrows : ∀ row ∈ rows, row.Distinct)
    (hidentities : (rows.map rowIdentity).Nodup) (htexts : ¬ (rows.map rowText).Nodup) :
    ¬ List.Forall₂ Json.Same (sortedBy rowText rows) (sortedBy rowText rows.reverse) := by
  intro hsame
  rw [List.nodup_iff_sublist] at htexts
  push Not at htexts
  obtain ⟨text, hpair⟩ := htexts
  obtain ⟨pair, hpair, htext⟩ := List.sublist_map_iff.1 hpair
  obtain ⟨x, y, rfl⟩ : ∃ x y, pair = [x, y] := List.length_eq_two.1 (by
    simpa using (congrArg List.length htext).symm)
  obtain ⟨hx, hy⟩ : text = rowText x ∧ text = rowText y := by simpa using htext
  have hsorted := pair_sublist_sortedBy (hx.symm.trans hy) hpair
  have hreverse := pair_sublist_sortedBy (hy.symm.trans hx) (by simpa using hpair.reverse)
  -- after sorting the rows have the same identities in both orders
  have hequal : (sortedBy rowText rows).map rowIdentity =
      (sortedBy rowText rows.reverse).map rowIdentity := by
    rw [← List.forall₂_eq_eq_eq, List.forall₂_map_left_iff, List.forall₂_map_right_iff]
    have hdistinct : ∀ row ∈ sortedBy rowText rows, row.Distinct := fun row hrow =>
      hrows row ((sortedBy_perm _ _).mem_iff.1 hrow)
    exact ((List.forall₂_and_left _ _).2 ⟨hdistinct, hsame⟩).imp fun _ _ h =>
      rowIdentity_of_same h.1 h.2
  have hnodup : ((sortedBy rowText rows).map rowIdentity).Nodup :=
    ((sortedBy_perm rowText rows).map rowIdentity).nodup_iff.2 hidentities
  exact not_pair_sublist_swap hnodup (hsorted.map rowIdentity)
    (by rw [hequal]; exact hreverse.map rowIdentity)

def DistinctIdentities (wire : JsonObject) : Prop :=
  ∀ key ∈ collections, ∀ rows, (key, array rows) ∈ wire → (rows.map rowIdentity).Nodup

/-- The identities of the rows of each listed collection have different texts. -/
def DistinctTexts (wire : JsonObject) : Prop :=
  ∀ key ∈ collections, ∀ rows, (key, array rows) ∈ wire → (rows.map identityText).Nodup

theorem distinctTexts_iff (hfields : canonical wire = .ok fields) :
    DistinctTexts wire ↔ DifferentTexts wire := by
  refine forall_congr' fun key => forall_congr' fun hkey => forall_congr' fun rows =>
    forall_congr' fun hmem => ?_
  exact nodup_identityText_iff (rows_of_canonical hfields hkey hmem).1

end SnapshotHash

open SnapshotHash in
/-- The order of rows and keys changes the hash of no snapshot, unless two rows of a listed
collection have the same text for different identities. -/
theorem snapshot_hash_ignores_order_iff (intOrNull : String → Option Int)
    (sha256 : List UInt8 → List UInt8) (hsha : Function.Injective sha256) (wire : JsonObject)
    (hwire : (object wire).Distinct) (digest : String)
    (h : computeClusterSnapshotHash intOrNull sha256 wire = .ok digest)
    (hidentities : DistinctIdentities wire) :
    (∀ wire', (object wire').Distinct → Rearranged wire wire' →
      computeClusterSnapshotHash intOrNull sha256 wire' = .ok digest) ↔ DistinctTexts wire := by
  obtain ⟨hversion, fields, hfields, hdigest⟩ := hash_eq_ok_iff.1 h
  rw [distinctTexts_iff hfields]
  constructor
  · intro horder key hkey rows hmem
    by_contra htexts
    have hrows := distinct_array.1 ((distinct_object.1 hwire).2 _ hmem)
    have hwire' : (object (withRows wire key rows.reverse)).Distinct :=
      distinct_withRows hwire fun row hrow => hrows row (List.mem_reverse.1 hrow)
    have h' := horder _ hwire' (rearranged_withRows hwire hkey hmem rows.reverse_perm.symm)
    exact not_sorted_of_reverse hrows (hidentities key hkey rows hmem) htexts
      (sorted_of_hash_eq hsha hwire hwire' h h' hkey hmem (mem_withRows hmem rows.reverse))
  · intro htexts wire' hwire' hsame
    have htexts' : DifferentTexts (covered wire) := fun key hkey rows hmem =>
      htexts key hkey rows (List.mem_filter.1 hmem).1
    obtain ⟨fields', hfields', hsame'⟩ := canonical_of_rearranged (distinct_covered hwire)
      (distinct_covered hwire') (canonical_eq_ok_iff.1 hfields) (rearranged_covered hsame) htexts'
    have hdistinct' := distinct_canonical (distinct_covered hwire') hfields'
    refine hash_eq_ok_iff.2 ⟨isVersion2_of_rearranged hwire hwire' hsame hversion, fields',
      canonical_eq_ok_iff.2 hfields', ?_⟩
    rw [hdigest, visit_eq_of_same hdistinct' hsame']

namespace SnapshotHash

/-- Two statuses of different servers with the text `relay/eu/main`. -/
def clashingRows : List Json :=
  [.object [("server_id", .string "relay"), ("profile_id", .string "eu/main")],
    .object [("server_id", .string "relay/eu"), ("profile_id", .string "main")]]

def clashingWire : JsonObject :=
  [("snapshot_hash_version", .literal "2"), ("worker_statuses", .array clashingRows)]

theorem distinct_clashingRows : ∀ row ∈ clashingRows, row.Distinct := by
  simp [clashingRows, Json.Distinct, Json.DistinctFields]

theorem distinct_clashingWire : (object clashingWire).Distinct := by
  refine distinct_object.2 ⟨by decide, ?_⟩
  simp only [clashingWire, List.forall_mem_cons, List.not_mem_nil, false_implies, implies_true,
    and_true]
  exact ⟨trivial, distinct_array.2 distinct_clashingRows⟩

theorem identities_clashingRows : (clashingRows.map rowIdentity).Nodup := by
  have hidentities : clashingRows.map rowIdentity =
      [.ok (.server "relay" (some "eu/main")), .ok (.server "relay/eu" (some "main"))] := rfl
  rw [hidentities]
  simp

theorem distinctIdentities_clashingWire : DistinctIdentities clashingWire := by
  intro key _ rows hmem
  simp only [clashingWire, List.mem_cons, Prod.mk.injEq, reduceCtorEq, and_false, false_or,
    List.not_mem_nil, or_false, array.injEq] at hmem
  rw [hmem.2]
  exact identities_clashingRows

theorem texts_clashingRows : ¬ (clashingRows.map rowText).Nodup := by
  have htexts : clashingRows.map rowText = ["relay/eu/main", "relay/eu/main"] := rfl
  rw [htexts]
  simp

theorem hash_clashingWire :
    ∃ digest, computeClusterSnapshotHash smallNumber id clashingWire = .ok digest :=
  ⟨_, hash_eq_ok_iff.2 ⟨⟨"2", rfl, rfl⟩, _, rfl, rfl⟩⟩

end SnapshotHash

open SnapshotHash in
theorem snapshot_hash_ignores_order_iff_clashingWire :
    Function.Injective (id : List UInt8 → List UInt8) ∧ (object clashingWire).Distinct ∧
      DistinctIdentities clashingWire ∧
      ∃ digest, computeClusterSnapshotHash smallNumber id clashingWire = .ok digest ∧
        ((∀ wire', (object wire').Distinct → Rearranged clashingWire wire' →
          computeClusterSnapshotHash smallNumber id wire' = .ok digest) ↔
            DistinctTexts clashingWire) := by
  obtain ⟨digest, hdigest⟩ := hash_clashingWire
  exact ⟨Function.injective_id, distinct_clashingWire, distinctIdentities_clashingWire, digest,
    hdigest, snapshot_hash_ignores_order_iff smallNumber id Function.injective_id clashingWire
      distinct_clashingWire digest hdigest distinctIdentities_clashingWire⟩

open SnapshotHash in
/-- With the two statuses in the other order the snapshot has another hash. -/
theorem snapshot_hash_depends_on_order :
    (object clashingWire).Distinct ∧ DistinctIdentities clashingWire ∧
      (object (withRows clashingWire "worker_statuses" clashingRows.reverse)).Distinct ∧
      Rearranged clashingWire (withRows clashingWire "worker_statuses" clashingRows.reverse) ∧
      ∃ digest, computeClusterSnapshotHash smallNumber id clashingWire = .ok digest ∧
        computeClusterSnapshotHash smallNumber id
          (withRows clashingWire "worker_statuses" clashingRows.reverse) ≠ .ok digest := by
  obtain ⟨digest, hdigest⟩ := hash_clashingWire
  have hkey : "worker_statuses" ∈ collections := by decide
  have hmem : ("worker_statuses", array clashingRows) ∈ clashingWire := by simp [clashingWire]
  have hwire' : (object
      (withRows clashingWire "worker_statuses" clashingRows.reverse)).Distinct :=
    distinct_withRows distinct_clashingWire fun row hrow =>
      distinct_clashingRows row (List.mem_reverse.1 hrow)
  refine ⟨distinct_clashingWire, distinctIdentities_clashingWire, hwire',
    rearranged_withRows distinct_clashingWire hkey hmem clashingRows.reverse_perm.symm,
    digest, hdigest, fun hdigest' => ?_⟩
  exact not_sorted_of_reverse distinct_clashingRows identities_clashingRows texts_clashingRows
    (sorted_of_hash_eq Function.injective_id distinct_clashingWire hwire' hdigest hdigest' hkey hmem
      (mem_withRows hmem clashingRows.reverse))

end LibreRoute.Admin
