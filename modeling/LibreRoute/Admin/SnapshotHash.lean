import LibreRoute.Admin.KeyManager
import LibreRoute.Lib.JsonValue
import LibreRoute.Lib.Tokens
import Mathlib.Data.List.Perm.Basic

/-!
The hash of a cluster snapshot.

It is taken of the whole JSON value, with keys and rows in order, as a
sequence of texts with their lengths. The lengths make the sequence readable,
so the hash covers all that is written (`visit_append_inj`). Rows are sorted
by a text made of their identity; rows of different identities may have the
same text.
-/

namespace LibreRoute.Admin

open LibreRoute.Lib Json

namespace SnapshotHash

def thrown {α : Type} (result : Except JsonError α) : Except Throwable α :=
  result.mapError (Throwable.json · none)

/-- The text a row is sorted by. -/
def rowKey : Json → Except Throwable String
  | .object obj => do
      match ← thrown (JsonObject.contentOf obj "id") with
      | some id => pure id
      | none =>
        match JsonObject.get obj "server_id" with
        | none => .error (.platform none)
        | some value => do
            let serverId ← thrown value.content
            let profileId ← thrown (JsonObject.contentOf obj "profile_id")
            pure (serverId ++ "/" ++ profileId.getD "<nil>")
  | .array _ => .error (.json .notAnObject none)
  | row => thrown row.content

/-- `rows.sortedBy { … }`, which looks at no row if there is one at most. -/
def sortRows (rows : List Json) : Except Throwable (List Json) :=
  if rows.length ≤ 1 then pure rows
  else do
    let keyed ← rows.mapM fun row => do
      let key ← rowKey row
      pure (key, row)
    pure ((sortedBy Prod.fst keyed).map Prod.snd)

def collections : List String :=
  ["servers", "server_nodes", "users", "devices", "assignments", "profiles", "worker_statuses"]

def canonicalValue (key : String) : Json → Except Throwable Json
  | .array rows =>
    if key ∈ collections then do
      let sorted ← sortRows rows
      pure (.array sorted)
    else pure (.array rows)
  | value => pure value

def covered (wire : JsonObject) : JsonObject :=
  wire.filter fun field => field.1 != "snapshot_hash" && field.1 != "timestamp"

def canonical (wire : JsonObject) : Except Throwable JsonObject :=
  (covered wire).mapM fun field => do
    let value ← canonicalValue field.1 field.2
    pure (field.1, value)

/-- `primitive.booleanOrNull != null`. -/
def isBoolean (text : String) : Bool :=
  equalsIgnoreCase text "true" || equalsIgnoreCase text "false"

mutual

/-- What is hashed of a value. The values of an object are visited before its keys are sorted,
which comes to the same. -/
def visit : Json → List UInt8
  | .object fields =>
    token "object" ++ token (toString fields.length) ++
      (sortedBy Prod.fst (visitFields fields)).flatMap Prod.snd
  | .array items => token "array" ++ token (toString items.length) ++ visitItems items
  | .null => token "null"
  | .string text => token "string" ++ token text
  | .literal text => token (if isBoolean text then "bool" else "number") ++ token text

def visitItems : List Json → List UInt8
  | [] => []
  | item :: items => visit item ++ visitItems items

def visitFields : List (String × Json) → List (String × List UInt8)
  | [] => []
  | (key, value) :: fields => (key, token key ++ visit value) :: visitFields fields

end

section Hash

variable (intOrNull : String → Option Int) (sha256 : List UInt8 → List UInt8)

def computeClusterSnapshotHash (wire : JsonObject) : Except Throwable String := do
  let version ← thrown (JsonObject.contentOf wire "snapshot_hash_version")
  require (version.bind intOrNull == some 2)
    (Throwable.illegalArgument "Неподдерживаемая версия контрольной суммы снимка")
  let fields ← canonical wire
  pure (Platform.hex (sha256 (visit (.object fields))))

end Hash

/-! ### Reading what is hashed -/

theorem visitItems_eq (items : List Json) : visitItems items = items.flatMap visit := by
  induction items with
  | nil => rfl
  | cons item items ih => rw [visitItems, ih, List.flatMap_cons]

def visitField (field : String × Json) : List UInt8 := token field.1 ++ visit field.2

theorem visitFields_eq (fields : JsonObject) :
    visitFields fields = fields.map fun field => (field.1, visitField field) := by
  induction fields with
  | nil => rfl
  | cons field fields ih => rw [visitFields, ih, List.map_cons, visitField]

theorem visit_array (items : List Json) :
    visit (.array items) = token "array" ++ token (toString items.length) ++
      items.flatMap visit := by
  rw [visit, visitItems_eq]

theorem visit_object (fields : JsonObject) :
    visit (.object fields) = token "object" ++ token (toString fields.length) ++
      (sortedBy Prod.fst fields).flatMap visitField := by
  rw [visit, visitFields_eq, sortedBy_map, List.flatMap_map]
  rfl

def tag : Json → String
  | .object _ => "object"
  | .array _ => "array"
  | .null => "null"
  | .string _ => "string"
  | .literal text => if isBoolean text then "bool" else "number"

def body : Json → List UInt8
  | .object fields =>
    token (toString fields.length) ++ (sortedBy Prod.fst fields).flatMap visitField
  | .array items => token (toString items.length) ++ items.flatMap visit
  | .null => []
  | .string text => token text
  | .literal text => token text

theorem visit_eq (value : Json) : visit value = token (tag value) ++ body value := by
  cases value with
  | null => rw [visit, body, List.append_nil, tag]
  | literal text => rw [visit, body, tag]
  | string text => rw [visit, body, tag]
  | array items => rw [visit_array, body, tag, List.append_assoc]
  | object fields => rw [visit_object, body, tag, List.append_assoc]

inductive Kind
  | object
  | array
  | null
  | string
  | literal

def kind : Json → Kind
  | .object _ => .object
  | .array _ => .array
  | .null => .null
  | .string _ => .string
  | .literal _ => .literal

def kindOfTag (text : String) : Kind :=
  if text = "object" then .object
  else if text = "array" then .array
  else if text = "null" then .null
  else if text = "string" then .string
  else .literal

theorem kindOfTag_tag (value : Json) : kindOfTag (tag value) = kind value := by
  cases value with
  | literal text =>
    rw [tag]
    split <;> rfl
  | _ => rfl

theorem length_eq_of_token {m n : Nat} {x y : List UInt8}
    (h : token (toString m) ++ x = token (toString n) ++ y) : m = n ∧ x = y := by
  obtain ⟨hsize, hrest⟩ := token_append_inj h
  exact ⟨natRepr_injective hsize, hrest⟩

theorem kind_body_of_visit {a b : Json} {x y : List UInt8} (h : visit a ++ x = visit b ++ y) :
    kind a = kind b ∧ body a ++ x = body b ++ y := by
  rw [visit_eq, visit_eq, List.append_assoc, List.append_assoc] at h
  obtain ⟨htag, hbody⟩ := token_append_inj h
  rw [← kindOfTag_tag a, htag, kindOfTag_tag]
  exact ⟨rfl, hbody⟩

theorem visit_append_inj {a b : Json} (ha : a.Distinct) (hb : b.Distinct) {x y : List UInt8}
    (h : visit a ++ x = visit b ++ y) : a.Same b ∧ x = y := by
  induction a using induction generalizing b x y with
  | null =>
    obtain ⟨hkind, hbody⟩ := kind_body_of_visit h
    cases b with
    | null => exact ⟨trivial, hbody⟩
    | _ => simp [kind] at hkind
  | literal text =>
    obtain ⟨hkind, hbody⟩ := kind_body_of_visit h
    cases b with
    | literal text' => exact token_append_inj hbody
    | _ => simp [kind] at hkind
  | string text =>
    obtain ⟨hkind, hbody⟩ := kind_body_of_visit h
    cases b with
    | string text' => exact token_append_inj hbody
    | _ => simp [kind] at hkind
  | array items ih =>
    obtain ⟨hkind, hbody⟩ := kind_body_of_visit h
    cases b with
    | array items' =>
      rw [body, body, List.append_assoc, List.append_assoc] at hbody
      obtain ⟨hlength, hbody⟩ := length_eq_of_token hbody
      rw [same_array]
      refine flatMap_append_inj hlength (fun item hitem item' hitem' x y htext => ?_) hbody
      exact ih item hitem (distinct_array.1 ha item hitem)
        (distinct_array.1 hb item' hitem') htext
    | _ => simp [kind] at hkind
  | object fields ih =>
    obtain ⟨hkind, hbody⟩ := kind_body_of_visit h
    cases b with
    | object fields' =>
      obtain ⟨-, hvalues⟩ := distinct_object.1 ha
      obtain ⟨hnodup', hvalues'⟩ := distinct_object.1 hb
      rw [body, body, List.append_assoc, List.append_assoc] at hbody
      obtain ⟨hlength, hbody⟩ := length_eq_of_token hbody
      rw [same_object, related_iff_sorted hnodup']
      have hsorted : (sortedBy Prod.fst fields).length = (sortedBy Prod.fst fields').length := by
        rw [(sortedBy_perm _ fields).length_eq, (sortedBy_perm _ fields').length_eq, hlength]
      refine flatMap_append_inj hsorted (fun field hfield field' hfield' x y htext => ?_) hbody
      rw [visitField, visitField, List.append_assoc, List.append_assoc] at htext
      obtain ⟨hkey, htext⟩ := token_append_inj htext
      have hmem := (sortedBy_perm Prod.fst fields).mem_iff.1 hfield
      have hmem' := (sortedBy_perm Prod.fst fields').mem_iff.1 hfield'
      obtain ⟨hvalue, hrest⟩ := ih field hmem (hvalues field hmem) (hvalues' field' hmem') htext
      exact ⟨⟨hkey, hvalue⟩, hrest⟩
    | _ => simp [kind] at hkind

theorem visit_eq_of_same {a b : Json} (hb : b.Distinct) (h : a.Same b) : visit a = visit b := by
  induction a using induction generalizing b with
  | null =>
    cases b with
    | null => rfl
    | _ => exact h.elim
  | literal text =>
    cases b with
    | literal text' => exact congrArg (visit ∘ literal) h
    | _ => exact h.elim
  | string text =>
    cases b with
    | string text' => exact congrArg (visit ∘ string) h
    | _ => exact h.elim
  | array items ih =>
    cases b with
    | array items' =>
      have hitems := same_array.1 h
      rw [visit_array, visit_array, hitems.length_eq]
      congr 1
      exact flatMap_eq_of_forall₂ hitems fun item hitem item' hitem' hsame =>
        ih item hitem (distinct_array.1 hb item' hitem') hsame
    | _ => exact h.elim
  | object fields ih =>
    cases b with
    | object fields' =>
      obtain ⟨hnodup', hvalues'⟩ := distinct_object.1 hb
      have hfields := (related_iff_sorted hnodup').1 (same_object.1 h)
      have hlength := (same_object.1 h).1.length_eq
      rw [List.length_map, List.length_map] at hlength
      rw [visit_object, visit_object, hlength]
      congr 1
      refine flatMap_eq_of_forall₂ hfields fun field hfield field' hfield' hsame => ?_
      have hmem := (sortedBy_perm Prod.fst fields).mem_iff.1 hfield
      have hmem' := (sortedBy_perm Prod.fst fields').mem_iff.1 hfield'
      rw [visitField, visitField, hsame.1, ih field hmem (hvalues' field' hmem') hsame.2]
    | _ => exact h.elim

def rowText (row : Json) : String :=
  match rowKey row with
  | .ok key => key
  | .error _ => ""

theorem rowText_eq {row : Json} {key : String} (h : rowKey row = .ok key) : rowText row = key := by
  rw [rowText, h]

def Sortable (rows : List Json) : Prop :=
  rows.length ≤ 1 ∨ ∀ row ∈ rows, ∃ key, rowKey row = .ok key

theorem keyed_eq_ok_iff {rows : List Json} {keyed : List (String × Json)} : (rows.mapM fun row => do
      let key ← rowKey row
      pure (key, row)) = .ok keyed ↔
      (∀ row ∈ rows, ∃ key, rowKey row = .ok key) ∧
        keyed = rows.map fun row => (rowText row, row) := by
  simp only [mapM_eq_ok_iff, bind_eq_ok, pure_eq_ok, Except.ok.injEq]
  constructor
  · intro h
    constructor
    · intro row hrow
      obtain ⟨_, _, key, hkey, -⟩ := exists_of_forall₂ h hrow
      exact ⟨key, hkey⟩
    · rw [← List.forall₂_eq_eq_eq, List.forall₂_map_right_iff]
      refine List.Forall₂.flip (h.imp ?_)
      rintro row _ ⟨key, hkey, rfl⟩
      exact Prod.ext (rowText_eq hkey).symm rfl
  · rintro ⟨hkeys, rfl⟩
    rw [List.forall₂_map_right_iff, List.forall₂_same]
    intro row hrow
    obtain ⟨key, hkey⟩ := hkeys row hrow
    exact ⟨key, hkey, Prod.ext (rowText_eq hkey).symm rfl⟩

theorem sortedBy_of_short {α : Type} (key : α → String) {l : List α} (h : l.length ≤ 1) :
    sortedBy key l = l := by
  cases l with
  | nil => rfl
  | cons a l =>
    obtain rfl : l = [] := by simpa using h
    rfl

theorem sortRows_eq_ok_iff {rows sorted : List Json} :
    sortRows rows = .ok sorted ↔ Sortable rows ∧ sorted = sortedBy rowText rows := by
  unfold sortRows Sortable
  split
  · next hshort =>
      rw [pure_eq_ok, Except.ok.injEq, sortedBy_of_short rowText hshort]
      simp [hshort, eq_comm]
  · next hlong =>
      have hsorted : (sortedBy Prod.fst (rows.map fun row => (rowText row, row))).map Prod.snd =
          sortedBy rowText rows := by
        rw [sortedBy_map, List.map_map]
        exact List.map_id _
      rw [bind_eq_ok]
      constructor
      · rintro ⟨keyed, hkeyed, hresult⟩
        obtain ⟨hkeys, rfl⟩ := keyed_eq_ok_iff.1 hkeyed
        exact ⟨Or.inr hkeys, (Except.ok.inj hresult).symm.trans hsorted⟩
      · rintro ⟨hsortable, rfl⟩
        have hkeys := hsortable.resolve_left hlong
        exact ⟨_, keyed_eq_ok_iff.2 ⟨hkeys, rfl⟩, congrArg Except.ok hsorted⟩

/-! ### Snapshots that differ in order only -/

inductive SameValue (key : String) : Json → Json → Prop
  | same {value value' : Json} (h : value.Same value') : SameValue key value value'
  | rows {rows order rows' : List Json} (hkey : key ∈ collections) (hperm : rows.Perm order)
      (h : List.Forall₂ Json.Same order rows') : SameValue key (.array rows) (.array rows')

/-- The snapshots are the same up to the order of the keys of objects and of the rows in the
listed collections. -/
def Rearranged (wire wire' : JsonObject) : Prop :=
  (wire.map Prod.fst).Perm (wire'.map Prod.fst) ∧
    ∀ field ∈ wire, ∃ value', (field.1, value') ∈ wire' ∧ SameValue field.1 field.2 value'

theorem canonicalValue_eq_ok_iff {key : String} {value result : Json} :
    canonicalValue key value = .ok result ↔
      (key ∉ collections ∨ kind value ≠ .array) ∧ result = value ∨
      ∃ rows, key ∈ collections ∧ value = .array rows ∧ Sortable rows ∧
        result = .array (sortedBy rowText rows) := by
  cases value with
  | array rows =>
    rw [canonicalValue]
    split
    · next hkey =>
        simp only [bind_eq_ok, sortRows_eq_ok_iff, pure_eq_ok, Except.ok.injEq]
        constructor
        · rintro ⟨_, ⟨hsortable, rfl⟩, rfl⟩
          exact Or.inr ⟨rows, hkey, rfl, hsortable, rfl⟩
        · rintro (⟨hkept, -⟩ | ⟨rows', -, hrows, hsortable, rfl⟩)
          · rcases hkept with hkept | hkept
            · exact absurd hkey hkept
            · exact absurd rfl hkept
          · obtain rfl := array.inj hrows
            exact ⟨_, ⟨hsortable, rfl⟩, rfl⟩
    · next hkey => simp [hkey, eq_comm]
  | _ => simp [canonicalValue, kind, eq_comm]

theorem kind_eq_of_same {a b : Json} (h : a.Same b) : kind a = kind b := by
  cases a <;> cases b <;> first | rfl | exact h.elim

theorem kind_canonicalValue {key : String} {value result : Json}
    (h : canonicalValue key value = .ok result) : kind result = kind value := by
  rcases canonicalValue_eq_ok_iff.1 h with ⟨-, rfl⟩ | ⟨rows, -, rfl, -, rfl⟩ <;> rfl

theorem distinct_canonicalValue {key : String} {value result : Json} (hvalue : value.Distinct)
    (h : canonicalValue key value = .ok result) : result.Distinct := by
  rcases canonicalValue_eq_ok_iff.1 h with ⟨-, rfl⟩ | ⟨rows, -, rfl, -, rfl⟩
  · exact hvalue
  · rw [distinct_array] at hvalue ⊢
    exact fun row hrow => hvalue row ((sortedBy_perm _ _).mem_iff.1 hrow)

theorem sameValue_of_canonical {key : String} {value value' result result' : Json}
    (h : canonicalValue key value = .ok result) (h' : canonicalValue key value' = .ok result')
    (hsame : result.Same result') : SameValue key value value' := by
  have hkind : kind value = kind value' := by
    rw [← kind_canonicalValue h, ← kind_canonicalValue h', kind_eq_of_same hsame]
  rcases canonicalValue_eq_ok_iff.1 h with ⟨hkept, rfl⟩ | ⟨rows, hkey, rfl, -, rfl⟩
  · rcases canonicalValue_eq_ok_iff.1 h' with ⟨-, rfl⟩ | ⟨rows', hkey', rfl, -, rfl⟩
    · exact .same hsame
    · rcases hkept with hkept | hkept
      · exact absurd hkey' hkept
      · exact absurd hkind hkept
  · rcases canonicalValue_eq_ok_iff.1 h' with ⟨hkept', rfl⟩ | ⟨rows', -, rfl, -, rfl⟩
    · rcases hkept' with hkept' | hkept'
      · exact absurd hkey hkept'
      · exact absurd hkind.symm hkept'
    · have hrows := same_array.1 hsame
      -- the rows of the other snapshot are the sorted ones in another order, and so are these
      have hcomp : Relation.Comp (List.Forall₂ Json.Same) List.Perm (sortedBy rowText rows) rows' :=
        ⟨sortedBy rowText rows', hrows, sortedBy_perm rowText rows'⟩
      rw [List.forall₂_comp_perm_eq_perm_comp_forall₂] at hcomp
      obtain ⟨order, horder, hforall⟩ := hcomp
      exact .rows hkey ((sortedBy_perm rowText rows).symm.trans horder) hforall

def Canonical (field result : String × Json) : Prop :=
  field.1 = result.1 ∧ canonicalValue field.1 field.2 = .ok result.2

theorem canonical_eq_ok_iff {wire fields : JsonObject} :
    canonical wire = .ok fields ↔ List.Forall₂ Canonical (covered wire) fields := by
  unfold canonical
  rw [mapM_eq_ok_iff]
  have hfield : ∀ field result : String × Json, (do
      let value ← canonicalValue field.1 field.2
      pure (field.1, value)) = Except.ok result ↔ Canonical field result := by
    rintro field ⟨key, value⟩
    simp only [bind_eq_ok, pure_eq_ok, Except.ok.injEq, Prod.mk.injEq, Canonical]
    constructor
    · rintro ⟨_, hvalue, rfl, rfl⟩
      exact ⟨rfl, hvalue⟩
    · rintro ⟨rfl, hvalue⟩
      exact ⟨value, hvalue, rfl, rfl⟩
  simp only [hfield]

theorem keys_of_canonical {wire fields : JsonObject}
    (h : List.Forall₂ Canonical wire fields) : wire.map Prod.fst = fields.map Prod.fst :=
  keys_of_forall₂ (R := fun _ _ => True) (h.imp fun _ _ hfield => ⟨hfield.1, trivial⟩)

theorem distinct_covered {wire : JsonObject} (h : (object wire).Distinct) :
    (object (covered wire)).Distinct := by
  rw [distinct_object] at h ⊢
  exact ⟨h.1.sublist (List.filter_sublist.map _), fun field hfield =>
    h.2 field (List.mem_filter.1 hfield).1⟩

theorem distinct_canonical {wire fields : JsonObject} (hwire : (object wire).Distinct)
    (h : List.Forall₂ Canonical wire fields) : (object fields).Distinct := by
  rw [distinct_object] at hwire ⊢
  refine ⟨keys_of_canonical h ▸ hwire.1, fun result hresult => ?_⟩
  obtain ⟨field, hfield, -, hvalue⟩ := exists_of_forall₂ h.flip hresult
  exact distinct_canonicalValue (hwire.2 field hfield) hvalue

section Hash

variable {intOrNull : String → Option Int} {sha256 : List UInt8 → List UInt8}
  {wire wire' : JsonObject} {digest : String}

/-- `wire["snapshot_hash_version"]` is the number 2. -/
def IsVersion2 (intOrNull : String → Option Int) (wire : JsonObject) : Prop :=
  ∃ text, JsonObject.contentOf wire "snapshot_hash_version" = .ok (some text) ∧
    intOrNull text = some 2

theorem hash_eq_ok_iff :
    computeClusterSnapshotHash intOrNull sha256 wire = .ok digest ↔
      IsVersion2 intOrNull wire ∧ ∃ fields, canonical wire = .ok fields ∧
        digest = Platform.hex (sha256 (visit (.object fields))) := by
  simp only [computeClusterSnapshotHash, bind_eq_ok, require_eq_ok, beq_iff_eq, pure_eq_ok,
    Except.ok.injEq, IsVersion2]
  constructor
  · rintro ⟨version, hversion, -, htwo, fields, hfields, rfl⟩
    obtain ⟨text, rfl, htext⟩ := Option.bind_eq_some_iff.1 htwo
    refine ⟨⟨text, ?_, htext⟩, fields, hfields, rfl⟩
    cases hcontent : JsonObject.contentOf wire "snapshot_hash_version" with
    | error e => simp [thrown, hcontent] at hversion
    | ok version => simpa [thrown, hcontent] using hversion
  · rintro ⟨⟨text, hversion, htext⟩, fields, hfields, rfl⟩
    exact ⟨some text, by rw [hversion]; rfl, (), htext, fields, hfields, rfl⟩

theorem same_of_hash_eq (hsha : Function.Injective sha256) (hwire : (object wire).Distinct)
    (hwire' : (object wire').Distinct) {fields fields' : JsonObject}
    (hfields : canonical wire = .ok fields) (hfields' : canonical wire' = .ok fields')
    (h : Platform.hex (sha256 (visit (.object fields))) =
      Platform.hex (sha256 (visit (.object fields')))) :
    (object fields).Same (.object fields') := by
  have htext := hsha (Platform.hex_injective h)
  have hdistinct := distinct_canonical (distinct_covered hwire) (canonical_eq_ok_iff.1 hfields)
  have hdistinct' := distinct_canonical (distinct_covered hwire') (canonical_eq_ok_iff.1 hfields')
  exact (visit_append_inj (x := []) hdistinct hdistinct' (by rw [htext])).1

end Hash

end SnapshotHash

namespace SnapshotHash

def smallNumber (text : String) : Option Int :=
  if text = "2" then some 2 else none

def twoServersWire : JsonObject :=
  [("snapshot_hash_version", .literal "2"), ("timestamp", .literal "1790856000"),
    ("servers", .array [.string "s2", .string "s1"])]

def laterWire : JsonObject :=
  [("servers", .array [.string "s1", .string "s2"]), ("snapshot_hash_version", .literal "2"),
    ("timestamp", .literal "1790856001")]

theorem distinct_twoServersWire :
    (object twoServersWire).Distinct ∧ (object laterWire).Distinct := by
  simp [twoServersWire, laterWire, Json.Distinct, Json.DistinctFields, Json.DistinctItems]

end SnapshotHash

end LibreRoute.Admin
