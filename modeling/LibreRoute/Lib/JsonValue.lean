import LibreRoute.Lib.Json
import LibreRoute.Lib.Sorting

/-!
JSON values as data: two values are the same if they differ in the order of
the keys of their objects only. An object of the JSON library is a map, so
its keys are distinct.
-/

namespace LibreRoute.Lib

theorem lookup_eq_none {β : Type} {entries : List (String × β)} {key : String} :
    entries.lookup key = none ↔ key ∉ entries.map Prod.fst := by
  rw [List.lookup_eq_none_iff]
  simp only [List.mem_map, not_exists, not_and]
  constructor
  · rintro h entry hentry rfl
    simpa using h entry hentry
  · intro h entry hentry
    simpa using fun heq => h entry hentry heq.symm

theorem exists_of_forall₂ {α β : Type} {R : α → β → Prop} {l : List α} {l' : List β}
    (h : List.Forall₂ R l l') {a : α} (ha : a ∈ l) : ∃ b ∈ l', R a b := by
  induction h with
  | nil => simp at ha
  | @cons a' b _ _ hab _ ih =>
    rcases List.mem_cons.1 ha with rfl | ha
    · exact ⟨b, List.mem_cons_self, hab⟩
    · obtain ⟨b', hb', hR⟩ := ih ha
      exact ⟨b', List.mem_cons_of_mem b hb', hR⟩

theorem exists_forall₂ {α β : Type} {R : α → β → Prop} {l : List α}
    (h : ∀ a ∈ l, ∃ b, R a b) : ∃ l', List.Forall₂ R l l' := by
  induction l with
  | nil => exact ⟨[], .nil⟩
  | cons a l ih =>
    obtain ⟨b, hb⟩ := h a List.mem_cons_self
    obtain ⟨l', hl'⟩ := ih fun a' ha' => h a' (List.mem_cons_of_mem a ha')
    exact ⟨b :: l', .cons hb hl'⟩

namespace Json

/-- Induction over a value, its items and the values of its fields. -/
theorem induction {motive : Json → Prop} (null : motive .null)
    (literal : ∀ text, motive (.literal text)) (string : ∀ text, motive (.string text))
    (array : ∀ items, (∀ item ∈ items, motive item) → motive (.array items))
    (object : ∀ fields, (∀ field ∈ fields, motive field.2) → motive (.object fields))
    (value : Json) : motive value := by
  induction hn : sizeOf value using Nat.strongRecOn generalizing value with
  | _ n ih =>
    subst hn
    cases value with
    | null => exact null
    | literal text => exact literal text
    | string text => exact string text
    | array items =>
      refine array items fun item hitem => ih (sizeOf item) ?_ item rfl
      have hless := List.sizeOf_lt_of_mem hitem
      rw [Json.array.sizeOf_spec]
      omega
    | object fields =>
      refine object fields fun ⟨key, value⟩ hfield => ih (sizeOf value) ?_ value rfl
      have hless := List.sizeOf_lt_of_mem hfield
      rw [Prod.mk.sizeOf_spec] at hless
      rw [Json.object.sizeOf_spec]
      omega

mutual

/-- The keys of every object are distinct. -/
def Distinct : Json → Prop
  | .array items => DistinctItems items
  | .object fields => (fields.map Prod.fst).Nodup ∧ DistinctFields fields
  | _ => True

def DistinctItems : List Json → Prop
  | [] => True
  | item :: items => Distinct item ∧ DistinctItems items

def DistinctFields : List (String × Json) → Prop
  | [] => True
  | (_, value) :: fields => Distinct value ∧ DistinctFields fields

end

theorem distinct_array {items : List Json} :
    Distinct (.array items) ↔ ∀ item ∈ items, item.Distinct := by
  rw [Distinct]
  induction items with
  | nil => simp [DistinctItems]
  | cons item items ih => rw [DistinctItems, ih, List.forall_mem_cons]

theorem distinct_object {fields : JsonObject} :
    Distinct (.object fields) ↔
      (fields.map Prod.fst).Nodup ∧ ∀ field ∈ fields, field.2.Distinct := by
  rw [Distinct]
  apply and_congr Iff.rfl
  induction fields with
  | nil => simp [DistinctFields]
  | cons field fields ih => rw [DistinctFields, ih, List.forall_mem_cons]

/-! ### The same data -/

mutual

/-- The values differ in the order of keys only: the keys of objects are the same in some order,
and each field has the same value in the other object. -/
def Same : Json → Json → Prop
  | .null, .null => True
  | .literal text, .literal text' => text = text'
  | .string text, .string text' => text = text'
  | .array items, .array items' => SameItems items items'
  | .object fields, .object fields' =>
    (fields.map Prod.fst).Perm (fields'.map Prod.fst) ∧ SameFields fields fields'
  | _, _ => False

def SameItems : List Json → List Json → Prop
  | [], [] => True
  | item :: items, item' :: items' => Same item item' ∧ SameItems items items'
  | _, _ => False

def SameFields : List (String × Json) → List (String × Json) → Prop
  | [], _ => True
  | (key, value) :: fields, fields' =>
    (∃ value', (key, value') ∈ fields' ∧ Same value value') ∧ SameFields fields fields'

end

theorem same_array {items items' : List Json} :
    Same (.array items) (.array items') ↔ List.Forall₂ Same items items' := by
  rw [Same]
  induction items generalizing items' with
  | nil => cases items' <;> simp [SameItems]
  | cons item items ih =>
    cases items' with
    | nil => simp [SameItems]
    | cons item' items' => rw [SameItems, ih, List.forall₂_cons]

theorem same_object {fields fields' : JsonObject} :
    Same (.object fields) (.object fields') ↔
      (fields.map Prod.fst).Perm (fields'.map Prod.fst) ∧
        ∀ field ∈ fields, ∃ value', (field.1, value') ∈ fields' ∧ Same field.2 value' := by
  rw [Same]
  apply and_congr Iff.rfl
  induction fields with
  | nil => simp [SameFields]
  | cons field fields ih => rw [SameFields, ih, List.forall_mem_cons]

@[simp] theorem same_refl (value : Json) : Same value value := by
  induction value using Json.induction with
  | null => trivial
  | literal text => exact rfl
  | string text => exact rfl
  | array items ih => exact same_array.2 (List.forall₂_same.2 ih)
  | object fields ih =>
    exact same_object.2 ⟨.refl _, fun field hfield => ⟨field.2, hfield, ih field hfield⟩⟩

def FieldRel (R : Json → Json → Prop) (field field' : String × Json) : Prop :=
  field.1 = field'.1 ∧ R field.2 field'.2

variable {R : Json → Json → Prop} {fields fields' : JsonObject}

theorem forall₂_of_keys (hkeys : fields.map Prod.fst = fields'.map Prod.fst)
    (hnodup : (fields'.map Prod.fst).Nodup)
    (h : ∀ field ∈ fields, ∃ value', (field.1, value') ∈ fields' ∧ R field.2 value') :
    List.Forall₂ (FieldRel R) fields fields' := by
  induction fields generalizing fields' with
  | nil =>
    obtain rfl : fields' = [] := by simpa using hkeys.symm
    exact .nil
  | cons field fields ih =>
    cases fields' with
    | nil => simp at hkeys
    | cons field' fields' =>
      obtain ⟨hkey, hrest⟩ : field.1 = field'.1 ∧
          fields.map Prod.fst = fields'.map Prod.fst := by simpa using hkeys
      obtain ⟨hnew, hnodup⟩ := List.nodup_cons.1 (by simpa using hnodup :
        (field'.1 :: fields'.map Prod.fst).Nodup)
      refine .cons ⟨hkey, ?_⟩ (ih hrest hnodup fun f hf => ?_)
      · obtain ⟨value', hmem, hR⟩ := h field List.mem_cons_self
        rcases List.mem_cons.1 hmem with heq | hmem
        · rwa [← heq]
        · rw [hkey] at hmem
          exact absurd (List.mem_map_of_mem hmem) hnew
      · obtain ⟨value', hmem, hR⟩ := h f (List.mem_cons_of_mem field hf)
        rcases List.mem_cons.1 hmem with heq | hmem
        · have hf' : f.1 ∈ fields'.map Prod.fst := hrest ▸ List.mem_map_of_mem hf
          rw [← heq] at hnew
          exact absurd hf' hnew
        · exact ⟨value', hmem, hR⟩

theorem keys_of_forall₂ (h : List.Forall₂ (FieldRel R) fields fields') :
    fields.map Prod.fst = fields'.map Prod.fst := by
  induction h with
  | nil => rfl
  | cons hfield _ ih => rw [List.map_cons, List.map_cons, hfield.1, ih]

theorem sortedKeys_eq (fields : JsonObject) :
    (sortedBy Prod.fst fields).map Prod.fst = sortedBy id (fields.map Prod.fst) :=
  (sortedBy_map id Prod.fst fields).symm

theorem sortedKeys_perm (fields : JsonObject) :
    ((sortedBy Prod.fst fields).map Prod.fst).Perm (fields.map Prod.fst) :=
  (sortedBy_perm Prod.fst fields).map Prod.fst

/-- Two maps have the same keys and related values if their fields are so when they are sorted
by the keys. -/
theorem related_iff_sorted (hnodup : (fields'.map Prod.fst).Nodup) :
    ((fields.map Prod.fst).Perm (fields'.map Prod.fst) ∧
        ∀ field ∈ fields, ∃ value', (field.1, value') ∈ fields' ∧ R field.2 value') ↔
      List.Forall₂ (FieldRel R) (sortedBy Prod.fst fields) (sortedBy Prod.fst fields') := by
  constructor
  · rintro ⟨hperm, h⟩
    have hkeys : (sortedBy Prod.fst fields).map Prod.fst =
        (sortedBy Prod.fst fields').map Prod.fst := by
      rw [sortedKeys_eq, sortedKeys_eq]
      exact sortedBy_eq_of_perm hperm (by simpa using hperm.nodup_iff.2 hnodup)
    refine forall₂_of_keys hkeys ((sortedKeys_perm fields').nodup_iff.2 hnodup) fun f hf => ?_
    obtain ⟨value', hmem, hR⟩ := h f ((sortedBy_perm _ _).mem_iff.1 hf)
    exact ⟨value', (sortedBy_perm _ _).mem_iff.2 hmem, hR⟩
  · intro h
    refine ⟨?_, fun f hf => ?_⟩
    · have hkeys := (sortedKeys_perm fields).symm
      rw [keys_of_forall₂ h] at hkeys
      exact hkeys.trans (sortedKeys_perm fields')
    · obtain ⟨g, hg, hkey, hR⟩ := exists_of_forall₂ h ((sortedBy_perm _ _).mem_iff.2 hf)
      exact ⟨g.2, by rwa [hkey, ← (sortedBy_perm Prod.fst fields').mem_iff], hR⟩

theorem get_eq_some (hnodup : (fields.map Prod.fst).Nodup) {key : String} {value : Json} :
    JsonObject.get fields key = some value ↔ (key, value) ∈ fields := by
  unfold JsonObject.get
  induction fields with
  | nil => simp
  | cons field fields ih =>
    obtain ⟨k, v⟩ := field
    obtain ⟨hnew, hrest⟩ := List.nodup_cons.1 (by simpa using hnodup :
      (k :: fields.map Prod.fst).Nodup)
    by_cases hk : key = k
    · subst hk
      have hout : (key, value) ∉ fields := fun hmem => hnew (List.mem_map_of_mem hmem)
      simp [hout, eq_comm]
    · have hne : (key == k) = false := by simpa using hk
      rw [List.lookup_cons, hne]
      simp [ih hrest, hk]

theorem get_eq_none {key : String} : JsonObject.get fields key = none ↔ key ∉ fields.map Prod.fst :=
  lookup_eq_none

theorem get_of_same (hnodup : (fields.map Prod.fst).Nodup)
    (h : Same (.object fields) (.object fields')) (key : String) :
    JsonObject.get fields key = none ∧ JsonObject.get fields' key = none ∨
      ∃ value value', JsonObject.get fields key = some value ∧
        JsonObject.get fields' key = some value' ∧ Same value value' := by
  obtain ⟨hkeys, hvalues⟩ := same_object.1 h
  cases hget : JsonObject.get fields key with
  | none =>
    refine Or.inl ⟨rfl, get_eq_none.2 fun hmem => ?_⟩
    exact get_eq_none.1 hget (hkeys.mem_iff.2 hmem)
  | some value =>
    obtain ⟨value', hmem, hsame⟩ := hvalues _ ((get_eq_some hnodup).1 hget)
    exact Or.inr ⟨value, value', rfl, (get_eq_some (hkeys.nodup_iff.1 hnodup)).2 hmem, hsame⟩

theorem content_of_same {value value' : Json} (h : Same value value') :
    value.content = value'.content := by
  cases value <;> cases value' <;> simp_all [Same, Json.content]

theorem contentOf_of_same (hnodup : (fields.map Prod.fst).Nodup)
    (h : Same (.object fields) (.object fields')) (key : String) :
    JsonObject.contentOf fields key = JsonObject.contentOf fields' key := by
  unfold JsonObject.contentOf
  rcases get_of_same hnodup h key with ⟨hnone, hnone'⟩ | ⟨value, value', hsome, hsome', hsame⟩
  · rw [hnone, hnone']
  · rw [hsome, hsome']
    simp only [content_of_same hsame]

end Json

end LibreRoute.Lib
