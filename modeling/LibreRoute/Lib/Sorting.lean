import Mathlib.Data.List.Sort
import Mathlib.Data.List.Nodup
import Mathlib.Data.List.Forall2

/-!
Sorting by a text, as `sorted` and `sortedBy` do it: texts are compared by
their UTF-16 units, and records with equal texts keep their order.
-/

namespace LibreRoute.Lib

/-- The UTF-16 units of a character. -/
def units (c : Char) : List Nat :=
  if c.toNat < 0x10000 then [c.toNat]
  else [0xD800 + (c.toNat - 0x10000) / 0x400, 0xDC00 + (c.toNat - 0x10000) % 0x400]

def utf16 (s : String) : List Nat := s.toList.flatMap units

/-- No character is a surrogate, so that no character begins the units of another one. -/
theorem units_append_inj {c d : Char} {x y : List Nat} (h : units c ++ x = units d ++ y) :
    c = d ∧ x = y := by
  have hc : c.toNat < 0xD800 ∨ 0xDFFF < c.toNat ∧ c.toNat < 0x110000 := c.valid
  have hd : d.toNat < 0xD800 ∨ 0xDFFF < d.toNat ∧ d.toNat < 0x110000 := d.valid
  suffices hnat : c.toNat = d.toNat by
    obtain rfl : c = d := Char.toNat_inj.1 hnat
    exact ⟨rfl, List.append_cancel_left h⟩
  unfold units at h
  split at h <;> split at h <;> simp only [List.cons_append, List.nil_append, List.cons.injEq] at h
  all_goals omega

theorem units_ne_nil (c : Char) : units c ≠ [] := by
  unfold units
  split <;> simp

theorem utf16_injective : Function.Injective utf16 := by
  intro s t h
  apply String.toList_injective
  unfold utf16 at h
  generalize s.toList = l at h ⊢
  generalize t.toList = m at h ⊢
  induction l generalizing m with
  | nil =>
    cases m with
    | nil => rfl
    | cons d m => simp [units_ne_nil] at h
  | cons c l ih =>
    cases m with
    | nil => simp [units_ne_nil] at h
    | cons d m =>
      rw [List.flatMap_cons, List.flatMap_cons] at h
      obtain ⟨rfl, hrest⟩ := units_append_inj h
      rw [ih m hrest]

/-- `s.compareTo(t) <= 0`. -/
def textLE (s t : String) : Prop := List.le (utf16 s) (utf16 t)

instance (s t : String) : Decidable (textLE s t) := List.decidableLE (utf16 s) (utf16 t)

theorem textLE_refl (s : String) : textLE s s := List.le_refl (utf16 s)

theorem textLE_trans {s t u : String} (h : textLE s t) (h' : textLE t u) : textLE s u :=
  List.le_trans h h'

theorem textLE_total (s t : String) : textLE s t ∨ textLE t s := List.le_total (utf16 s) (utf16 t)

theorem textLE_antisymm {s t : String} (h : textLE s t) (h' : textLE t s) : s = t :=
  utf16_injective (List.le_antisymm h h')

/-! ### Sorting -/

variable {α β : Type}

def sortedBy (key : α → String) (l : List α) : List α :=
  l.insertionSort fun a b => textLE (key a) (key b)

variable {key : α → String} {l l' : List α}

theorem sortedBy_perm (key : α → String) (l : List α) : (sortedBy key l).Perm l :=
  List.perm_insertionSort _ l

theorem sortedBy_map (key : β → String) (f : α → β) (l : List α) :
    sortedBy key (l.map f) = (sortedBy (key ∘ f) l).map f :=
  (List.map_insertionSort _ _ f l fun _ _ _ _ => Iff.rfl).symm

theorem pairwise_sortedBy (key : α → String) (l : List α) :
    (sortedBy key l).Pairwise fun a b => textLE (key a) (key b) := by
  have : Std.Total fun a b => textLE (key a) (key b) := ⟨fun a b => textLE_total (key a) (key b)⟩
  have : IsTrans α fun a b => textLE (key a) (key b) := ⟨fun _ _ _ h h' => textLE_trans h h'⟩
  exact List.pairwise_insertionSort _ l

/-- Records with different keys have one order only. -/
theorem sortedBy_eq_of_perm (h : l.Perm l') (hnodup : (l.map key).Nodup) :
    sortedBy key l = sortedBy key l' := by
  have hperm : (sortedBy key l).Perm (sortedBy key l') :=
    (sortedBy_perm key l).trans (h.trans (sortedBy_perm key l').symm)
  refine hperm.eq_of_pairwise (fun a b ha hb hab hba => ?_) (pairwise_sortedBy key l)
    (pairwise_sortedBy key l')
  have hmem : a ∈ l := (sortedBy_perm key l).mem_iff.1 ha
  have hmem' : b ∈ l := h.mem_iff.2 ((sortedBy_perm key l').mem_iff.1 hb)
  exact List.inj_on_of_nodup_map hnodup hmem hmem' (textLE_antisymm hab hba)

theorem pair_sublist_sortedBy {a b : α} (hkey : key a = key b) (h : [a, b].Sublist l) :
    [a, b].Sublist (sortedBy key l) :=
  List.pair_sublist_insertionSort (by rw [hkey]; exact textLE_refl _) h

theorem not_pair_sublist_swap {a b : α} (hnodup : l.Nodup) (h : [a, b].Sublist l)
    (h' : [b, a].Sublist l) : False := by
  induction l with
  | nil => simp at h
  | cons c l ih =>
    obtain ⟨hnew, hnodup⟩ := List.nodup_cons.1 hnodup
    rcases List.sublist_cons_iff.1 h with hpair | ⟨_, heq, hrest⟩
    · rcases List.sublist_cons_iff.1 h' with hpair' | ⟨_, heq', -⟩
      · exact ih hnodup hpair hpair'
      · -- the head is the second record of the first pair, which is in the rest
        obtain ⟨rfl, -⟩ := List.cons.inj heq'
        have hb : b ∈ l := hpair.subset (by simp)
        exact hnew hb
    · obtain ⟨rfl, rfl⟩ := List.cons.inj heq
      have hb : b ∈ l := hrest.subset (by simp)
      rcases List.sublist_cons_iff.1 h' with hpair' | ⟨_, heq', -⟩
      · have ha : a ∈ l := hpair'.subset (by simp)
        exact hnew ha
      · obtain ⟨rfl, -⟩ := List.cons.inj heq'
        exact hnew hb

theorem forall₂_sortedBy {R : α → β → Prop} {key' : β → String} {m : List β}
    (hkey : ∀ a b, R a b → key a = key' b) (h : List.Forall₂ R l m) :
    List.Forall₂ R (sortedBy key l) (sortedBy key' m) := by
  induction h with
  | nil => exact .nil
  | @cons a b l m hab _ ih =>
    show List.Forall₂ R (List.orderedInsert _ a (sortedBy key l))
      (List.orderedInsert _ b (sortedBy key' m))
    generalize sortedBy key l = sorted at ih
    generalize sortedBy key' m = sorted' at ih
    induction ih with
    | nil => exact .cons hab .nil
    | @cons c d sorted sorted' hcd hrest ih =>
      simp only [List.orderedInsert, hkey a b hab, hkey c d hcd]
      split
      · exact .cons hab (.cons hcd hrest)
      · exact .cons hcd ih

end LibreRoute.Lib
