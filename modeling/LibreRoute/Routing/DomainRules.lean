import LibreRoute.Bridge.Target
import Mathlib.Data.List.DropRight

/-!
The stored domain rules (util/DomainRulesPreferences.kt).

Every write goes through the setter, which cleans what it is given and keeps
what is valid; validity is that of the text cleaned once more. So the rules
are canonical as long as cleaning twice is cleaning once, and `CleanedAtOnce`
says of which texts that holds.
-/

namespace LibreRoute.Routing

open Lib
open Bridge (NameLibrary cleanDomain isValidDomain trimEnd)

/-- `domains = value`; a set is a list whose order nothing looks at. -/
def setDomains (N : NameLibrary) (value : List String) : List String :=
  ((value.map (cleanDomain N)).filter (isValidDomain N)).eraseDups

def addDomain (N : NameLibrary) (domains : List String) (domain : String) : Bool × List String :=
  let clean := cleanDomain N domain
  if ! isValidDomain N clean || domains.contains clean then (false, domains)
  else (true, setDomains N (domains ++ [clean]))

def removeDomain (N : NameLibrary) (domains : List String) (domain : String) :
    Bool × List String :=
  let clean := cleanDomain N domain
  if domains.contains clean then (true, setDomains N (domains.filter (· != clean)))
  else (false, domains)

def addPreset (N : NameLibrary) (domains preset : List String) : List String :=
  setDomains N (domains ++ (preset.map (cleanDomain N)).filter (isValidDomain N))

inductive DomainOperation
  | setDomains (value : List String)
  | addDomain (domain : String)
  | removeDomain (domain : String)
  | addPreset (preset : List String)
  | clearAll

namespace DomainOperation

def apply (N : NameLibrary) (domains : List String) : DomainOperation → List String
  | .setDomains value => Routing.setDomains N value
  | .addDomain domain => (Routing.addDomain N domains domain).2
  | .removeDomain domain => (Routing.removeDomain N domains domain).2
  | .addPreset preset => Routing.addPreset N domains preset
  | .clearAll => Routing.setDomains N []

end DomainOperation

/-- The domain is valid, clean and without a slash. -/
structure IsCanonical (N : NameLibrary) (d : String) : Prop where
  valid : isValidDomain N d = true
  clean : cleanDomain N d = d
  slash : '/' ∉ d.toList

/-- `addDomain` tells whether it has added something, and `removeDomain` takes it away again. -/
structure AddsOne (N : NameLibrary) (domains : List String) (domain : String) : Prop where
  gained : (addDomain N domains domain).1 = true ↔
    ∃ d ∈ (addDomain N domains domain).2, d ∉ domains
  removed : (addDomain N domains domain).1 = true →
    ∀ d, d ∈ (removeDomain N (addDomain N domains domain).2 domain).2 ↔ d ∈ domains

structure StepOk (N : NameLibrary) (domains : List String) (operation : DomainOperation) :
    Prop where
  canonical : ∀ d ∈ operation.apply N domains, IsCanonical N d
  adds : ∀ domain, operation = .addDomain domain → AddsOne N domains domain

def RunOk (N : NameLibrary) : List String → List DomainOperation → Prop
  | _, [] => True
  | domains, operation :: run =>
    StepOk N domains operation ∧ RunOk N (operation.apply N domains) run

/-! ### Texts that are cleaned at once -/

def schemes : List String := ["https://", "http://"]

section Clean

variable (N : NameLibrary)

/-- What is left of a text without its schemes. -/
def behindSchemes (x : String) : List Char :=
  (removePrefix (removePrefix (N.lowercase (trim x)) "https://") "http://").toList

/-- Behind its schemes and the dots after them a text has no other scheme and no white space, and
before the slashes at its end and the dots before them no other slash and no white space. -/
structure CleanedAtOnce (x : String) : Prop where
  scheme : ∀ scheme ∈ schemes, ¬ scheme.toList <+: (behindSchemes N x).dropWhile (· == '.')
  first : ∀ c ∈ ((behindSchemes N x).dropWhile (· == '.')).head?, isWhitespace c = false
  last : ∀ c ∈ (((behindSchemes N x).reverse.dropWhile (· == '/')).dropWhile (· == '.')).head?,
    isWhitespace c = false ∧ c ≠ '/'

variable {N} {x v s t : String} {c : Char}

theorem removePrefix_suffix (s start : String) : (removePrefix s start).toList <:+ s.toList := by
  unfold removePrefix
  split
  · rw [String.toList_ofList]
    exact List.drop_suffix _ _
  · exact List.suffix_refl _

theorem trimmed_isInfix (p : Char → Bool) (l : List Char) :
    (l.dropWhile p).rdropWhile p <:+: l :=
  (List.rdropWhile_prefix p _).isInfix.trans (List.dropWhile_suffix p).isInfix

theorem toList_trimEnd (s : String) (c : Char) :
    (trimEnd s c).toList = s.toList.rdropWhile (· == c) := String.toList_ofList

theorem toList_trimDots (s : String) :
    (trimChars s ['.']).toList = (s.toList.dropWhile (· == '.')).rdropWhile (· == '.') := by
  have hdot : (['.'].contains : Char → Bool) = (· == '.') := by
    funext c
    simp [Bool.beq_eq_decide_eq]
  rw [trimChars, String.toList_ofList, hdot]
  rfl

theorem toList_cleanDomain (x : String) : (cleanDomain N x).toList =
    (((behindSchemes N x).rdropWhile (· == '/')).dropWhile (· == '.')).rdropWhile (· == '.') := by
  rw [cleanDomain, toList_trimDots, toList_trimEnd]
  rfl

theorem cleanDomain_isInfix (x : String) :
    (cleanDomain N x).toList <:+: (N.lowercase (trim x)).toList := by
  rw [toList_cleanDomain]
  exact (trimmed_isInfix _ _).trans ((List.rdropWhile_prefix _ _).isInfix.trans
    ((removePrefix_suffix _ _).trans (removePrefix_suffix _ _)).isInfix)

theorem lowercase_cleanDomain (h : v.toList <:+: (cleanDomain N x).toList) : N.lowercase v = v := by
  have hpart := N.lowercase_part (trim x) v.toList (h.trans (cleanDomain_isInfix x))
  rwa [String.ofList_toList] at hpart

theorem trim_isInfix (v : String) : (trim v).toList <:+: v.toList := by
  rw [trim, String.toList_ofList]
  exact trimmed_isInfix isWhitespace v.toList

theorem eq_of_infix (h : s.toList <:+: t.toList) (h' : t.toList <:+: s.toList) : s = t :=
  String.toList_injective (h.sublist.antisymm h'.sublist)

theorem removePrefix_eq_self_iff (start : String) (hstart : start.toList ≠ []) :
    removePrefix s start = s ↔ ¬ start.toList <+: s.toList := by
  unfold removePrefix startsWith
  simp only [List.isPrefixOf_iff_prefix]
  split
  · next h =>
      refine iff_of_false (fun heq => ?_) (not_not.2 h)
      have hlength := congrArg (·.toList.length) heq
      have := List.length_pos_iff.2 hstart
      have := h.length_le
      simp only [String.toList_ofList, List.length_drop] at hlength
      omega
  · next h => exact iff_of_true rfl h

theorem dropWhile_eq_self_iff {p : Char → Bool} {l : List Char} :
    l.dropWhile p = l ↔ ∀ c ∈ l.head?, p c = false := by
  rw [List.dropWhile_eq_self_iff]
  cases l <;> simp

theorem rdropWhile_eq_self_iff {p : Char → Bool} {l : List Char} :
    l.rdropWhile p = l ↔ ∀ c ∈ l.getLast?, p c = false := by
  rw [List.rdropWhile, List.reverse_eq_iff, dropWhile_eq_self_iff, List.head?_reverse]

theorem trim_eq_self_iff : trim v = v ↔ (∀ c ∈ v.toList.head?, isWhitespace c = false) ∧
    ∀ c ∈ v.toList.getLast?, isWhitespace c = false := by
  constructor
  · intro h
    have hlist : (v.toList.dropWhile isWhitespace).rdropWhile isWhitespace = v.toList := by
      rw [← h]
      nth_rw 2 [trim]
      rw [String.toList_ofList, h]
      rfl
    have hfirst : v.toList.dropWhile isWhitespace = v.toList := by
      refine (List.dropWhile_sublist _).antisymm ?_
      nth_rw 1 [← hlist]
      exact (List.rdropWhile_prefix isWhitespace _).sublist
    rw [hfirst] at hlist
    exact ⟨dropWhile_eq_self_iff.1 hfirst, rdropWhile_eq_self_iff.1 hlist⟩
  · exact fun h => trim_of_ends h.1 h.2

/-- A text in lower case is clean if no step of the cleaning takes anything away. -/
theorem cleanDomain_eq_self_iff (hlower : N.lowercase (trim v) = trim v)
    (hdots : trimChars v ['.'] = v) :
    cleanDomain N v = v ↔
      trim v = v ∧ (∀ scheme ∈ schemes, ¬ scheme.toList <+: v.toList) ∧ trimEnd v '/' = v := by
  have hhttps := removePrefix_eq_self_iff (s := v) "https://" (by decide)
  have hhttp := removePrefix_eq_self_iff (s := v) "http://" (by decide)
  simp only [schemes, List.forall_mem_cons, List.not_mem_nil, false_implies, forall_const, and_true]
  rw [← hhttps, ← hhttp, cleanDomain, hlower]
  constructor
  · intro h
    have hclean : ∀ s, (trimChars (trimEnd s '/') ['.']).toList <:+: s.toList := fun s => by
      rw [toList_trimDots, toList_trimEnd]
      exact (trimmed_isInfix _ _).trans (List.rdropWhile_prefix _ _).isInfix
    have hrest := hclean (removePrefix (removePrefix (trim v) "https://") "http://")
    rw [h] at hrest
    have htrim : trim v = v := eq_of_infix (trim_isInfix v)
      (hrest.trans ((removePrefix_suffix _ _).trans (removePrefix_suffix _ _)).isInfix)
    rw [htrim] at hrest h
    have h₁ : removePrefix v "https://" = v := eq_of_infix (removePrefix_suffix _ _).isInfix
      (hrest.trans (removePrefix_suffix _ _).isInfix)
    rw [h₁] at hrest h
    have h₂ : removePrefix v "http://" = v := eq_of_infix (removePrefix_suffix _ _).isInfix hrest
    rw [h₂] at h
    refine ⟨htrim, ⟨h₁, h₂⟩, eq_of_infix ?_ ?_⟩
    · rw [toList_trimEnd]
      exact (List.rdropWhile_prefix _ _).isInfix
    · nth_rw 1 [← h]
      rw [toList_trimDots]
      exact trimmed_isInfix _ _
  · rintro ⟨htrim, ⟨h₁, h₂⟩, hend⟩
    rw [htrim, h₁, h₂, hend, hdots]

theorem exists_cut (h : (cleanDomain N x).toList ≠ []) : ∃ after before,
    (behindSchemes N x).dropWhile (· == '.') = (cleanDomain N x).toList ++ after ∧
      (∀ c ∈ after, c = '.' ∨ c = '/') ∧
      ((behindSchemes N x).reverse.dropWhile (· == '/')).dropWhile (· == '.') =
        (cleanDomain N x).toList.reverse ++ before := by
  rw [toList_cleanDomain] at h ⊢
  generalize hu : (behindSchemes N x).rdropWhile (· == '/') = u at h ⊢
  generalize hw : u.dropWhile (· == '.') = w at h ⊢
  have hslashes := List.rdropWhile_append_rtakeWhile (p := (· == '/')) (l := behindSchemes N x)
  have hdots := List.rdropWhile_append_rtakeWhile (p := (· == '.')) (l := w)
  have hne : w ≠ [] := fun hnil => h (by rw [hnil]; rfl)
  refine ⟨w.rtakeWhile (· == '.') ++ (behindSchemes N x).rtakeWhile (· == '/'),
    (u.takeWhile (· == '.')).reverse, ?_, ?_, ?_⟩
  · rw [← List.append_assoc, hdots]
    nth_rw 1 [← hslashes]
    rw [hu, List.dropWhile_append, hw, if_neg (by simpa using hne)]
  · intro c hc
    rcases List.mem_append.1 hc with hc | hc
    · exact .inl (by simpa using List.mem_rtakeWhile_imp hc)
    · exact .inr (by simpa using List.mem_rtakeWhile_imp hc)
  · have hreverse : (behindSchemes N x).reverse.dropWhile (· == '/') = u.reverse := by
      rw [← hu, List.rdropWhile, List.reverse_reverse]
    have hback : w.reverse.dropWhile (· == '.') = (w.rdropWhile (· == '.')).reverse := by
      rw [List.rdropWhile, List.reverse_reverse]
    have hcut : u.reverse = w.reverse ++ (u.takeWhile (· == '.')).reverse := by
      rw [← List.reverse_append, ← hw, List.takeWhile_append_dropWhile]
    rw [hreverse, hcut, List.dropWhile_append, hback, if_neg (by simpa using h)]

theorem eq_scheme_of_prefix : ∀ scheme ∈ schemes, ∀ l ∈ scheme.toList.inits,
    ((scheme.toList.drop l.length).all fun c => c == '.' || c == '/') = true →
      l = scheme.toList ∨ String.ofList l ∈ ["https:", "https:/", "http:", "http:/"] := by
  decide +kernel

theorem isValidDomain_scheme (hv : v ∈ ["https:", "https:/", "http:", "http:/"])
    (hlower : N.lowercase (trim v) = trim v) : isValidDomain N v = false := by
  have hcolon : ∀ v ∈ ["https:", "https:/", "http:", "http:/"], (trimChars (trimEnd (removePrefix
      (removePrefix (trim v) "https://") "http://") '/') ['.']).toList.contains ':' = true := by
    decide +kernel
  simp only [isValidDomain, cleanDomain, hlower, hcolon v hv, Bool.or_true, Bool.true_or, if_true]

theorem trimDots_cleanDomain (x : String) :
    trimChars (cleanDomain N x) ['.'] = cleanDomain N x := by
  apply String.toList_injective
  rw [toList_trimDots]
  have hfirst : (cleanDomain N x).toList.dropWhile (· == '.') = (cleanDomain N x).toList := by
    rw [toList_cleanDomain]
    generalize (behindSchemes N x).rdropWhile (· == '/') = u
    have hu := dropWhile_eq_self_iff.1 (List.dropWhile_idempotent (p := (· == '.')) (l := u))
    refine dropWhile_eq_self_iff.2 fun c hc => hu c ?_
    obtain ⟨after, hafter⟩ := List.rdropWhile_prefix (· == '.') (u.dropWhile (· == '.'))
    rw [← hafter, List.head?_append, Option.mem_def.1 hc]
    rfl
  rw [hfirst, toList_cleanDomain]
  exact List.rdropWhile_idempotent ..

section Valid

variable (hvalid : isValidDomain N (cleanDomain N x) = true)

include hvalid

theorem toList_cleanDomain_ne_nil : (cleanDomain N x).toList ≠ [] := by
  intro hnil
  have hempty := cleanDomain_isInfix (N := N) (cleanDomain N x)
  rw [lowercase_cleanDomain (trim_isInfix _)] at hempty
  have hsub := hempty.trans (trim_isInfix _)
  rw [hnil, List.infix_nil, String.toList_eq_nil_iff] at hsub
  simp [isValidDomain, hsub] at hvalid

/-- What the cleaning takes away at the end completes no scheme: the rest of one is not valid. -/
theorem scheme_iff {after : List Char} (hafter : ∀ c ∈ after, c = '.' ∨ c = '/') :
    ∀ scheme ∈ schemes, scheme.toList <+: (cleanDomain N x).toList ↔
      scheme.toList <+: (cleanDomain N x).toList ++ after := by
  intro scheme hscheme
  refine ⟨fun h => h.trans (List.prefix_append _ _), fun h => ?_⟩
  rcases List.prefix_or_prefix_of_prefix h (List.prefix_append _ after) with h' | h'
  · exact h'
  obtain ⟨left, hleft⟩ := h'
  have hall : ((scheme.toList.drop (cleanDomain N x).toList.length).all
      fun c => c == '.' || c == '/') = true := by
    rw [← hleft, List.prefix_append_right_inj] at h
    rw [← hleft, List.drop_left]
    simpa using fun c hc => hafter c (h.subset hc)
  rcases eq_scheme_of_prefix scheme hscheme _ ((List.mem_inits _ _).2 ⟨left, hleft⟩) hall with
    heq | hmem
  · rw [heq]
  · rw [String.ofList_toList] at hmem
    rw [isValidDomain_scheme hmem (lowercase_cleanDomain (trim_isInfix _))] at hvalid
    cases hvalid

/-- A text whose clean form is valid is clean after one cleaning exactly if nothing that is taken
away hides something else of the kind. -/
theorem clean_clean_iff :
    cleanDomain N (cleanDomain N x) = cleanDomain N x ↔ CleanedAtOnce N x := by
  have hne := toList_cleanDomain_ne_nil hvalid
  obtain ⟨after, before, hfront, hafter, hback⟩ := exists_cut hne
  have hscheme := scheme_iff hvalid hafter
  rw [← hfront] at hscheme
  have hfirst : ((behindSchemes N x).dropWhile (· == '.')).head? =
      (cleanDomain N x).toList.head? := by
    rw [hfront, List.head?_append_of_ne_nil _ hne]
  have hlast : (((behindSchemes N x).reverse.dropWhile (· == '/')).dropWhile (· == '.')).head? =
      (cleanDomain N x).toList.getLast? := by
    rw [hback, List.head?_append_of_ne_nil _ (by simpa using hne), List.head?_reverse]
  have hend : trimEnd (cleanDomain N x) '/' = cleanDomain N x ↔
      ∀ c ∈ (cleanDomain N x).toList.getLast?, c ≠ '/' := by
    rw [← String.toList_inj, toList_trimEnd, rdropWhile_eq_self_iff]
    simp
  rw [cleanDomain_eq_self_iff (lowercase_cleanDomain (trim_isInfix _)) (trimDots_cleanDomain x),
    trim_eq_self_iff, hend]
  constructor
  · rintro ⟨⟨h₁, h₂⟩, h₃, h₄⟩
    rw [← hfirst] at h₁
    rw [← hlast] at h₂ h₄
    exact ⟨fun scheme hmem => (hscheme scheme hmem).not.1 (h₃ scheme hmem), h₁,
      fun c hc => ⟨h₂ c hc, h₄ c hc⟩⟩
  · rintro ⟨h₁, h₂, h₃⟩
    rw [hfirst] at h₂
    rw [hlast] at h₃
    exact ⟨⟨h₂, fun c hc => (h₃ c hc).1⟩,
      fun scheme hmem => (hscheme scheme hmem).not.2 (h₁ scheme hmem), fun c hc => (h₃ c hc).2⟩

end Valid

end Clean

/-! ### Steps and runs -/

/-- The texts of the operation that are kept are cleaned at once. What a preset hands to the setter
is clean already. -/
def DomainOperation.Stable (N : NameLibrary) : DomainOperation → Prop
  | .setDomains value => ∀ x ∈ value, isValidDomain N (cleanDomain N x) = true → CleanedAtOnce N x
  | .addDomain x => isValidDomain N (cleanDomain N x) = true → CleanedAtOnce N x
  | .addPreset preset => ∀ x ∈ preset, isValidDomain N (cleanDomain N x) = true →
      isValidDomain N (cleanDomain N (cleanDomain N x)) = true →
      CleanedAtOnce N (cleanDomain N x)
  | .removeDomain _ | .clearAll => True

section Steps

variable {N : NameLibrary} {domains value : List String} {domain d x : String}

theorem mem_setDomains :
    d ∈ setDomains N value ↔ isValidDomain N d = true ∧ ∃ x ∈ value, cleanDomain N x = d := by
  rw [setDomains, List.mem_eraseDups, List.mem_filter, List.mem_map, and_comm]

theorem isCanonical_iff : IsCanonical N d ↔ isValidDomain N d = true ∧ cleanDomain N d = d := by
  refine ⟨fun h => ⟨h.valid, h.clean⟩, fun ⟨hvalid, hclean⟩ => ⟨hvalid, hclean, fun hmem => ?_⟩⟩
  simp [isValidDomain, hclean, hmem] at hvalid

theorem mem_setDomains_of_canonical (h : ∀ d ∈ value, IsCanonical N d) :
    d ∈ setDomains N value ↔ d ∈ value := by
  rw [mem_setDomains]
  constructor
  · rintro ⟨-, x, hx, rfl⟩
    rwa [(h x hx).clean]
  · exact fun hd => ⟨(h d hd).valid, d, hd, (h d hd).clean⟩

theorem canonical_setDomains_iff : (∀ d ∈ setDomains N value, IsCanonical N d) ↔
    (DomainOperation.setDomains value).Stable N := by
  simp only [mem_setDomains, isCanonical_iff, DomainOperation.Stable]
  constructor
  · exact fun h x hx hvalid => (clean_clean_iff hvalid).1 (h _ ⟨hvalid, x, hx, rfl⟩).2
  · rintro h _ ⟨hvalid, x, hx, rfl⟩
    exact ⟨hvalid, (clean_clean_iff hvalid).2 (h x hx hvalid)⟩

theorem mem_removeDomain (h : ∀ d ∈ domains, IsCanonical N d) :
    d ∈ (removeDomain N domains domain).2 ↔ d ∈ domains ∧ d ≠ cleanDomain N domain := by
  by_cases hmem : cleanDomain N domain ∈ domains
  · simp only [removeDomain, List.contains_iff_mem, hmem, if_true]
    rw [mem_setDomains_of_canonical fun x hx => h x (List.mem_filter.1 hx).1, List.mem_filter,
      bne_iff_ne]
  · simp only [removeDomain, List.contains_iff_mem, hmem, if_false]
    exact ⟨fun hd => ⟨hd, fun heq => hmem (heq ▸ hd)⟩, fun hd => hd.1⟩

theorem stepOk_addDomain_iff (h : ∀ d ∈ domains, IsCanonical N d) :
    StepOk N domains (.addDomain domain) ↔ (DomainOperation.addDomain domain).Stable N := by
  by_cases hnew : isValidDomain N (cleanDomain N domain) = true ∧ cleanDomain N domain ∉ domains
  · have hadd : addDomain N domains domain =
        (true, setDomains N (domains ++ [cleanDomain N domain])) := by
      simp [addDomain, hnew]
    constructor
    · intro hstep hvalid
      rw [← clean_clean_iff hvalid]
      have hcanonical := hstep.canonical
      obtain ⟨hgained, hremoved⟩ := hstep.adds domain rfl
      simp only [DomainOperation.apply, hadd, true_iff, forall_const] at hcanonical hgained hremoved
      by_cases hstored : cleanDomain N domain ∈ setDomains N (domains ++ [cleanDomain N domain])
      · exact (hcanonical _ hstored).clean
      · -- Nothing is removed then, so that what was gained would have been there before.
        obtain ⟨d, hd, hd'⟩ := hgained
        refine absurd ((hremoved d).1 ?_) hd'
        simpa [removeDomain, hstored] using hd
    · intro hstable
      have hvalue : ∀ d ∈ domains ++ [cleanDomain N domain], IsCanonical N d := by
        intro d hd
        rcases List.mem_append.1 hd with hd | hd
        · exact h d hd
        · rw [List.mem_singleton.1 hd]
          exact isCanonical_iff.2 ⟨hnew.1, (clean_clean_iff hnew.1).2 (hstable hnew.1)⟩
      have hmem : ∀ d, d ∈ setDomains N (domains ++ [cleanDomain N domain]) ↔
          d ∈ domains ∨ d = cleanDomain N domain := fun d => by
        rw [mem_setDomains_of_canonical hvalue, List.mem_append, List.mem_singleton]
      have hcanonical : ∀ d ∈ setDomains N (domains ++ [cleanDomain N domain]), IsCanonical N d :=
        fun d hd => hvalue d ((mem_setDomains_of_canonical hvalue).1 hd)
      refine ⟨by simpa only [DomainOperation.apply, hadd] using hcanonical, ?_⟩
      rintro _ ⟨⟩
      refine ⟨?_, fun _ d => ?_⟩
      · rw [hadd]
        exact iff_of_true rfl ⟨_, (hmem _).2 (.inr rfl), hnew.2⟩
      · rw [hadd, mem_removeDomain hcanonical, hmem]
        constructor
        · rintro ⟨hd, hne⟩
          exact hd.resolve_right hne
        · exact fun hd => ⟨.inl hd, fun heq => hnew.2 (heq ▸ hd)⟩
  · have hadd : addDomain N domains domain = (false, domains) := by
      rw [not_and, not_not] at hnew
      simp only [addDomain, Bool.or_eq_true, Bool.not_eq_true', List.contains_iff_mem]
      rw [if_pos]
      cases hvalid : isValidDomain N (cleanDomain N domain) with
      | false => exact .inl rfl
      | true => exact .inr (hnew hvalid)
    refine iff_of_true ⟨by simpa only [DomainOperation.apply, hadd] using h, ?_⟩ fun hvalid => ?_
    · rintro _ ⟨⟩
      exact ⟨by simp [hadd], by simp [hadd]⟩
    · rw [← clean_clean_iff hvalid]
      exact (h _ (not_not.1 fun hmem => hnew ⟨hvalid, hmem⟩)).clean

theorem stepOk_iff (h : ∀ d ∈ domains, IsCanonical N d) (operation : DomainOperation) :
    StepOk N domains operation ↔ operation.Stable N := by
  -- Of every operation but `addDomain` only the stored domains are asked.
  have hplain : (∀ domain, operation ≠ .addDomain domain) →
      (StepOk N domains operation ↔ ∀ d ∈ operation.apply N domains, IsCanonical N d) :=
    fun hother => ⟨fun hstep => hstep.canonical, fun hcanonical =>
      ⟨hcanonical, fun domain heq => absurd heq (hother domain)⟩⟩
  cases operation with
  | addDomain domain => exact stepOk_addDomain_iff h
  | setDomains value => exact (hplain (by simp)).trans canonical_setDomains_iff
  | clearAll => exact (hplain (by simp)).trans (iff_of_true (by simp [DomainOperation.apply,
      setDomains]) trivial)
  | removeDomain domain =>
    exact (hplain (by simp)).trans (iff_of_true (fun d hd => h d ((mem_removeDomain h).1 hd).1)
      trivial)
  | addPreset preset =>
    refine (hplain (by simp)).trans (canonical_setDomains_iff.trans ?_)
    simp only [DomainOperation.Stable, List.mem_append, List.mem_filter, List.mem_map]
    constructor
    · exact fun hall x hx hvalid => hall _ (.inr ⟨⟨x, hx, rfl⟩, hvalid⟩)
    · rintro hall x (hx | ⟨⟨y, hy, rfl⟩, hvalid⟩) hclean
      · rw [← clean_clean_iff hclean, (h x hx).clean, (h x hx).clean]
      · exact hall y hy hvalid hclean

end Steps

/-- A run that begins without domains keeps the rules canonical and tells the truth about what it
has added exactly if the texts that are kept are cleaned at once. -/
theorem runOk_iff (N : NameLibrary) (run : List DomainOperation) :
    RunOk N [] run ↔ ∀ operation ∈ run, operation.Stable N := by
  have hrun : ∀ domains, (∀ d ∈ domains, IsCanonical N d) →
      (RunOk N domains run ↔ ∀ operation ∈ run, operation.Stable N) := by
    induction run with
    | nil => simp [RunOk]
    | cons operation run ih =>
      intro domains h
      rw [RunOk, List.forall_mem_cons, ← stepOk_iff h]
      exact and_congr_right fun hstep => ih _ hstep.canonical
  exact hrun [] (by simp)

/-- The first cleaning uncovers a scheme the second one takes away. -/
theorem runOk_fails : ¬ ∀ (N : NameLibrary) (run : List DomainOperation), RunOk N [] run := by
  intro h
  have hstep := (h Bridge.plainNames [.setDomains ["http://https://a.com"]]).1
  have hstored : "https://a.com" ∈ setDomains Bridge.plainNames ["http://https://a.com"] := by
    decide +kernel
  exact absurd (hstep.canonical _ hstored).clean (by decide +kernel)

end LibreRoute.Routing
