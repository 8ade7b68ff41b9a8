import LibreRoute.Lib.Kotlin
import Mathlib.Data.List.TakeWhile

/-!
The lines of a text.

A text that is put together from several ones, one on each line, and then
cut into lines and trimmed again gives back the texts, as long as none of
them has a line break inside. Line breaks at its ends do no harm: they are
white space, so they only make lines that are blank.
-/

namespace LibreRoute.Lib

def isBreak (c : Char) : Bool := c == '\n' || c == '\r'

/-- A line ends at `\n`, at `\r`, or at both in this order. -/
def linesOf : List Char → List (List Char)
  | [] => [[]]
  | c :: rest =>
    if c == '\r' && rest.head? == some '\n' then linesOf rest
    else if isBreak c then [] :: linesOf rest
    else
      match linesOf rest with
      | [] => [[c]]
      | line :: others => (c :: line) :: others

def lines (s : String) : List String := (linesOf s.toList).map String.ofList

def trimmed (l : List Char) : List Char :=
  ((l.dropWhile isWhitespace).reverse.dropWhile isWhitespace).reverse

theorem toList_trim (s : String) : (trim s).toList = trimmed s.toList := String.toList_ofList

theorem trim_ofList (l : List Char) : trim (String.ofList l) = String.ofList (trimmed l) := by
  rw [trim, String.toList_ofList, trimmed]

theorem trimmed_trimmed (l : List Char) : trimmed (trimmed l) = trimmed l := by
  have h := congrArg String.toList (trim_trim (String.ofList l))
  simpa only [toList_trim, String.toList_ofList] using h

theorem trimmed_cons {c : Char} (h : isWhitespace c = true) (l : List Char) :
    trimmed (c :: l) = trimmed l := by
  rw [trimmed, List.dropWhile_cons_of_pos h, trimmed]

theorem trimmed_append {after : List Char} (h : ∀ c ∈ after, isWhitespace c = true)
    (l : List Char) : trimmed (l ++ after) = trimmed l := by
  have hreverse : ∀ c ∈ after.reverse, isWhitespace c = true := by simpa using h
  rw [trimmed, List.dropWhile_append, trimmed]
  split
  · next hempty =>
      rw [List.isEmpty_iff.1 hempty, List.dropWhile_eq_nil_iff.2 h]
  · rw [List.reverse_append, List.dropWhile_append_of_pos hreverse]

theorem eq_append_trimmed (l : List Char) :
    ∃ before after, l = before ++ (trimmed l ++ after) ∧
      (∀ c ∈ before, isWhitespace c = true) ∧ ∀ c ∈ after, isWhitespace c = true := by
  refine ⟨l.takeWhile isWhitespace,
    ((l.dropWhile isWhitespace).reverse.takeWhile isWhitespace).reverse, ?_,
    fun c hc => List.mem_takeWhile_imp hc, fun c hc => ?_⟩
  · rw [trimmed, ← List.reverse_append, List.takeWhile_append_dropWhile, List.reverse_reverse,
      List.takeWhile_append_dropWhile]
  · exact List.mem_takeWhile_imp (List.mem_reverse.1 hc)

theorem linesOf_cons {c : Char} {l line : List Char} {others : List (List Char)}
    (hc : isBreak c = false) (h : linesOf l = line :: others) :
    linesOf (c :: l) = (c :: line) :: others := by
  have hreturn : (c == '\r') = false := by
    rw [isBreak, Bool.or_eq_false_iff] at hc
    exact hc.2
  simp [linesOf, hreturn, hc, h]

theorem linesOf_cons_break {c : Char} (hc : isBreak c = true) (l : List Char) :
    linesOf (c :: l) = linesOf l ∧ l.head? = some '\n' ∨ linesOf (c :: l) = [] :: linesOf l := by
  by_cases hpair : (c == '\r' && l.head? == some '\n') = true
  · refine Or.inl ⟨by rw [linesOf, if_pos hpair], ?_⟩
    rw [Bool.and_eq_true, beq_iff_eq, beq_iff_eq] at hpair
    exact hpair.2
  · exact Or.inr (by rw [linesOf, if_neg hpair, if_pos hc])

theorem linesOf_eq_cons (l : List Char) :
    ∃ others, linesOf l = l.takeWhile (! isBreak ·) :: others := by
  induction l with
  | nil => exact ⟨[], rfl⟩
  | cons c l ih =>
    obtain ⟨others, hothers⟩ := ih
    cases hc : isBreak c with
    | false =>
      exact ⟨others, by rw [linesOf_cons hc hothers, List.takeWhile_cons_of_pos (by simp [hc])]⟩
    | true =>
      rw [List.takeWhile_cons_of_neg (by simp [hc])]
      rcases linesOf_cons_break hc l with ⟨hsame, hhead⟩ | hbreak
      · obtain ⟨rest, rfl⟩ := List.head?_eq_some_iff.1 hhead
        rw [List.takeWhile_cons_of_neg (by decide)] at hothers
        exact ⟨others, hsame.trans hothers⟩
      · exact ⟨linesOf l, hbreak⟩

theorem linesOf_append {core l line : List Char} {others : List (List Char)}
    (hcore : ∀ c ∈ core, isBreak c = false) (h : linesOf l = line :: others) :
    linesOf (core ++ l) = (core ++ line) :: others := by
  induction core with
  | nil => exact h
  | cons c core ih =>
    rw [List.forall_mem_cons] at hcore
    exact linesOf_cons hcore.1 (ih hcore.2)

/-! ### Texts on lines of their own -/

section Join

variable {p : List Char → Prop} {l core : List Char}

/-- Every line is blank or, when it is trimmed, one of those that are asked for. -/
def EveryLine (p : List Char → Prop) (l : List Char) : Prop :=
  ∀ line ∈ linesOf l, trimmed line = [] ∨ p (trimmed line)

theorem everyLine_nil : EveryLine p [] := fun line hline => by
  rw [List.mem_singleton.1 hline]
  exact Or.inl rfl

theorem EveryLine.cons_space (h : EveryLine p l) {c : Char} (hc : isWhitespace c = true) :
    EveryLine p (c :: l) := by
  intro line hline
  cases hbreak : isBreak c with
  | true =>
    rcases linesOf_cons_break hbreak l with ⟨hsame, -⟩ | hcons
    · exact h line (hsame ▸ hline)
    · rw [hcons] at hline
      rcases List.mem_cons.1 hline with rfl | hline
      · exact Or.inl rfl
      · exact h line hline
  | false =>
    obtain ⟨others, hothers⟩ := linesOf_eq_cons l
    rw [linesOf_cons hbreak hothers] at hline
    rcases List.mem_cons.1 hline with rfl | hline
    · rw [trimmed_cons hc]
      exact h _ (hothers ▸ List.mem_cons_self)
    · exact h line (hothers ▸ List.mem_cons_of_mem _ hline)

theorem EveryLine.append_spaces (h : EveryLine p l) {spaces : List Char}
    (hspaces : ∀ c ∈ spaces, isWhitespace c = true) : EveryLine p (spaces ++ l) := by
  induction spaces with
  | nil => exact h
  | cons c spaces ih =>
    rw [List.forall_mem_cons] at hspaces
    exact (ih hspaces.2).cons_space hspaces.1

theorem EveryLine.append_core (h : EveryLine p l) (hcore : ∀ c ∈ core, isBreak c = false)
    (htrimmed : trimmed core = core) (hp : p core)
    (hspaces : ∀ c ∈ l.takeWhile (! isBreak ·), isWhitespace c = true) :
    EveryLine p (core ++ l) := by
  obtain ⟨others, hothers⟩ := linesOf_eq_cons l
  intro line hline
  rw [linesOf_append hcore hothers] at hline
  rcases List.mem_cons.1 hline with rfl | hline
  · rw [trimmed_append hspaces, htrimmed]
    exact Or.inr hp
  · exact h line (hothers ▸ List.mem_cons_of_mem _ hline)

theorem EveryLine.append_text (h : EveryLine p l) {text : List Char}
    (hbreaks : ∀ c ∈ trimmed text, isBreak c = false) (hp : p (trimmed text))
    (hl : ∀ c ∈ l.head?, isBreak c = true) : EveryLine p (text ++ l) := by
  obtain ⟨before, after, htext, hbefore, hafter⟩ := eq_append_trimmed text
  have hspaces : ∀ c ∈ (after ++ l).takeWhile (! isBreak ·), isWhitespace c = true := by
    have hfirst : l.takeWhile (! isBreak ·) = [] := by
      cases l with
      | nil => rfl
      | cons c l => exact List.takeWhile_cons_of_neg (by simp [hl c rfl])
    intro c hc
    rw [List.takeWhile_append, hfirst] at hc
    split at hc
    · exact hafter c (by simpa using hc)
    · exact hafter c ((List.takeWhile_sublist _).subset hc)
  have hcore : EveryLine p (trimmed text ++ (after ++ l)) :=
    (h.append_spaces hafter).append_core hbreaks (trimmed_trimmed text) hp hspaces
  rw [htext, List.append_assoc, List.append_assoc]
  exact hcore.append_spaces hbefore

theorem everyLine_join {texts : List (List Char)}
    (hbreaks : ∀ text ∈ texts, ∀ c ∈ trimmed text, isBreak c = false)
    (hp : ∀ text ∈ texts, p (trimmed text)) : EveryLine p (['\n'].intercalate texts) := by
  induction texts with
  | nil => exact everyLine_nil
  | cons text texts ih =>
    rw [List.forall_mem_cons] at hbreaks hp
    cases texts with
    | nil =>
      have h := (everyLine_nil (p := p)).append_text hbreaks.1 hp.1 (by simp)
      simpa [List.intercalate] using h
    | cons next texts =>
      rw [List.intercalate_cons_cons]
      have hrest := (ih hbreaks.2 hp.2).cons_space (c := '\n') (by decide)
      rw [List.append_assoc]
      exact hrest.append_text hbreaks.1 hp.1 (by simp [isBreak])

end Join

/-- Texts that are joined with line breaks and cut into lines again. -/
theorem trim_lines_join {texts : List String} {line : String}
    (hbreaks : ∀ text ∈ texts, ∀ c ∈ (trim text).toList, isBreak c = false)
    (hline : line ∈ lines (joinToString texts "\n")) :
    trim line = "" ∨ ∃ text ∈ texts, trim line = trim text := by
  have hevery : EveryLine (fun core => ∃ text ∈ texts, String.ofList core = trim text)
      (['\n'].intercalate (texts.map String.toList)) := by
    refine everyLine_join (fun text htext => ?_) fun text htext => ?_
    · obtain ⟨s, hs, rfl⟩ := List.mem_map.1 htext
      rw [← toList_trim]
      exact hbreaks s hs
    · obtain ⟨s, hs, rfl⟩ := List.mem_map.1 htext
      exact ⟨s, hs, by rw [← toList_trim, String.ofList_toList]⟩
  obtain ⟨chars, hchars, rfl⟩ := List.mem_map.1 hline
  rw [joinToString, String.toList_ofList] at hchars
  rw [trim_ofList]
  rcases hevery chars hchars with hblank | htext
  · exact Or.inl (by rw [hblank])
  · exact Or.inr htext

theorem mem_intercalate {c sep : Char} {pieces : List (List Char)}
    (h : c ∈ [sep].intercalate pieces) : c = sep ∨ ∃ piece ∈ pieces, c ∈ piece := by
  induction pieces with
  | nil => cases h
  | cons piece pieces ih =>
    cases pieces with
    | nil => exact Or.inr ⟨piece, List.mem_cons_self, by simpa [List.intercalate] using h⟩
    | cons next pieces =>
      rw [List.intercalate_cons_cons, List.mem_append, List.mem_append, List.mem_singleton] at h
      rcases h with (h | h) | h
      · exact Or.inr ⟨piece, List.mem_cons_self, h⟩
      · exact Or.inl h
      · rcases ih h with h | ⟨piece', hpiece, hc⟩
        · exact Or.inl h
        · exact Or.inr ⟨piece', List.mem_cons_of_mem _ hpiece, hc⟩

theorem mem_split {s : String} {c : Char} (sep : Char) (h : c ∈ s.toList) :
    c = sep ∨ ∃ part ∈ split s sep, c ∈ part.toList := by
  have hpieces : [sep].intercalate (s.toList.splitOn sep) = s.toList := List.intercalate_splitOn sep
  rw [← hpieces] at h
  rcases mem_intercalate h with h | ⟨piece, hpiece, hc⟩
  · exact Or.inl h
  · exact Or.inr ⟨String.ofList piece, List.mem_map_of_mem hpiece, by simpa using hc⟩

end LibreRoute.Lib
