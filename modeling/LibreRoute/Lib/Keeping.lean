import LibreRoute.Lib.Program

/-!
Invariants that are read off a program.

For most lines of a program it is plain that they keep an invariant: they only
read, or they change what the invariant does not speak about. That is left to
instances here, one for each construct, so that a proof has to name only the
lines that matter.
-/

namespace LibreRoute.Lib

open Prog

/-- Two values that are the same once they are computed. -/
class Same {α : Type} (a b : α) : Prop where
  eq : a = b

instance {α : Type} (a : α) : Same a a := ⟨rfl⟩

/-- An element of a list that is written out. -/
class Listed {α : Type} (a : α) (l : List α) : Prop where
  mem : a ∈ l

instance {α : Type} {a : α} {l : List α} : Listed a (a :: l) := ⟨List.mem_cons_self⟩

instance {α : Type} {a b : α} {l : List α} [h : Listed a l] : Listed a (b :: l) :=
  ⟨List.mem_cons_of_mem b h.mem⟩

variable {ε σ α β γ : Type} {I : σ → Prop} {m : Prog ε σ α} {k : α → Prog ε σ β}

class Keeping (I : σ → Prop) (m : Prog ε σ α) : Prop where
  keeps : m.Keeps I

class Maintains (I : σ → Prop) (g : σ → σ) : Prop where
  keeps : ∀ s, I s → I (g s)

instance {f : σ → γ} {b : γ} {g : σ → σ} [h : ∀ s, Same (f (g s)) (f s)] :
    Maintains (fun s => f s = b) g := ⟨fun s hs => (h s).eq.trans hs⟩

namespace Keeping

instance {a : α} : Keeping I (pure a : Prog ε σ α) := ⟨keeps_pure⟩

instance {f : σ → α} : Keeping I (read f : Prog ε σ α) := ⟨keeps_read⟩

instance {result : Except ε α} : Keeping I (ofExcept result : Prog ε σ α) := ⟨keeps_ofExcept⟩

instance {c : Bool} {e : ε} : Keeping I (Prog.require c e : Prog ε σ Unit) := ⟨keeps_require⟩

instance {value : Option α} {e : ε} : Keeping I (getOrThrow value e : Prog ε σ α) :=
  ⟨fun _ hs => wp_getOrThrow (fun _ _ => hs) fun _ => hs⟩

instance {g : σ → σ} [h : Maintains I g] : Keeping I (modify g : Prog ε σ Unit) :=
  ⟨keeps_modify h.keeps⟩

instance {g : σ → σ} [h : Maintains I g] : Keeping I (write g : Prog ε σ Unit) :=
  ⟨keeps_write h.keeps⟩

instance {g : σ → α × σ} [h : Maintains I fun s => (g s).2] : Keeping I (call g : Prog ε σ α) :=
  ⟨fun s hs => wp_call (h.keeps s hs)⟩

theorem bind [hm : Keeping I m] (hk : ∀ a, Keeping I (k a)) : Keeping I (m >>= k) :=
  ⟨keeps_bind hm.keeps fun a => (hk a).keeps⟩

instance [Keeping I m] [hk : ∀ a, Keeping I (k a)] : Keeping I (m >>= k) := bind hk

theorem read_bind {f : σ → α} (hk : ∀ s, I s → Keeping I (k (f s))) :
    Keeping I ((read f : Prog ε σ α) >>= k) :=
  ⟨keeps_read_bind fun s hs => (hk s hs).keeps s hs⟩

theorem ofExcept_bind {result : Except ε α} (hk : ∀ a, result = .ok a → Keeping I (k a)) :
    Keeping I ((ofExcept result : Prog ε σ α) >>= k) :=
  ⟨keeps_ofExcept_bind fun a ha => (hk a ha).keeps⟩

theorem getOrThrow_bind {value : Option α} {e : ε} (hk : ∀ a, value = some a → Keeping I (k a)) :
    Keeping I ((getOrThrow value e : Prog ε σ α) >>= k) :=
  ⟨keeps_getOrThrow_bind fun a ha => (hk a ha).keeps⟩

instance {m m' : Prog ε σ α} {c : Prop} [Decidable c] [h : Keeping I m] [h' : Keeping I m'] :
    Keeping I (if c then m else m') := by
  split
  · exact h
  · exact h'

instance {c : Bool} {m : Prog ε σ Unit} [h : Keeping I m] : Keeping I (when c m) :=
  ⟨keeps_when fun _ => h.keeps⟩

instance {τ : Type} {get : σ → τ} {set : τ → σ → σ} {m : Prog ε τ α}
    [h : ∀ t, Maintains I (set t)] : Keeping I (zoom get set m) :=
  ⟨fun s hs => wp_zoom
    (wp_mono wp_true (fun _ t _ => (h t).keeps s hs) fun t _ => (h t).keeps s hs)⟩

theorem attempt {handler : ε → Prog ε σ α} (hm : Keeping I m) [hh : ∀ e, Keeping I (handler e)] :
    Keeping I (m.attempt handler) := ⟨keeps_attempt hm.keeps fun e => (hh e).keeps⟩

instance {handler : ε → Prog ε σ α} [hm : Keeping I m] [∀ e, Keeping I (handler e)] :
    Keeping I (m.attempt handler) := hm.attempt

instance [h : Keeping I m] : Keeping I m.runCatching := ⟨keeps_runCatching h.keeps⟩

instance {l : List α} {body : α → Prog ε σ Unit} [h : ∀ a, Keeping I (body a)] :
    Keeping I (forEach l body) := ⟨keeps_forEach fun a _ => (h a).keeps⟩

instance {l : List α} [h : ∀ a, Keeping I (k a)] : Keeping I (mapEach l k) :=
  ⟨keeps_mapEach fun a _ => (h a).keeps⟩

theorem leaves {f : σ → γ} [h : ∀ b, Keeping (fun s => f s = b) m] : m.Leaves f :=
  fun b => (h b).keeps

end Keeping

end LibreRoute.Lib
