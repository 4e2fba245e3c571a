import SwitchOcSuite.Lib.Validated

/-!
# What a program leaves in one word

    KeepsWord w x     `x` never fails and keeps word `w`
    Puts w v b x      `x` never fails, and word `w` holds `v` afterwards if `b` holds
                      or if it held `v` before
    MapsWord w g x    `x` never fails, and word `w` holds `g` of what it held before

A store to another word keeps `w`; a store of `v` to it puts `v` there.  The flags
of a sequence add up (`puts_bind`), so which of many stores to `w` came last does
not matter as long as all of them store `v`.  Where a store depends on what the
word held, the changes compose instead (`mapsWord_bind`, `mapsWord_modifyEach`).
-/

namespace Traced

open Prog

variable {ε δ α β : Type} {w : Int} {v : UInt32} {b b' : Prop}

/-! ## Words that are kept -/

abbrev KeepsWord (w : Int) (x : WordProg ε δ α) : Prop := Commits (fun s : Store δ => s.mem w) x

theorem keepsWord_load (a : Int) : KeepsWord w (load a : WordProg ε δ UInt32) :=
  ⟨neverFails_load a, fun _ => rfl⟩

theorem keepsWord_store {a : Int} (h : w ≠ a) (y : UInt32) :
    KeepsWord w (store a y : WordProg ε δ Unit) := by
  refine ⟨neverFails_store a y, fun s => ?_⟩
  show Function.update s.mem a y w = s.mem w
  exact Function.update_of_ne h y s.mem

theorem keepsWord_modify {a : Int} (h : w ≠ a) (f : UInt32 → UInt32) :
    KeepsWord w (modify a f : WordProg ε δ Unit) :=
  commits_bind (keepsWord_load a) fun _ => keepsWord_store h _

theorem keepsWord_storeBlock {head : Int} {ws : List UInt32}
    (h : w < head ∨ head + ws.length ≤ w) :
    KeepsWord w (storeBlock head ws : WordProg ε δ Unit) :=
  ⟨neverFails_storeBlock head ws, fun s => if_neg (by omega)⟩

theorem keepsWord_copyBlock {a b : Int} {n : Nat} (h : w < b ∨ b + n ≤ w) :
    KeepsWord w (do let src ← loadBlock a n; storeBlock b src : WordProg ε δ Unit) := by
  refine ⟨neverFails_bind (neverFails_loadBlock a n) fun _ => neverFails_storeBlock b _, fun s => ?_⟩
  rw [loadBlock_bind_run, after_state]
  exact (keepsWord_storeBlock (by rwa [length_readBlock])).keeps s

theorem keepsWord_forEach {f : β → WordProg ε δ Unit} {xs : List β}
    (h : ∀ x ∈ xs, KeepsWord w (f x)) : KeepsWord w (forEach xs f) := by
  induction xs with
  | nil => exact commits_pure ()
  | cons x xs ih =>
    exact commits_bind (h x (by simp)) fun _ => ih fun y hy => h y (by simp [hy])

/-! ## Words that are put -/

def Puts (w : Int) (v : UInt32) (b : Prop) (x : WordProg ε δ α) : Prop :=
  ∀ s, (∃ a, (x s).result = .ok a) ∧ (b ∨ s.mem w = v → (x s).state.mem w = v)

theorem Puts.mono {x : WordProg ε δ α} (h : Puts w v b x) (hb : b' → b) : Puts w v b' x :=
  fun s => ⟨(h s).1, fun hv => (h s).2 (hv.imp_left hb)⟩

/-- The word after a program whose flag is set. -/
theorem Puts.state {x : WordProg ε δ α} (h : Puts w v b x) (hb : b) (s : Store δ) :
    (x s).state.mem w = v :=
  (h s).2 (.inl hb)

theorem KeepsWord.puts {x : WordProg ε δ α} (h : KeepsWord w x) : Puts w v False x :=
  fun s => ⟨h.neverFails s, fun hv => (h.keeps s).trans (hv.resolve_left id)⟩

theorem puts_pure (a : α) : Puts w v False (Pure.pure a : WordProg ε δ α) :=
  KeepsWord.puts (commits_pure a)

theorem puts_store {a : Int} {y : UInt32} (h : a = w → y = v) :
    Puts w v (a = w) (store a y : WordProg ε δ Unit) := by
  refine fun s => ⟨⟨(), rfl⟩, fun hv => ?_⟩
  show Function.update s.mem a y w = v
  by_cases ha : a = w
  · rw [← ha, Function.update_self, h ha]
  · rw [Function.update_of_ne (Ne.symm ha), hv.resolve_left ha]

theorem puts_storeBlock {head : Int} {ws : List UInt32} {i : Nat} (h : i < ws.length) :
    Puts (head + i) (ws.getD i 0) True (storeBlock head ws : WordProg ε δ Unit) :=
  fun s => ⟨⟨(), rfl⟩, fun _ => writeBlock_of_mem s.mem head ws h⟩

theorem puts_bind {x : WordProg ε δ α} {f : α → WordProg ε δ β} (hx : Puts w v b x)
    (hf : ∀ a, Puts w v b' (f a)) : Puts w v (b ∨ b') (x >>= f) := by
  intro s
  obtain ⟨⟨a, ha⟩, hput⟩ := hx s
  obtain ⟨⟨c, hc⟩, hput'⟩ := hf a (x s).state
  rw [bind_of_ok ha, after_result, after_state]
  refine ⟨⟨c, hc⟩, fun hv => hput' ?_⟩
  rcases hv with (hb | hb') | hs
  · exact .inr (hput (.inl hb))
  · exact .inl hb'
  · exact .inr (hput (.inr hs))

theorem puts_forEach {f : β → WordProg ε δ Unit} {p : β → Prop} {xs : List β}
    (h : ∀ x ∈ xs, Puts w v (p x) (f x)) : Puts w v (∃ x ∈ xs, p x) (forEach xs f) := by
  induction xs with
  | nil => exact (puts_pure ()).mono fun ⟨x, hx, _⟩ => absurd hx (List.not_mem_nil)
  | cons x xs ih =>
    refine (puts_bind (h x (by simp)) fun _ => ih fun y hy => h y (by simp [hy])).mono ?_
    rintro ⟨y, hy, hp⟩
    rcases List.mem_cons.1 hy with rfl | hy
    · exact .inl hp
    · exact .inr ⟨y, hy, hp⟩

/-! ## A list of stores -/

variable {addr : β → Int} {value : β → UInt32} {xs : List β}

/-- The values may depend on the place only, so a place may be repeated. -/
theorem puts_storeEach (h : Function.Injective addr) {x : β} :
    Puts (addr x) (value x) (x ∈ xs)
      (forEach xs fun y => (store (addr y) (value y) : WordProg ε δ Unit)) := by
  refine (puts_forEach fun y _ => puts_store fun hy => ?_).mono fun hx => ⟨x, hx, rfl⟩
  rw [h hy]

theorem keepsWord_storeEach (h : ∀ x ∈ xs, w ≠ addr x) :
    KeepsWord w (forEach xs fun y => (store (addr y) (value y) : WordProg ε δ Unit)) :=
  keepsWord_forEach fun x hx => keepsWord_store (h x hx) _

/-! ## Words that are changed in place -/

def MapsWord (w : Int) (g : UInt32 → UInt32) (x : WordProg ε δ α) : Prop :=
  ∀ s, (∃ a, (x s).result = .ok a) ∧ (x s).state.mem w = g (s.mem w)

variable {g g' : UInt32 → UInt32}

theorem KeepsWord.mapsWord {x : WordProg ε δ α} (h : KeepsWord w x) : MapsWord w id x :=
  fun s => ⟨h.neverFails s, h.keeps s⟩

theorem mapsWord_modify (w : Int) (f : UInt32 → UInt32) :
    MapsWord w f (modify w f : WordProg ε δ Unit) := by
  refine fun s => ⟨⟨(), rfl⟩, ?_⟩
  show Function.update s.mem w (f (s.mem w)) w = f (s.mem w)
  exact Function.update_self w (f (s.mem w)) s.mem

theorem mapsWord_bind {x : WordProg ε δ α} {f : α → WordProg ε δ β} (hx : MapsWord w g x)
    (hf : ∀ a, MapsWord w g' (f a)) : MapsWord w (g' ∘ g) (x >>= f) := by
  intro s
  obtain ⟨⟨a, ha⟩, hmap⟩ := hx s
  obtain ⟨⟨c, hc⟩, hmap'⟩ := hf a (x s).state
  rw [bind_of_ok ha, after_result, after_state]
  exact ⟨⟨c, hc⟩, hmap'.trans (congrArg g' hmap)⟩

/-- The changes that are listed for `k`, in order. -/
def changesOf [DecidableEq β] (k : β) (us : List (β × (UInt32 → UInt32))) (y : UInt32) : UInt32 :=
  (us.filter fun u => u.1 = k).foldl (fun y u => u.2 y) y

@[simp] theorem changesOf_nil [DecidableEq β] (k : β) (y : UInt32) : changesOf k [] y = y :=
  rfl

theorem changesOf_cons [DecidableEq β] (k : β) (u : β × (UInt32 → UInt32))
    (us : List (β × (UInt32 → UInt32))) (y : UInt32) :
    changesOf k (u :: us) y = changesOf k us (if u.1 = k then u.2 y else y) := by
  unfold changesOf
  by_cases hu : u.1 = k <;> simp [hu]

/-- A word is changed by the updates that name it; the others keep it. -/
theorem mapsWord_modifyEach [DecidableEq β] (h : Function.Injective addr)
    (us : List (β × (UInt32 → UInt32))) (k : β) :
    MapsWord (addr k) (changesOf k us)
      (forEach us fun u => (modify (addr u.1) u.2 : WordProg ε δ Unit)) := by
  induction us with
  | nil => exact KeepsWord.mapsWord (commits_pure ())
  | cons u us ih =>
    have hhead : MapsWord (addr k) (fun y => if u.1 = k then u.2 y else y)
        (modify (addr u.1) u.2 : WordProg ε δ Unit) := by
      by_cases hu : u.1 = k
      · simp only [hu, if_true]
        exact mapsWord_modify _ _
      · simp only [hu, if_false]
        exact (keepsWord_modify (h.ne (Ne.symm hu)) u.2).mapsWord
    have hsplit : changesOf k (u :: us) =
        changesOf k us ∘ fun y => if u.1 = k then u.2 y else y :=
      funext fun y => changesOf_cons k u us y
    rw [hsplit, forEach_cons]
    exact mapsWord_bind hhead fun _ => ih

section

variable [DecidableEq β] {us : List (β × (UInt32 → UInt32))} {k : β} {P : UInt32 → Prop}

theorem changesOf_preserves (h : ∀ u ∈ us, u.1 = k → ∀ y, P y → P (u.2 y)) {y : UInt32}
    (hy : P y) : P (changesOf k us y) := by
  induction us generalizing y with
  | nil => exact hy
  | cons u us ih =>
    rw [changesOf_cons]
    refine ih (fun u' hu' => h u' (by simp [hu'])) ?_
    by_cases hu : u.1 = k
    · rw [if_pos hu]
      exact h u (by simp) hu y hy
    · rw [if_neg hu]
      exact hy

/-- What no change of `k` touches. -/
theorem changesOf_keeps {γ : Type} {p : UInt32 → γ}
    (h : ∀ u ∈ us, u.1 = k → ∀ y, p (u.2 y) = p y) (y : UInt32) : p (changesOf k us y) = p y :=
  changesOf_preserves (P := fun y' => p y' = p y) (fun u hu hk y' hy => (h u hu hk y').trans hy) rfl

/-- What one change of `k` brings about and the others preserve. -/
theorem changesOf_reaches (hkept : ∀ u ∈ us, u.1 = k → ∀ y, P y → P (u.2 y))
    (hone : ∃ u ∈ us, u.1 = k ∧ ∀ y, P (u.2 y)) (y : UInt32) : P (changesOf k us y) := by
  obtain ⟨u, hmem, hu, hset⟩ := hone
  obtain ⟨before, after, rfl⟩ := List.append_of_mem hmem
  have hsplit : changesOf k (before ++ u :: after) y =
      changesOf k after (u.2 (changesOf k before y)) := by simp [changesOf, hu]
  rw [hsplit]
  exact changesOf_preserves (fun u' hu' => hkept u' (by simp [hu'])) (hset _)

end

end Traced
