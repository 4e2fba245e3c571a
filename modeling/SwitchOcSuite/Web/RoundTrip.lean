import Mathlib.Tactic.Common
import SwitchOcSuite.Lib.Validated
import SwitchOcSuite.Loader.Layout
import SwitchOcSuite.Web.Cust

/-!
# The configurator and the loader agree on the layout

The configurator's offsets are running sums over its three tables, the loader's
come from the struct.  After a save the loader reads each value in the field that
the entry is named after, and nothing else has changed.

    load_save        opening a file, saving a form to it and opening it again
-/

namespace SwitchOc.Web

open Traced Bytes

/-! ## Specification -/

def allEntries : List CustEntry := custTable ++ (advTable ++ gpuTable)

/-- The table with the values of a form in the fields they are meant for. -/
def configure (C : CustomizeTable) (form : Form) : CustomizeTable :=
  { C with
    mtcConf := (form "mtcConf").toUint32
    commonCpuBoostClock := (form "commonCpuBoostClock").toUint32
    commonEmcMemVolt := (form "commonEmcMemVolt").toUint32
    eristaCpuMaxVolt := (form "eristaCpuMaxVolt").toUint32
    eristaEmcMaxClock := (form "eristaEmcMaxClock").toUint32
    marikoCpuMaxVolt := (form "marikoCpuMaxVolt").toUint32
    marikoEmcMaxClock := (form "marikoEmcMaxClock").toUint32
    marikoEmcVddqVolt := (form "marikoEmcVddqVolt").toUint32
    marikoCpuUV := (form "marikoCpuUV").toUint32
    marikoGpuUV := (form "marikoGpuUV").toUint32
    commonGpuVoltOffset := (form "commonGpuVoltOffset").toUint32
    marikoEmcDvbShift := (form "marikoEmcDvbShift").toUint32
    ramTimingPresetOne := (form "ramTimingPresetOne").toUint32
    ramTimingPresetTwo := (form "ramTimingPresetTwo").toUint32
    ramTimingPresetThree := (form "ramTimingPresetThree").toUint32
    ramTimingPresetFour := (form "ramTimingPresetFour").toUint32
    ramTimingPresetFive := (form "ramTimingPresetFive").toUint32
    ramTimingPresetSix := (form "ramTimingPresetSix").toUint32
    ramTimingPresetSeven := (form "ramTimingPresetSeven").toUint32
    marikoGpuVoltArray := Vector.ofFn fun i => (form (toString i.val)).toUint32 }

/-- The first aligned magic of a file is at `p`. -/
structure FirstMagic (b : List UInt8) (p : Nat) : Prop where
  aligned : magicLen ∣ p
  here : getLE b p 4 = magic
  first : ∀ q < p, magicLen ∣ q → getLE b q 4 ≠ magic

/-- A form of which every entry accepts its value. -/
def FormValid (form : Form) : Prop := ∀ i ∈ allEntries, i.validate (some (form i.id)) = true

/-- The file `b`, whose table is at `p`, after a save that ended in `o`. -/
structure SavedAs (b : List UInt8) (p : Nat) (form : Form) (o : Outcome JsError Cust Empty Unit) :
    Prop where
  ok : o.result = .ok ()
  /-- The loader reads each value in its field and the rest as before. -/
  table : CustomizeTable.ofBytes o.state.buffer p = configure (CustomizeTable.ofBytes b p) form
  /-- No value is changed by its conversion. -/
  exact : ∀ i ∈ allEntries, form i.id = .ofNat (form i.id).toUint32.toNat
  length : o.state.buffer.length = b.length
  outside : ∀ a, a < p + 8 ∨ p + 8 + 4 * allEntries.length ≤ a → o.state.buffer[a]? = b[a]?
  download : o.state.download = some o.state.buffer
  /-- Parsing again, on this page or on any other, gives the same values. -/
  parsed : (parse o.state).result = .ok () ∧
    ∀ i ∈ allEntries, (parse o.state).state.value i.id = some (form i.id)
  loaded : ∀ page, (load o.state.buffer page).result = .ok () ∧
    ∀ i ∈ allEntries, (load o.state.buffer page).state.value i.id = some (form i.id)

/-! ## Entries -/

theorem allEntries_size : ∀ i ∈ allEntries, i.size = 4 := by decide

theorem allEntries_bounds : ∀ i ∈ allEntries, 0 < i.step ∧ i.max < 2 ^ 32 := by decide

theorem allEntries_nodup : (allEntries.map (·.id)).Nodup := by decide

theorem validate_iff_fault {i : CustEntry} {v : Option JsNumber} :
    i.validate v = true ↔ i.fault v = none := by
  unfold CustEntry.validate
  exact Option.isNone_iff_eq_none

/-- A value that an entry accepts is a whole number in its range, or an allowed zero. -/
theorem exists_of_validate {i : CustEntry} (hstep : 0 < i.step) {x : JsNumber}
    (h : i.validate (some x) = true) :
    ∃ n : Nat, x = .ofNat n ∧ ((i.zeroable = true ∧ n = 0) ∨ (i.min ≤ n ∧ n ≤ i.max)) := by
  rw [validate_iff_fault] at h
  unfold CustEntry.fault at h
  dsimp only at h
  by_cases hnan : x = .nan
  · rw [if_pos hnan] at h
    cases h
  rw [if_neg hnan] at h
  by_cases hzero : (i.zeroable && x.isZero) = true
  · obtain ⟨hz, hx⟩ := Bool.and_eq_true_iff.1 hzero
    exact ⟨0, JsNumber.isZero_iff.1 hx, .inl ⟨hz, rfl⟩⟩
  rw [if_neg hzero] at h
  by_cases hrange : (x.lt (.ofNat i.min) || (JsNumber.ofNat i.max).lt x) = true
  · rw [if_pos hrange] at h
    cases h
  rw [if_neg hrange] at h
  by_cases hmul : ¬ (x.rem (.ofNat i.step)).isZero = true
  · rw [if_pos hmul] at h
    cases h
  rw [not_not] at hmul
  cases x with
  | nan => exact absurd rfl hnan
  | infinite negative => cases hmul
  | num q =>
    obtain ⟨k, hk⟩ := JsNumber.exists_int_of_rem hstep hmul
    simp only [JsNumber.lt, JsNumber.ofNat, Bool.or_eq_true, decide_eq_true_eq, not_or, not_lt]
      at hrange
    obtain ⟨hmin, hmax⟩ := hrange
    have hint : q = ((i.step * k : ℤ) : ℚ) := by rw [hk]; push_cast; rfl
    have hnonneg : 0 ≤ (i.step * k : ℤ) := by
      have h₀ : (0 : ℚ) ≤ q := le_trans (Nat.cast_nonneg _) hmin
      rw [hint] at h₀
      exact_mod_cast h₀
    obtain ⟨n, hn⟩ := Int.eq_ofNat_of_zero_le hnonneg
    have hq : q = (n : ℚ) := by rw [hint, hn]; norm_cast
    refine ⟨n, by rw [hq]; rfl, .inr ⟨?_, ?_⟩⟩
    · rw [hq] at hmin
      exact_mod_cast hmin
    · rw [hq] at hmax
      exact_mod_cast hmax

/-- A valid form holds 32-bit words. -/
theorem FormValid.exact {form : Form} (h : FormValid form) :
    ∀ i ∈ allEntries, form i.id = .ofNat (form i.id).toUint32.toNat := by
  intro i hi
  obtain ⟨hstep, hmax⟩ := allEntries_bounds i hi
  obtain ⟨n, hn, hrange⟩ := exists_of_validate hstep (h i hi)
  have hlt : n < 2 ^ 32 := by
    rcases hrange with ⟨-, rfl⟩ | ⟨-, hle⟩
    · decide
    · omega
  rw [hn, JsNumber.toNat_toUint32 hlt]

/-! ## Opening -/

theorem mapperGet_run {size offset : Nat} {s : Cust} (h : offset + size ≤ s.buffer.length) :
    mapperGet size offset s = ⟨.ok (getLE s.buffer offset size), s, []⟩ := by
  unfold mapperGet
  rw [gets_bind_run, require_bind_run, if_pos h]
  rfl

/-- The entries of a table are read from `o` on. -/
def ReadFrom (s : Cust) (o : Nat) : List CustEntry → Prop
  | [] => True
  | i :: table => s.offset i.id = some o ∧ s.value i.id = some (.ofNat (getLE s.buffer o 4)) ∧
      ReadFrom s (o + 4) table

theorem loadTable_run (table : List CustEntry) : ∀ (o : Nat) (s : Cust),
    (∀ i ∈ table, i.size = 4) → (table.map (·.id)).Nodup → o + 4 * table.length ≤ s.buffer.length →
    ∃ t, loadTable o table s = ⟨.ok (o + 4 * table.length), t, []⟩ ∧ ReadFrom t o table ∧
      t.buffer = s.buffer ∧ t.beginOffset = s.beginOffset ∧
      ∀ id ∉ table.map (·.id), t.offset id = s.offset id ∧ t.value id = s.value id := by
  induction table with
  | nil => exact fun o s _ _ _ => ⟨s, rfl, trivial, rfl, rfl, fun id _ => ⟨rfl, rfl⟩⟩
  | cons i table ih =>
    intro o s hsize hnodup hlen
    rw [List.length_cons] at hlen ⊢
    rw [List.map_cons, List.nodup_cons] at hnodup
    have hi : i.size = 4 := hsize i (by simp)
    set s₁ : Cust := { s with
      offset := Function.update s.offset i.id (some o)
      value := Function.update s.value i.id (some (.ofNat (getLE s.buffer o 4))) } with hs₁
    have hhead : loadValue o i s = ⟨.ok (), s₁, []⟩ := by
      unfold loadValue
      rw [sets_bind_run, require_bind_run, if_pos (by rw [hi]; decide), hi]
      rw [bind_of_ok (by rw [mapperGet_run (by dsimp only; omega)]), mapperGet_run (by dsimp only; omega)]
      rfl
    obtain ⟨t, ht, hread, hbuf, hbegin, hframe⟩ := ih (o + 4) s₁ (fun j hj => hsize j (by simp [hj]))
      hnodup.2 (by rw [hs₁]; dsimp only; omega)
    obtain ⟨hoff, hval⟩ := hframe i.id hnodup.1
    refine ⟨t, ?_, ⟨?_, ?_, hread⟩, hbuf, hbegin, ?_⟩
    · unfold loadTable
      rw [bind_of_ok (by rw [hhead]), hhead, hi, ht]
      rw [show o + 4 + 4 * table.length = o + 4 * (table.length + 1) by omega]
      rfl
    · rw [hoff]
      exact Function.update_self ..
    · rw [hval, hbuf]
      exact Function.update_self ..
    · intro id hid
      rw [List.map_cons, List.mem_cons, not_or] at hid
      obtain ⟨h₁, h₂⟩ := hframe id hid.2
      rw [h₁, h₂]
      exact ⟨Function.update_of_ne hid.1 .., Function.update_of_ne hid.1 ..⟩

theorem loadTable_cons (o : Nat) (i : CustEntry) (table : List CustEntry) :
    loadTable o (i :: table) = loadValue o i >>= fun _ => loadTable (o + i.size) table :=
  rfl

theorem loadTable_append (xs ys : List CustEntry) : ∀ o : Nat,
    loadTable o (xs ++ ys) = loadTable o xs >>= fun o' => loadTable o' ys := by
  induction xs with
  | nil => exact fun o => (prog_pure_bind o fun o' => loadTable o' ys).symm
  | cons i xs ih =>
    intro o
    rw [List.cons_append, loadTable_cons, loadTable_cons, ih, prog_bind_assoc]

/-- Three tables one after the other are one. -/
theorem loadTable_append₃ (xs ys zs : List CustEntry) (o : Nat) (f : Nat → Js Unit) :
    loadTable o (xs ++ (ys ++ zs)) >>= f = loadTable o xs >>= fun o₁ => loadTable o₁ ys >>=
      fun o₂ => loadTable o₂ zs >>= f := by
  rw [loadTable_append, prog_bind_assoc]
  refine congrArg _ (funext fun o₁ => ?_)
  rw [loadTable_append, prog_bind_assoc]

theorem readFrom_get {s : Cust} : ∀ {table : List CustEntry} {o : Nat}, ReadFrom s o table →
    ∀ k (h : k < table.length),
      s.offset table[k].id = some (o + 4 * k) ∧
      s.value table[k].id = some (.ofNat (getLE s.buffer (o + 4 * k) 4)) := by
  intro table
  induction table with
  | nil => exact fun _ k h => absurd h (Nat.not_lt_zero k)
  | cons i table ih =>
    rintro o ⟨hoff, hval, hrest⟩ k hk
    cases k with
    | zero => exact ⟨hoff, hval⟩
    | succ k =>
      have hget := ih hrest k (Nat.lt_of_succ_lt_succ hk)
      rw [show o + 4 * (k + 1) = o + 4 + 4 * k by omega]
      exact hget

/-- Parsing reads every entry, in the order of the tables, right behind the revision. -/
theorem parse_run {s : Cust} (hrev : getLE s.buffer (s.beginOffset + 4) 4 = custRevAdv)
    (hlen : s.beginOffset + 8 + 4 * allEntries.length ≤ s.buffer.length) :
    ∃ t, parse s = ⟨.ok (), t, []⟩ ∧ ReadFrom t (s.beginOffset + 8) allEntries ∧
      t.buffer = s.buffer ∧ t.beginOffset = s.beginOffset := by
  obtain ⟨t, ht, hread, hbuf, hbegin, -⟩ := loadTable_run allEntries (s.beginOffset + 8)
    { s with rev := custRevAdv } allEntries_size allEntries_nodup hlen
  refine ⟨t, ?_, hread, hbuf, hbegin⟩
  have hget : mapperGet 4 (s.beginOffset + magicLen) s = ⟨.ok custRevAdv, s, []⟩ := by
    rw [← hrev]
    exact mapperGet_run (by unfold magicLen; omega)
  unfold parse
  rw [gets_bind_run, bind_of_ok (by rw [hget]), hget, sets_bind_run, require_bind_run, if_pos rfl]
  rw [← loadTable_append₃ custTable advTable gpuTable]
  rw [show custTable ++ (advTable ++ gpuTable) = allEntries from rfl]
  rw [show s.beginOffset + magicLen + 4 = s.beginOffset + 8 from rfl]
  rw [bind_of_ok (by rw [ht]), ht]
  rfl

/-- The scan for the magic stops at the first aligned place that has it. -/
theorem findMagicOffset_run {s : Cust} {p : Nat} (h : FirstMagic s.buffer p)
    (hlen : p + 4 ≤ s.buffer.length) :
    findMagicOffset s = ⟨.ok (), { s with beginOffset := p }, []⟩ := by
  obtain ⟨k, rfl⟩ := h.aligned
  have hmagic : magicLen = 4 := rfl
  have hfind : ∀ m j, j ≤ k → k < j + m →
      findFrom ((List.range' j m).map fun i => magicLen * i) s =
        ⟨.ok (), { s with beginOffset := magicLen * k }, []⟩ := by
    intro m
    induction m with
    | zero =>
      intro j h₁ h₂
      omega
    | succ m ih =>
      intro j h₁ h₂
      rw [List.range'_succ, List.map_cons]
      unfold findFrom
      have hget : mapperGet magicLen (magicLen * j) s = ⟨.ok (getLE s.buffer (magicLen * j) 4), s, []⟩ :=
        mapperGet_run (by rw [hmagic] at hlen ⊢; omega)
      rw [bind_of_ok (by rw [hget]), hget]
      rcases Nat.eq_or_lt_of_le h₁ with rfl | hlt
      · rw [if_pos h.here]
        rfl
      · have hnot := h.first (magicLen * j) (by rw [hmagic]; omega) (Nat.dvd_mul_right ..)
        rw [if_neg hnot]
        have := ih (j + 1) hlt (by omega)
        rw [this]
        rfl
  unfold findMagicOffset magicOffsets
  rw [gets_bind_run, List.range_eq_range']
  exact hfind _ 0 (Nat.zero_le k) (by rw [hmagic] at hlen ⊢; omega)

theorem load_run {b : List UInt8} {p : Nat} (h : FirstMagic b p)
    (hrev : getLE b (p + 4) 4 = custRevAdv) (hlen : p + 8 + 4 * allEntries.length ≤ b.length)
    (page : Cust) : ∃ t, load b page = ⟨.ok (), t, []⟩ ∧ ReadFrom t (p + 8) allEntries ∧
      t.buffer = b ∧ t.beginOffset = p := by
  obtain ⟨t, ht, hread, hbuf, hbegin⟩ :=
    parse_run (s := { page with buffer := b, beginOffset := p }) hrev hlen
  refine ⟨t, ?_, hread, hbuf, hbegin⟩
  have hfind : findMagicOffset { page with buffer := b } =
      ⟨.ok (), { page with buffer := b, beginOffset := p }, []⟩ :=
    findMagicOffset_run h (by dsimp only; omega)
  unfold load
  rw [sets_bind_run, bind_of_ok (by rw [hfind]), hfind, ht]
  rfl

/-! ## Saving -/

theorem updateValue_run (form : Form) (i : CustEntry) (s : Cust) :
    updateValue form i s =
      ⟨if i.validate (some (form i.id)) = true then .ok () else .error (.invalid i.name),
        { s with value := Function.update s.value i.id (some (form i.id)) }, []⟩ := by
  unfold updateValue
  rw [sets_bind_run, gets_bind_run]
  simp only [Function.update_self, require_run]

theorem updateValue_keeps (form : Form) (i : CustEntry) : Keeps Cust.buffer (updateValue form i) := by
  intro s
  rw [updateValue_run]

/-- Every value of a table is taken from the form when all of them are valid. -/
theorem updateValues_run {form : Form} (table : List CustEntry) : ∀ s : Cust,
    (∀ i ∈ table, i.validate (some (form i.id)) = true) →
    ∃ value, Prog.forEach table (updateValue form) s = ⟨.ok (), { s with value }, []⟩ ∧
      (∀ i ∈ table, value i.id = some (form i.id)) ∧
      ∀ id, value id = s.value id ∨ value id = some (form id) := by
  induction table with
  | nil => exact fun s _ => ⟨s.value, rfl, fun i hi => absurd hi List.not_mem_nil, fun _ => .inl rfl⟩
  | cons i table ih =>
    intro s hvalid
    set v := Function.update s.value i.id (some (form i.id)) with hv
    have hself : v i.id = some (form i.id) := Function.update_self ..
    have hhead : updateValue form i s = ⟨.ok (), { s with value := v }, []⟩ := by
      rw [updateValue_run, if_pos (hvalid i (by simp))]
    obtain ⟨value, ht, hval, hframe⟩ := ih { s with value := v } fun j hj => hvalid j (by simp [hj])
    refine ⟨value, ?_, ?_, fun id => ?_⟩
    · rw [forEach_cons, bind_of_ok (by rw [hhead]), hhead, ht]
      rfl
    · intro j hj
      rcases List.mem_cons.1 hj with rfl | hj
      · rcases hframe j.id with h | h
        · exact h.trans hself
        · exact h
      · exact hval j hj
    · rcases hframe id with h | h
      · by_cases hid : id = i.id
        · rw [hid] at h ⊢
          exact .inr (h.trans hself)
        · exact .inl (h.trans (Function.update_of_ne hid ..))
      · exact .inr h

/-- The first invalid value ends the update. -/
theorem updateValues_error {form : Form} (table : List CustEntry) : ∀ s : Cust,
    (∃ i ∈ table, i.validate (some (form i.id)) = false) →
    ∃ i ∈ table, i.validate (some (form i.id)) = false ∧
      (Prog.forEach table (updateValue form) s).result = .error (.invalid i.name) := by
  induction table with
  | nil => exact fun s ⟨i, hi, _⟩ => absurd hi List.not_mem_nil
  | cons i table ih =>
    intro s hex
    have hhead : (updateValue form i s).result =
        if i.validate (some (form i.id)) = true then .ok () else .error (.invalid i.name) := by
      rw [updateValue_run]
    rw [forEach_cons]
    by_cases hi : i.validate (some (form i.id)) = true
    · rw [if_pos hi] at hhead
      obtain ⟨j, hj, hbad, herr⟩ := ih (updateValue form i s).state (by
        obtain ⟨j, hj, hbad⟩ := hex
        rcases List.mem_cons.1 hj with rfl | hj
        · rw [hi] at hbad
          cases hbad
        · exact ⟨j, hj, hbad⟩)
      refine ⟨j, by simp [hj], hbad, ?_⟩
      rw [bind_of_ok hhead]
      exact herr
    · rw [if_neg hi] at hhead
      refine ⟨i, by simp, by simpa using hi, ?_⟩
      rw [bind_of_error hhead]

/-- Three loops one after the other are one. -/
theorem forEach_append₃ (xs ys zs : List CustEntry) (f : CustEntry → Js Unit) (g : Js Unit) :
    (Prog.forEach (xs ++ (ys ++ zs)) f >>= fun _ => g) = Prog.forEach xs f >>= fun _ =>
      Prog.forEach ys f >>= fun _ => Prog.forEach zs f >>= fun _ => g := by
  rw [forEach_append, prog_bind_assoc]
  refine congrArg _ (funext fun _ => ?_)
  rw [forEach_append, prog_bind_assoc]

theorem updateFromTable_eq (form : Form) :
    updateFromTable form = Prog.forEach allEntries (updateValue form) >>= fun _ =>
      Prog.sets fun s =>
        { s with storage := (custTable ++ advTable).map fun i => (i.id, s.value i.id) } :=
  (forEach_append₃ custTable advTable gpuTable (updateValue form) _).symm

/-- Where the entries of a table are from `o` on. -/
def PlacedFrom (offset : String → Option Nat) (o : Nat) : List CustEntry → Prop
  | [] => True
  | i :: table => offset i.id = some o ∧ PlacedFrom offset (o + 4) table

theorem ReadFrom.placed {s : Cust} : ∀ {table : List CustEntry} {o : Nat}, ReadFrom s o table →
    PlacedFrom s.offset o table := by
  intro table
  induction table with
  | nil => exact fun _ => trivial
  | cons i table ih => exact fun h => ⟨h.1, ih h.2.2⟩

/-- Saving writes the values as one run of words. -/
theorem saveValues_run (table : List CustEntry) : ∀ (o : Nat) (s : Cust),
    o ≠ 0 → (∀ i ∈ table, i.size = 4) → PlacedFrom s.offset o table →
    o + 4 * table.length ≤ s.buffer.length →
    Prog.forEach table saveValue s = ⟨.ok (), { s with
      buffer := setWords s.buffer o (table.map fun i => ((s.value i.id).getD .nan).toUint32) }, []⟩ := by
  induction table with
  | nil => exact fun o s _ _ _ _ => rfl
  | cons i table ih =>
    intro o s ho hsize hplaced hlen
    rw [List.length_cons] at hlen
    have hi : i.size = 4 := hsize i (by simp)
    set v := ((s.value i.id).getD .nan).toUint32 with hv
    have hhead : saveValue i s = ⟨.ok (), { s with buffer := setLE s.buffer o 4 v.toNat }, []⟩ := by
      unfold saveValue mapperSet
      rw [gets_bind_run, hplaced.1, Option.getD_some, require_bind_run, if_pos ho,
        require_bind_run, if_pos (by rw [hi]; decide), gets_bind_run, gets_bind_run,
        require_bind_run, if_pos (by rw [hi]; omega), hi]
      rfl
    rw [forEach_cons, bind_of_ok (by rw [hhead]), hhead]
    rw [ih (o + 4) { s with buffer := setLE s.buffer o 4 v.toNat } (by omega)
      (fun j hj => hsize j (by simp [hj])) hplaced.2 (by dsimp only; rw [length_setLE]; omega)]
    rfl

/-- The words of a form, in the order of the tables. -/
def formWords (form : Form) : List UInt32 := allEntries.map fun i => (form i.id).toUint32

theorem length_formWords (form : Form) : (formWords form).length = allEntries.length :=
  List.length_map ..

/-- A valid form is saved as one run of words. -/
theorem save_run {form : Form} {s : Cust} {o : Nat} (hvalid : FormValid form) (ho : o ≠ 0)
    (hplaced : PlacedFrom s.offset o allEntries) (hlen : o + 4 * allEntries.length ≤ s.buffer.length) :
    ∃ t, save form s = ⟨.ok (), t, []⟩ ∧ t.buffer = setWords s.buffer o (formWords form) ∧
      t.beginOffset = s.beginOffset ∧ t.download = some t.buffer := by
  obtain ⟨value, ht, hval, -⟩ := updateValues_run allEntries s hvalid
  have hwords : (allEntries.map fun i => ((value i.id).getD .nan).toUint32) = formWords form :=
    List.map_congr_left fun i hi => by rw [hval i hi, Option.getD_some]
  set s₁ : Cust := { s with
    value := value
    storage := (custTable ++ advTable).map fun i => (i.id, value i.id) } with hs₁
  have hupdate : updateFromTable form s = ⟨.ok (), s₁, []⟩ := by
    rw [updateFromTable_eq, bind_of_ok (by rw [ht]), ht]
    rfl
  have hsave : Prog.forEach allEntries saveValue s₁ =
      ⟨.ok (), { s₁ with buffer := setWords s.buffer o (formWords form) }, []⟩ := by
    rw [saveValues_run allEntries o s₁ ho allEntries_size hplaced hlen, ← hwords]
  -- the words themselves are not looked at from here on
  generalize setWords s.buffer o (formWords form) = b at hsave ⊢
  refine ⟨{ s₁ with buffer := b, lastSaved := some s₁.storage, download := some b }, ?_, rfl, rfl, rfl⟩
  have hthree := forEach_append₃ custTable advTable gpuTable saveValue
    (Prog.sets fun s => { s with lastSaved := some s.storage, download := some s.buffer })
  unfold save
  rw [bind_of_ok (by rw [hupdate]), hupdate, ← hthree]
  rw [show custTable ++ (advTable ++ gpuTable) = allEntries from rfl]
  rw [bind_of_ok (by rw [hsave]), hsave]
  rfl

/-- A form with an invalid value is not saved. -/
theorem save_error {form : Form} {s : Cust}
    (h : ∃ i ∈ allEntries, i.validate (some (form i.id)) = false) :
    (∃ i ∈ allEntries, i.validate (some (form i.id)) = false ∧
      (save form s).result = .error (.invalid i.name)) ∧ (save form s).state.buffer = s.buffer := by
  obtain ⟨i, hi, hbad, herr⟩ := updateValues_error allEntries s h
  have hupd : (updateFromTable form s).result = .error (.invalid i.name) ∧
      (updateFromTable form s).state.buffer = s.buffer := by
    rw [updateFromTable_eq, bind_of_error herr]
    exact ⟨rfl, keeps_forEach (updateValue_keeps form) allEntries s⟩
  unfold save
  rw [bind_of_error hupd.1]
  exact ⟨⟨i, hi, hbad, rfl⟩, hupd.2⟩

/-! ## The two layouts -/

def entryIds : List String := allEntries.map (·.id)

/-- The entries of the first two tables are where the struct has the members they are
named after; the GPU entries are the elements of `marikoGpuVoltArray`. -/
theorem fieldOffset_entry : ∀ k < 19, (entryIds[k]?).map fieldOffset = some (8 + 4 * k) := by
  decide +kernel

theorem fieldOffset_voltArray : fieldOffset "marikoGpuVoltArray" = 8 + 4 * 19 := by decide +kernel

theorem gpuEntry_id : ∀ i < 17, entryIds[19 + i]? = some (toString i) := by decide +kernel

theorem fieldOffset_cust : fieldOffset "cust" = 0 ∧ fieldOffset "custRev" = 4 := by decide +kernel

theorem fieldOffset_table : ∀ name ∈ ["eristaCpuDvfsTable", "marikoCpuDvfsTable",
    "marikoCpuDvfsTableSLT", "eristaGpuDvfsTable", "marikoGpuDvfsTable", "marikoGpuDvfsTableSLT",
    "marikoGpuDvfsTableHiOPT"], 8 + 4 * allEntries.length ≤ fieldOffset name := by
  decide +kernel

/-- **The loader reads words at the entries' places as the fields they are meant for.** -/
theorem ofBytes_eq_configure {form : Form} {b b' : List UInt8} {p : Nat}
    (hword : ∀ k id, entryIds[k]? = some id → getU32 b' (p + (8 + 4 * k)) = (form id).toUint32)
    (hout : ∀ a, a < p + 8 ∨ p + 8 + 4 * allEntries.length ≤ a → b'[a]? = b[a]?) :
    CustomizeTable.ofBytes b' p = configure (CustomizeTable.ofBytes b p) form := by
  have hfield : ∀ k id, k < 19 → entryIds[k]? = some id →
      getU32 b' (p + fieldOffset id) = (form id).toUint32 := by
    intro k id hk hid
    have hoff := fieldOffset_entry k hk
    rw [hid, Option.map_some, Option.some_inj] at hoff
    rw [hoff]
    exact hword k id hid
  have htable : ∀ o, 8 + 4 * allEntries.length ≤ o →
      tableOfBytes b' (p + o) = tableOfBytes b (p + o) :=
    fun o ho => tableOfBytes_congr fun i _ => hout i (.inr (by omega))
  have hcust : (Vector.ofFn fun i : Fin 4 => b'.getD (p + fieldOffset "cust" + i) 0) =
      Vector.ofFn fun i : Fin 4 => b.getD (p + fieldOffset "cust" + i) 0 := by
    ext i hi
    rw [Vector.getElem_ofFn, Vector.getElem_ofFn, fieldOffset_cust.1, List.getD_eq_getElem?_getD,
      List.getD_eq_getElem?_getD, hout _ (.inl (by omega))]
  have hrev : getU32 b' (p + fieldOffset "custRev") = getU32 b (p + fieldOffset "custRev") := by
    rw [fieldOffset_cust.2]
    exact getU32_congr fun i _ _ => hout i (.inl (by omega))
  have harray : (Vector.ofFn fun i : Fin 17 =>
      getU32 b' (p + fieldOffset "marikoGpuVoltArray" + 4 * i)) =
      Vector.ofFn fun i : Fin 17 => (form (toString i.val)).toUint32 := by
    refine Vector.ext fun i hi => ?_
    rw [Vector.getElem_ofFn, Vector.getElem_ofFn, fieldOffset_voltArray]
    rw [show p + (8 + 4 * 19) + 4 * i = p + (8 + 4 * (19 + i)) by omega]
    exact hword (19 + i) _ (gpuEntry_id i hi)
  have ht := fun name h => htable _ (fieldOffset_table name h)
  unfold CustomizeTable.ofBytes configure
  rw [CustomizeTable.mk.injEq]
  refine ⟨hcust, hrev, hfield 0 _ (by decide) rfl, hfield 1 _ (by decide) rfl,
    hfield 2 _ (by decide) rfl, hfield 3 _ (by decide) rfl, hfield 4 _ (by decide) rfl,
    hfield 5 _ (by decide) rfl, hfield 6 _ (by decide) rfl, hfield 7 _ (by decide) rfl,
    hfield 8 _ (by decide) rfl, hfield 9 _ (by decide) rfl, hfield 10 _ (by decide) rfl,
    hfield 11 _ (by decide) rfl, hfield 12 _ (by decide) rfl, hfield 13 _ (by decide) rfl,
    hfield 14 _ (by decide) rfl, hfield 15 _ (by decide) rfl, hfield 16 _ (by decide) rfl,
    hfield 17 _ (by decide) rfl, hfield 18 _ (by decide) rfl, harray, ht _ (by simp),
    ht _ (by simp), ht _ (by simp), ht _ (by simp), ht _ (by simp), ht _ (by simp), ht _ (by simp)⟩

/-! ## Top theorem -/

theorem getU32_formWords (form : Form) {b : List UInt8} {p : Nat}
    (hlen : p + 8 + 4 * allEntries.length ≤ b.length) {k : Nat} {id : String}
    (hid : entryIds[k]? = some id) :
    getU32 (setWords b (p + 8) (formWords form)) (p + (8 + 4 * k)) = (form id).toUint32 := by
  have hids : formWords form = entryIds.map fun id => (form id).toUint32 := by
    unfold formWords entryIds
    rw [List.map_map]
    rfl
  have hk : k < entryIds.length := (List.getElem?_eq_some_iff.1 hid).1
  have hn : entryIds.length = allEntries.length := List.length_map ..
  have hwords := length_formWords form
  rw [show p + (8 + 4 * k) = p + 8 + 4 * k by omega]
  rw [getU32_setWords (formWords form) b (p + 8) (by omega) (by omega), hids]
  rw [List.getD_eq_getElem?_getD, List.getElem?_map, hid]
  rfl

/-- What is read back after a save is what was saved. -/
theorem readFrom_formWords {form : Form} {b : List UInt8} {p : Nat} {t : Cust}
    (hvalid : FormValid form) (hlen : p + 8 + 4 * allEntries.length ≤ b.length)
    (hread : ReadFrom t (p + 8) allEntries)
    (hbuf : t.buffer = setWords b (p + 8) (formWords form)) :
    ∀ i ∈ allEntries, t.value i.id = some (form i.id) := by
  intro i hi
  obtain ⟨k, hk, rfl⟩ := List.mem_iff_getElem.1 hi
  have hid : entryIds[k]? = some allEntries[k].id := by
    unfold entryIds
    rw [List.getElem?_map, List.getElem?_eq_getElem hk]
    rfl
  have hget := getU32_formWords form hlen hid
  have hval := (readFrom_get hread k hk).2
  rw [show p + 8 + 4 * k = p + (8 + 4 * k) by omega, ← toNat_getU32, hbuf, hget] at hval
  rw [hval, ← hvalid.exact _ hi]

/-- **Opening a file, saving a form to it and opening it again.**  A valid form ends up
in the fields that the loader reads, and nowhere else; an invalid one changes nothing. -/
theorem load_save (page : Cust) (b : List UInt8) (form : Form) (p : Nat) (hmagic : FirstMagic b p)
    (hrev : getLE b (p + 4) 4 = custRevAdv) (hlen : p + sizeofCustomizeTable ≤ b.length) :
    (load b page).result = .ok () ∧
      (FormValid form → SavedAs b p form (save form (load b page).state)) ∧
      (¬ FormValid form → (∃ e, (save form (load b page).state).result = .error e) ∧
        (save form (load b page).state).state.buffer = b) := by
  have hsize : sizeofCustomizeTable = 12304 := by decide +kernel
  have hn : allEntries.length = 36 := rfl
  have hroom : p + 8 + 4 * allEntries.length ≤ b.length := by omega
  obtain ⟨s, hs, hread, hbuf, hbegin⟩ := load_run hmagic hrev hroom page
  rw [hs]
  dsimp only
  refine ⟨rfl, fun hvalid => ?_, fun hinvalid => ?_⟩
  · obtain ⟨t, ht, hsaved, htbegin, hdown⟩ := save_run hvalid (by omega) hread.placed
      (by rw [hbuf]; exact hroom)
    rw [hbuf] at hsaved
    have hlength : t.buffer.length = b.length := by rw [hsaved, length_setWords]
    have hout : ∀ a, a < p + 8 ∨ p + 8 + 4 * allEntries.length ≤ a → t.buffer[a]? = b[a]? := by
      intro a ha
      rw [hsaved]
      exact getElem?_setWords _ _ _ (by rw [length_formWords]; exact ha)
    have hsame : ∀ q, q + 4 ≤ p + 8 → getLE t.buffer q 4 = getLE b q 4 := fun q hq =>
      getLE_congr 4 q fun i _ h₂ => hout i (.inl (by omega))
    have hmagic' : FirstMagic t.buffer p :=
      ⟨hmagic.aligned, by rw [hsame p (by omega)]; exact hmagic.here, fun q hq hdvd => by
        rw [hsame q (by omega)]
        exact hmagic.first q hq hdvd⟩
    have hrev' : getLE t.buffer (p + 4) 4 = custRevAdv := by
      rw [hsame (p + 4) (by omega)]
      exact hrev
    rw [hlength.symm] at hroom
    rw [ht]
    refine ⟨rfl, ?_, hvalid.exact, hlength, hout, hdown, ?_, fun page' => ?_⟩
    · refine ofBytes_eq_configure (fun k id hid => ?_) hout
      rw [hsaved]
      exact getU32_formWords form (by rw [← hlength]; exact hroom) hid
    · obtain ⟨u, hu, huread, hubuf, -⟩ := parse_run (s := t)
        (by rw [htbegin, hbegin]; exact hrev') (by rw [htbegin, hbegin]; exact hroom)
      rw [hu]
      rw [htbegin, hbegin] at huread
      exact ⟨rfl, readFrom_formWords hvalid (by rw [← hlength]; exact hroom) huread
        (hubuf.trans hsaved)⟩
    · obtain ⟨u, hu, huread, hubuf, -⟩ := load_run hmagic' hrev' hroom page'
      rw [hu]
      exact ⟨rfl, readFrom_formWords hvalid (by rw [← hlength]; exact hroom) huread
        (hubuf.trans hsaved)⟩
  · have hex : ∃ i ∈ allEntries, i.validate (some (form i.id)) = false := by
      unfold FormValid at hinvalid
      push Not at hinvalid
      obtain ⟨i, hi, hbad⟩ := hinvalid
      exact ⟨i, hi, by simpa using hbad⟩
    obtain ⟨⟨i, -, -, herr⟩, hkeep⟩ := save_error (s := s) hex
    exact ⟨⟨.invalid i.name, herr⟩, hkeep.trans hbuf⟩

/-- The form with every entry at its default. -/
def defaultForm : Form := fun id =>
  match allEntries.find? fun i => i.id = id with
  | some i => .ofNat i.defval
  | none => .nan

theorem formValid_defaultForm : FormValid defaultForm := by
  unfold FormValid
  decide +kernel

/-- A file that is a customize table and nothing else. -/
def bareFile : List UInt8 := [67, 85, 83, 84, 11, 0, 0, 0] ++ List.replicate 12296 0

theorem load_save_defaultForm :
    FormValid defaultForm ∧
      SavedAs bareFile 0 defaultForm (save defaultForm (load bareFile ⟨[], 0, 0, fun _ => none,
        fun _ => none, [], none, none⟩).state) := by
  have hlen : bareFile.length = 12304 := by
    unfold bareFile
    rw [List.length_append, List.length_replicate]
    rfl
  have hmagic : FirstMagic bareFile 0 :=
    ⟨Nat.dvd_zero _, rfl, fun q hq => absurd hq (Nat.not_lt_zero q)⟩
  exact ⟨formValid_defaultForm, (load_save _ bareFile defaultForm 0 hmagic rfl
    (by rw [hlen]; decide +kernel)).2.1 formValid_defaultForm⟩

end SwitchOc.Web
