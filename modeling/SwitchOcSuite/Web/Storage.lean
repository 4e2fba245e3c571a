import SwitchOcSuite.Web.RoundTrip

/-!
# The last saved settings (`CustStorage`)

`updateFromTable` stores the values of two of the three tables, and `setTable` is to
bring them back.  It first assigns every stored key to an entry of `CustTable`, of
which the keys of `AdvTable` have none: the assignment is to a property of
`undefined`, and throws.

    assignKeys_result    assigning keys to a table succeeds iff they are its ids
    restored_never       so that no saved settings are ever restored
-/

namespace SwitchOc.Web

open Traced

/-! ## Dictionaries -/

/-- An object with its keys in the order they were set first. -/
abbrev Dict := List (String × Option JsNumber)

def Dict.keys (d : Dict) : List String := d.map Prod.fst

/-- `d[k]`, `undefined` where there is no such key. -/
def Dict.get (d : Dict) (k : String) : Option JsNumber := (d.lookup k).join

def Dict.set (k : String) (v : Option JsNumber) : Dict → Dict
  | [] => [(k, v)]
  | (k', v') :: d => if k' = k then (k, v) :: d else (k', v') :: Dict.set k v d

theorem mem_keys_set (k : String) (v : Option JsNumber) (d : Dict) {k' : String} :
    k' ∈ (d.set k v).keys ↔ k' = k ∨ k' ∈ d.keys := by
  induction d with
  | nil => simp [Dict.set, Dict.keys]
  | cons e d ih =>
    obtain ⟨k₀, v₀⟩ := e
    unfold Dict.set
    by_cases h : k₀ = k
    · subst h
      simp [Dict.keys]
    · rw [if_neg h]
      simp only [Dict.keys, List.map_cons, List.mem_cons] at ih ⊢
      rw [ih]
      tauto

/-! ## The page -/

/-- What the restore throws. -/
inductive RestoreError where
  | invalid (name : String)
  /-- a property of `undefined` is set -/
  | typeError
  deriving DecidableEq

/-- The entries, and the number in each input element. -/
structure Page where
  cust : Cust
  form : Form

abbrev Restore (α : Type) := Prog RestoreError Page Empty α

/-- `i.value = v` for the entry with an id. -/
def setValue (id : String) (v : Option JsNumber) : Restore Unit :=
  Prog.sets fun s =>
    { s with cust := { s.cust with value := Function.update s.cust.value id v } }

/-- `table.filter(i => i.id == k)[0].value = this.storage[k]`. -/
def assignKey (table : List CustEntry) (k : String) : Restore Unit :=
  match table.filter fun i => i.id = k with
  | [] => Prog.fail .typeError
  | i :: _ => do
    let v ← Prog.gets fun s => Dict.get s.cust.storage k
    setValue i.id v

/-- `i.setElementValue()`, of a value that is valid. -/
def showValue (i : CustEntry) : Restore Unit := do
  let value ← Prog.gets (·.cust.value i.id)
  Prog.require (i.validate value = true) (.invalid i.name)
  Prog.sets fun s => { s with form := Function.update s.form i.id (value.getD .nan) }

def setTable : Restore Unit := do
  let keys ← Prog.gets fun s => Dict.keys s.cust.storage
  Prog.forEach keys (assignKey custTable)
  Prog.forEach keys (assignKey advTable)
  -- Set default for missing values
  Prog.forEach (custTable.filter fun i => i.id ∉ keys) fun i =>
    setValue i.id (some (.ofNat i.defval))
  Prog.forEach (advTable.filter fun i => i.id ∉ keys) fun i =>
    setValue i.id (some (.ofNat i.defval))
  Prog.forEach custTable showValue
  Prog.forEach advTable showValue
  Prog.forEach gpuTable showValue

/-- `this.storage[k] = dict[k]` for the keys that are ids of a table. -/
def takeKeys (table : List CustEntry) (dict storage : Dict) : Dict :=
  ((dict.keys).filter fun k => k ∈ table.map (·.id)).foldl (fun d k => d.set k (dict.get k)) storage

/-- `load`: whether there is a dictionary. -/
def loadStorage : Restore Bool := do
  let saved ← Prog.gets (·.cust.lastSaved)
  match saved with
  | none => pure false
  | some dict => do
    Prog.sets fun s => { s with cust := { s.cust with
      storage := takeKeys advTable dict (takeKeys custTable dict s.cust.storage) } }
    pure true

/-- The listener of `load_saved`. -/
def loadSaved : Restore Unit := do
  if ← loadStorage then setTable

/-- `save`, without the file that `Cust.save` offers. -/
def saveStorage : Js Unit := Prog.sets fun s => { s with lastSaved := some s.storage }

/-- What `Cust.save` does of it. -/
def saveSettings (form : Form) : Js Unit := do
  updateFromTable form
  saveStorage

/-! ## Restoring throws -/

theorem assignKey_result (table : List CustEntry) (k : String) (s : Page) :
    (assignKey table k s).result =
      if k ∈ table.map (·.id) then .ok () else .error .typeError := by
  unfold assignKey
  have hmem : k ∈ table.map (·.id) ↔ (table.filter fun i => i.id = k) ≠ [] := by
    simp [List.filter_eq_nil_iff]
  cases h : table.filter fun i => i.id = k with
  | nil =>
    rw [if_neg (by rw [hmem, h]; simp)]
    rfl
  | cons i rest =>
    rw [if_pos (by rw [hmem, h]; simp)]
    rfl

/-- **The keys are assigned to a table iff they all are ids of it.** -/
theorem assignKeys_result (table : List CustEntry) (keys : List String) (s : Page) :
    (Prog.forEach keys (assignKey table) s).result =
      if ∀ k ∈ keys, k ∈ table.map (·.id) then .ok () else .error .typeError := by
  induction keys generalizing s with
  | nil => rfl
  | cons k keys ih =>
    have hk := assignKey_result table k s
    by_cases hmem : k ∈ table.map (·.id)
    · rw [if_pos hmem] at hk
      rw [forEach_cons, bind_of_ok hk, after_result, ih]
      simp only [List.forall_mem_cons, hmem, true_and]
    · rw [if_neg hmem] at hk
      rw [forEach_cons, bind_of_error hk]
      simp only [List.forall_mem_cons, hmem, false_and, if_false]

theorem mem_takeKeys (table : List CustEntry) (dict storage : Dict) {k : String} :
    k ∈ (takeKeys table dict storage).keys ↔
      k ∈ storage.keys ∨ (k ∈ dict.keys ∧ k ∈ table.map (·.id)) := by
  have key : ∀ (ks : List String) (d : Dict),
      k ∈ (ks.foldl (fun d k => d.set k (dict.get k)) d).keys ↔ k ∈ d.keys ∨ k ∈ ks := by
    intro ks
    induction ks with
    | nil => simp
    | cons k₀ ks ih =>
      intro d
      rw [List.foldl_cons, ih, mem_keys_set, List.mem_cons]
      tauto
  unfold takeKeys
  rw [key]
  simp

/-- A saved key of the second table makes the restore throw. -/
theorem loadSaved_throws {page : Page} {dict : Dict} (hsaved : page.cust.lastSaved = some dict)
    {k : String} (hk : k ∈ dict.keys) (hadv : k ∈ advTable.map (·.id))
    (hcust : k ∉ custTable.map (·.id)) : (loadSaved page).result = .error .typeError := by
  set storage := takeKeys advTable dict (takeKeys custTable dict page.cust.storage) with hstorage
  have hload : loadStorage page =
      ⟨.ok true, { page with cust := { page.cust with storage := storage } }, []⟩ := by
    unfold loadStorage
    rw [gets_bind_run]
    split
    case h_1 h =>
      rw [hsaved] at h
      cases h
    case h_2 d h =>
      rw [hsaved] at h
      cases h
      rfl
  have hmem : k ∈ storage.keys := (mem_takeKeys ..).2 (.inr ⟨hk, hadv⟩)
  have hassign := assignKeys_result custTable storage.keys
    { page with cust := { page.cust with storage := storage } }
  rw [if_neg fun h => hcust (h k hmem)] at hassign
  unfold loadSaved
  rw [bind_of_ok (by rw [hload]), hload, after_result, if_pos rfl]
  unfold setTable
  rw [gets_bind_run, bind_of_error hassign]

/-! ## Top theorem -/

/-- The entries' values and the inputs have been edited since, and nothing else. -/
def EditedFrom (s : Cust) (page : Page) : Prop := ∃ value, page.cust = { s with value }

/-- No exception, and every entry has the value of the form again. -/
structure Restored (form : Form) (o : Outcome RestoreError Page Empty Unit) : Prop where
  result : o.result = .ok ()
  value : ∀ i ∈ allEntries, o.state.cust.value i.id = some (form i.id)

/-- Valid values are saved, those of the third table apart. -/
theorem saveSettings_run {form : Form} (hvalid : FormValid form) (s : Cust) :
    (saveSettings form s).result = .ok () ∧
      (saveSettings form s).state.lastSaved =
        some ((custTable ++ advTable).map fun i => (i.id, some (form i.id))) := by
  obtain ⟨value, ht, hval, -⟩ := updateValues_run allEntries s hvalid
  have hupdate : updateFromTable form s = ⟨.ok (), { s with
      value := value
      storage := (custTable ++ advTable).map fun i => (i.id, value i.id) }, []⟩ := by
    rw [updateFromTable_eq, bind_of_ok (by rw [ht]), ht]
    rfl
  unfold saveSettings
  rw [bind_of_ok (by rw [hupdate]), hupdate]
  refine ⟨rfl, congrArg some (List.map_congr_left fun i hi => ?_)⟩
  rw [hval i (by unfold allEntries; rw [← List.append_assoc]; exact List.mem_append_left _ hi)]

/-- The first key of the second table is one that the first has not. -/
theorem saved_throws {form : Form} (hvalid : FormValid form) {cust : Cust} {page : Page}
    (hedit : EditedFrom (saveSettings form cust).state page) :
    (loadSaved page).result = .error .typeError := by
  obtain ⟨-, hsaved⟩ := saveSettings_run hvalid cust
  obtain ⟨value, hpage⟩ := hedit
  have hkey : "marikoEmcDvbShift" ∈
      Dict.keys ((custTable ++ advTable).map fun i => (i.id, some (form i.id))) := by
    rw [Dict.keys, List.map_map]
    show "marikoEmcDvbShift" ∈ (custTable ++ advTable).map (·.id)
    decide
  have hlast := (congrArg Cust.lastSaved hpage).trans hsaved
  exact loadSaved_throws hlast hkey (by decide) (by decide)

/-- **No valid settings are restored**, whatever is edited after they were saved. -/
theorem restored_never (cust : Cust) (form : Form) (hvalid : FormValid form) (page : Page)
    (hedit : EditedFrom (saveSettings form cust).state page) : ¬ Restored form (loadSaved page) := by
  intro h
  cases h.result.symm.trans (saved_throws hvalid hedit)

/-- The default settings on a page without a file, saved and not edited. -/
def defaultPage : Page :=
  ⟨(saveSettings defaultForm ⟨[], 0, 0, fun _ => none, fun _ => none, [], none, none⟩).state,
    defaultForm⟩

theorem restored_never_defaultForm : ¬ Restored defaultForm (loadSaved defaultPage) :=
  restored_never _ defaultForm formValid_defaultForm defaultPage ⟨_, rfl⟩

theorem defaultForm_not_restored :
    ¬ ∀ (cust : Cust) (form : Form), FormValid form → ∀ page : Page,
      EditedFrom (saveSettings form cust).state page → Restored form (loadSaved page) := by
  intro h
  have hrestored := h _ defaultForm formValid_defaultForm defaultPage ⟨_, rfl⟩
  cases hrestored.result.symm.trans (saved_throws formValid_defaultForm ⟨_, rfl⟩)

end SwitchOc.Web
