import SwitchOcSuite.SysClk.CustParser

/-!
# Which files `CustParser` accepts

The magic is found in every block but one that reaches the end of the file.  A table
that fits into the file starts in a block before the last one, so all of these are
found; but a table that does not fit is accepted as well, with zeros behind the end.

    readCustTable_ok_iff     what is accepted, and the table that is used
    custParser_right_iff     where it accepts what it should
-/

namespace SwitchOc.SysClk

open ByteStream

variable {tmp_block file : List UInt8} {p : Nat} {t : CustTable}

/-- The magic at an offset that is a multiple of 4. -/
def CustAt (file : List UInt8) (p : Nat) : Prop := 4 ∣ p ∧ matchesAt custMagic file p = true

def FirstCust (file : List UInt8) (p : Nat) : Prop := CustAt file p ∧ ∀ q < p, ¬ CustAt file q

instance (p : Nat) : Decidable (CustAt file p) :=
  inferInstanceAs (Decidable (_ ∧ _))

instance (p : Nat) : Decidable (FirstCust file p) :=
  inferInstanceAs (Decidable (_ ∧ _))

theorem FirstCust.unique {q : Nat} (hp : FirstCust file p) (hq : FirstCust file q) : p = q := by
  rcases Nat.lt_trichotomy p q with h | h | h
  · exact absurd hp.1 (hq.2 p h)
  · exact h
  · exact absurd hq.1 (hp.2 q h)

theorem FirstCust.lt (h : FirstCust file p) : p < file.length :=
  lt_of_matchesAt (by decide) h.1.2

/-! ## The search -/

theorem scanBlock_eq_some_iff {buffer : List UInt8} {i : Nat} :
    scanBlock buffer = some i ↔ ∃ c < 1024, 4 * c = i ∧ matchesAt custMagic buffer (4 * c) = true ∧
      ∀ j < c, matchesAt custMagic buffer (4 * j) = false := by
  unfold scanBlock
  rw [List.find?_map, Option.map_eq_some_iff]
  constructor
  · rintro ⟨c, hc, rfl⟩
    obtain ⟨hmatch, hmem, hfirst⟩ := List.find?_range_eq_some.1 hc
    exact ⟨c, List.mem_range.1 hmem, rfl, hmatch,
      fun j hj => (Bool.not_eq_true' _).mp (hfirst j hj)⟩
  · rintro ⟨c, hc, rfl, hmatch, hfirst⟩
    exact ⟨c, List.find?_range_eq_some.2 ⟨hmatch, List.mem_range.2 hc,
      fun j hj => (Bool.not_eq_true' _).mpr (hfirst j hj)⟩, rfl⟩

theorem scansFor_scanBlock : ScansFor BLOCK_SIZE file (CustAt file) scanBlock := by
  intro buffer k hblock i
  have hB : BLOCK_SIZE = 4096 := rfl
  rw [hB] at hblock ⊢
  -- inside the block the buffer is the file
  have hmatch : ∀ c < 1024, matchesAt custMagic buffer (4 * c) =
      matchesAt custMagic file (k * 4096 + 4 * c) := by
    intro c hc
    refine matchesAt_congr fun j hj => ?_
    have hj' : j < 4 := hj
    rw [hblock (4 * c + j) (by omega), Nat.add_assoc]
  rw [scanBlock_eq_some_iff]
  constructor
  · rintro ⟨c, hc, rfl, hfound, hfirst⟩
    refine ⟨by omega, ⟨by omega, by rwa [← hmatch c hc]⟩, fun j hj hat => ?_⟩
    obtain ⟨d, hd⟩ : 4 ∣ j := by
      have := hat.1
      omega
    subst hd
    have hmiss := hfirst d (by omega)
    rw [hmatch d (by omega), hat.2] at hmiss
    cases hmiss
  · rintro ⟨hi, hat, hfirst⟩
    obtain ⟨c, rfl⟩ : 4 ∣ i := by
      have := hat.1
      omega
    refine ⟨c, by omega, rfl, by rw [hmatch c (by omega)]; exact hat.2, fun j hj => ?_⟩
    rw [hmatch j (by omega)]
    have hmiss := hfirst (4 * j) (by omega)
    exact Bool.eq_false_iff.2 fun h => hmiss ⟨by omega, h⟩

theorem holdsBlock_first (hsize : BLOCK_SIZE ≤ file.length) :
    HoldsBlock BLOCK_SIZE file (overlay tmp_block ((File.mk file 0).fread BLOCK_SIZE).1) 0 := by
  have hblock : HoldsBlock BLOCK_SIZE file
      (overlay tmp_block ((File.mk file (0 * BLOCK_SIZE)).fread BLOCK_SIZE).1) 0 :=
    holdsBlock_fread (by omega)
  rwa [Nat.zero_mul] at hblock

/-- The loop finds the first magic, if its block ends before the file does. -/
theorem findCust_iff (hsize : BLOCK_SIZE ≤ file.length) :
    findCust ((File.mk file 0).fread BLOCK_SIZE).2
        (overlay tmp_block ((File.mk file 0).fread BLOCK_SIZE).1) = some p ↔
      FirstCust file p ∧ blockEnd BLOCK_SIZE p < file.length := by
  have hscan := scanBlocks_iff blockSize_pos (scansFor_scanBlock : ScansFor _ file _ _) _ 0
    (overlay tmp_block ((File.mk file 0).fread BLOCK_SIZE).1) rfl (by omega)
    (holdsBlock_first hsize) (fun q hq => by omega) p
  rw [fread_file (Nat.zero_le _), Nat.min_eq_left (by omega)]
  rw [Nat.zero_add, Nat.one_mul] at hscan
  rw [Nat.zero_add]
  unfold findCust FirstCust
  rw [hscan, and_assoc]

/-! ## The table -/

/-- The table at `p`, with zeros where the file has ended. -/
def tableAt (file : List UInt8) (p : Nat) : CustTable :=
  CustTable.ofRead (slice file p sizeofCustTable) (le_of_eq_of_le length_slice (Nat.min_le_left _ _))

theorem matchesAt_first (hsize : BLOCK_SIZE ≤ file.length) :
    matchesAt KIP_MAGIC (overlay tmp_block ((File.mk file 0).fread BLOCK_SIZE).1) 0 =
      matchesAt KIP_MAGIC file 0 := by
  have hblock : HoldsBlock BLOCK_SIZE file
    (overlay tmp_block ((File.mk file 0).fread BLOCK_SIZE).1) 0 := holdsBlock_first hsize
  refine matchesAt_congr fun i hi => ?_
  have hi' : i < 10 := hi
  have hB : BLOCK_SIZE = 4096 := rfl
  rw [hblock (0 + i) (by omega), Nat.zero_mul, Nat.zero_add, Nat.zero_add]

/-- A file that starts with `KIP1Loader` does not start with the magic. -/
theorem FirstCust.pos (h : FirstCust file p) (hkip : matchesAt KIP_MAGIC file 0 = true) : p ≠ 0 := by
  rintro rfl
  have hcust := congrArg (·[0]?) (eq_of_beq h.1.2)
  have hfirst := congrArg (·[0]?) (eq_of_beq hkip)
  rw [getElem?_slice, if_pos (by decide)] at hcust hfirst
  rw [hcust] at hfirst
  exact absurd hfirst (by decide)

/-- **What is accepted.** -/
theorem readCustTable_ok_iff (hsize : BLOCK_SIZE ≤ file.length) :
    readCustTable tmp_block file = .ok t ↔ matchesAt KIP_MAGIC file 0 = true ∧
      ∃ p, FirstCust file p ∧ blockEnd BLOCK_SIZE p < file.length ∧ t = tableAt file p ∧
        (tableAt file p).custRev = CUST_REV := by
  have hfind : ∀ p, findCust ((File.mk file 0).fread BLOCK_SIZE).2
      (overlay tmp_block ((File.mk file 0).fread BLOCK_SIZE).1) = some p ↔
      FirstCust file p ∧ blockEnd BLOCK_SIZE p < file.length := fun p => findCust_iff hsize
  unfold readCustTable
  dsimp only
  rw [matchesAt_first hsize]
  by_cases hkip : matchesAt KIP_MAGIC file 0 = true
  · rw [if_neg (by simp [hkip])]
    cases hfound : findCust ((File.mk file 0).fread BLOCK_SIZE).2
        (overlay tmp_block ((File.mk file 0).fread BLOCK_SIZE).1) with
    | none =>
      refine ⟨fun h => absurd h (by simp), fun ⟨_, p, hp, hend, _⟩ => ?_⟩
      have hsome := (hfind p).2 ⟨hp, hend⟩
      rw [hfound] at hsome
      cases hsome
    | some p =>
      obtain ⟨hp, hend⟩ := (hfind p).1 hfound
      obtain ⟨q, rfl⟩ := Nat.exists_eq_succ_of_ne_zero (hp.pos hkip)
      have hlen : (slice file (q + 1) sizeofCustTable).length ≠ 0 := by
        have hlt := hp.lt
        have hS : sizeofCustTable = 12304 := rfl
        rw [length_slice]
        omega
      show (if (slice file (q + 1) sizeofCustTable).length = 0 then Except.error ParseError.openReadFailed
        else if (tableAt file (q + 1)).custRev ≠ CUST_REV then Except.error ParseError.wrongCustRev
        else Except.ok (tableAt file (q + 1))) = _ ↔ _
      rw [if_neg hlen]
      by_cases hrev : (tableAt file (q + 1)).custRev = CUST_REV
      · rw [if_neg (by simpa using hrev), Except.ok.injEq]
        constructor
        · rintro rfl
          exact ⟨hkip, q + 1, hp, hend, rfl, hrev⟩
        · rintro ⟨-, p, hp', -, rfl, -⟩
          exact congrArg (tableAt file) (hp.unique hp')
      · rw [if_pos hrev]
        refine ⟨fun h => absurd h (by simp), fun ⟨_, p, hp', _, _, hrev'⟩ => ?_⟩
        rw [hp'.unique hp] at hrev'
        exact absurd hrev' hrev
  · rw [if_pos (by simpa using hkip)]
    exact ⟨fun h => absurd h (by simp), fun h => absurd h.1 hkip⟩

theorem tableAt_bytes (h : p + sizeofCustTable ≤ file.length) :
    (tableAt file p).bytes = slice file p sizeofCustTable := by
  refine overlay_of_length ?_
  rw [List.length_replicate, length_slice]
  omega

theorem getLE_slice {m : Nat} : ∀ (n o : Nat), o + n ≤ m →
    Bytes.getLE (slice file p m) o n = Bytes.getLE file (p + o) n := by
  intro n
  induction n with
  | zero => exact fun o h => rfl
  | succ n ih =>
    intro o h
    unfold Bytes.getLE
    rw [ih (o + 1) (by omega), List.getD_eq_getElem?_getD, List.getD_eq_getElem?_getD,
      getElem?_slice, if_pos (by omega), Nat.add_assoc]

theorem tableAt_custRev (h : p + sizeofCustTable ≤ file.length) :
    (tableAt file p).custRev = Bytes.getU32 file (p + 4) := by
  unfold CustTable.custRev Bytes.getU32
  rw [tableAt_bytes h, getLE_slice 4 4 (by decide)]

/-! ## What should be accepted -/

theorem custParser_of_ok (h : readCustTable tmp_block file = .ok t) (s : Sysmodule) :
    custParser tmp_block (some file) s = (.ok (), applyCustTable t s) := by
  unfold custParser
  dsimp only
  rw [h]

theorem custParser_of_error {e : ParseError} (h : readCustTable tmp_block file = .error e)
    (s : Sysmodule) : custParser tmp_block (some file) s = (.error e, s) := by
  unfold custParser
  dsimp only
  rw [h]

theorem custParser_ok_iff {s : Sysmodule} :
    (custParser tmp_block (some file) s).1 = .ok () ↔ ∃ t, readCustTable tmp_block file = .ok t := by
  cases h : readCustTable tmp_block file with
  | ok t =>
    rw [custParser_of_ok h]
    exact ⟨fun _ => ⟨t, rfl⟩, fun _ => rfl⟩
  | error e =>
    rw [custParser_of_error h]
    simp

/-- Exactly the files with a whole table of the right revision at the first magic, which
is then used; and otherwise nothing is changed. -/
structure CustParserRight (tmp_block file : List UInt8) (s : Sysmodule) : Prop where
  accepts_iff : (custParser tmp_block (some file) s).1 = .ok () ↔
    matchesAt KIP_MAGIC file 0 = true ∧
      ∃ p, FirstCust file p ∧ p + sizeofCustTable ≤ file.length ∧
        Bytes.getU32 file (p + 4) = CUST_REV
  table_used : (custParser tmp_block (some file) s).1 = .ok () →
    ∃ (p : Nat) (t : CustTable), FirstCust file p ∧ t.bytes = slice file p sizeofCustTable ∧
      (custParser tmp_block (some file) s).2 = applyCustTable t s
  error_keeps : ∀ e, (custParser tmp_block (some file) s).1 = .error e →
    (custParser tmp_block (some file) s).2 = s

/-- The file ends inside the table, but after the block in which the table starts, and
the revision is right. -/
def TruncatedTable (file : List UInt8) : Prop :=
  matchesAt KIP_MAGIC file 0 = true ∧
    ∃ p, FirstCust file p ∧ blockEnd BLOCK_SIZE p < file.length ∧
      file.length < p + sizeofCustTable ∧ (tableAt file p).custRev = CUST_REV

/-- A table that fits starts in a block that is scanned. -/
theorem blockEnd_lt (h : p + sizeofCustTable ≤ file.length) :
    blockEnd BLOCK_SIZE p < file.length := by
  have hB : BLOCK_SIZE = 4096 := rfl
  have hS : sizeofCustTable = 12304 := rfl
  unfold blockEnd
  rw [hB]
  omega

/-- **`CustParser` does what it should unless the file ends inside a table it finds.** -/
theorem custParser_right_iff (tmp_block file : List UInt8) (s : Sysmodule)
    (hsize : BLOCK_SIZE ≤ file.length) :
    CustParserRight tmp_block file s ↔ ¬ TruncatedTable file := by
  constructor
  · rintro hright ⟨hkip, p, hp, hend, hshort, hrev⟩
    have hread : readCustTable tmp_block file = .ok (tableAt file p) :=
      (readCustTable_ok_iff hsize).2 ⟨hkip, p, hp, hend, rfl, hrev⟩
    obtain ⟨-, q, hq, hfits, -⟩ := hright.accepts_iff.1 (custParser_ok_iff.2 ⟨_, hread⟩)
    rw [hq.unique hp] at hfits
    omega
  · intro hwhole
    -- every table that is accepted fits
    have hread : ∀ t, readCustTable tmp_block file = .ok t →
        matchesAt KIP_MAGIC file 0 = true ∧ ∃ p, FirstCust file p ∧
          p + sizeofCustTable ≤ file.length ∧ t = tableAt file p ∧
            (tableAt file p).custRev = CUST_REV := by
      intro t ht
      obtain ⟨hkip, p, hp, hend, rfl, hrev⟩ := (readCustTable_ok_iff hsize).1 ht
      have hfits : p + sizeofCustTable ≤ file.length := by
        by_contra hshort
        exact hwhole ⟨hkip, p, hp, hend, Nat.lt_of_not_le hshort, hrev⟩
      exact ⟨hkip, p, hp, hfits, rfl, hrev⟩
    refine ⟨?_, fun hok => ?_, fun e he => ?_⟩
    · rw [custParser_ok_iff]
      constructor
      · rintro ⟨t, ht⟩
        obtain ⟨hkip, p, hp, hfits, -, hrev⟩ := hread t ht
        exact ⟨hkip, p, hp, hfits, by rwa [← tableAt_custRev hfits]⟩
      · rintro ⟨hkip, p, hp, hfits, hrev⟩
        exact ⟨tableAt file p, (readCustTable_ok_iff hsize).2
          ⟨hkip, p, hp, blockEnd_lt hfits, rfl, by rwa [tableAt_custRev hfits]⟩⟩
    · obtain ⟨t, ht⟩ := custParser_ok_iff.1 hok
      obtain ⟨-, p, hp, hfits, rfl, -⟩ := hread t ht
      refine ⟨p, tableAt file p, hp, tableAt_bytes hfits, ?_⟩
      rw [custParser_of_ok ht]
    · cases h : readCustTable tmp_block file with
      | ok t =>
        rw [custParser_of_ok h] at he
        cases he
      | error e' => rw [custParser_of_error h]

/-! ## A table cut off -/

/-- One byte more than a block, with the magic and the revision at 12. -/
def truncatedFile : List UInt8 :=
  KIP_MAGIC ++ [0, 0] ++ custMagic ++ [10, 0, 0, 0] ++ List.replicate 4077 0

theorem length_truncatedFile : truncatedFile.length = 4097 := by
  unfold truncatedFile
  rw [List.length_append, List.length_replicate]
  rfl

theorem truncatedTable_truncatedFile : TruncatedTable truncatedFile := by
  have hS : sizeofCustTable = 12304 := rfl
  refine ⟨by decide +kernel, 12, by decide +kernel, ?_, ?_, by decide +kernel⟩
  · rw [length_truncatedFile]
    decide
  · rw [length_truncatedFile, hS]
    decide

/-- The sysmodule as it starts, without its frequency ranges. -/
def stockSysmodule : Sysmodule where
  clocks :=
    { boostCpuFreq := 1785000000
      maxMemFreq := 0
      freqTable := tablesOfLists [] [] [665600000, 800000000, 1065600000, 1331200000, 1600000000]
      freqRange := fun _ => { first := 0, last := 0, min := 0, max := fun _ => 0 }
      allowUnsafe := false
      isMariko := true }
  bus := ⟨true, fun _ _ => 0⟩

theorem custParser_right_iff_truncatedFile :
    CustParserRight [] truncatedFile stockSysmodule ↔ ¬ TruncatedTable truncatedFile :=
  custParser_right_iff [] truncatedFile stockSysmodule (by
    rw [length_truncatedFile]
    decide)

/-- The file ends behind 4085 bytes of its table, which is accepted. -/
theorem custParser_accepts_truncated :
    ¬ ∀ (tmp_block file : List UInt8) (s : Sysmodule), 0x1000 ≤ file.length →
      file.length ≤ 512 * 1024 → CustParserRight tmp_block file s := by
  intro h
  have hright := h [] truncatedFile stockSysmodule (by rw [length_truncatedFile]; decide)
    (by rw [length_truncatedFile]; decide)
  obtain ⟨hkip, p, hp, hend, hshort, hrev⟩ := truncatedTable_truncatedFile
  have hread : readCustTable [] truncatedFile = .ok (tableAt truncatedFile p) :=
    (readCustTable_ok_iff (by rw [length_truncatedFile]; decide)).2 ⟨hkip, p, hp, hend, rfl, hrev⟩
  obtain ⟨-, q, hq, hfits, -⟩ := hright.accepts_iff.1 (custParser_ok_iff.2 ⟨_, hread⟩)
  rw [hq.unique hp] at hfits
  omega

end SwitchOc.SysClk
