import Mathlib.Algebra.Group.Nat.Defs
import Mathlib.Logic.Basic
import Mathlib.Tactic.Common

/-!
# C numerals

`strtoul` on a 64-bit `unsigned long`, and the conversions `%d`, `%ld` and
`%016lX` of `printf`.  A string is the list of its characters without the final NUL.

    strtoul_decimal     "%d" of a 32-bit word, read back and cut to 32 bits
    strtoul_long        "%ld" of a 64-bit word, read back with the base read off
    strtoul_hex16       "%016lX" of a 64-bit word, read back

`%d` prints a word from 2³¹ on as a negative number, `%ld` one from 2⁶³ on; `strtoul`
accepts the sign and negates in 64 bits, so the bits come back all the same.

`strncmp` with the length of a code, and the character behind it, split a string into
the code, that character and the rest (`isPrefixOf_getElem?_iff`).
-/

namespace CText

/-! ## Reading -/

def isSpace (c : Char) : Bool := c = ' ' || (9 ≤ c.toNat && c.toNat ≤ 13)

/-- The value of a digit in the bases up to 36. -/
def digitValue (c : Char) : Option Nat :=
  if '0' ≤ c ∧ c ≤ '9' then some (c.toNat - 48)
  else if 'A' ≤ c ∧ c ≤ 'Z' then some (c.toNat - 55)
  else if 'a' ≤ c ∧ c ≤ 'z' then some (c.toNat - 87)
  else none

/-- The digits at the front, behind those that gave `acc`. -/
def readDigits (base : Nat) : List Char → Nat → Nat
  | [], acc => acc
  | c :: cs, acc =>
    match digitValue c with
    | some d => if d < base then readDigits base cs (acc * base + d) else acc
    | none => acc

/-- An optional sign: is it a minus, and what follows. -/
def readSign : List Char → Bool × List Char
  | '-' :: s => (true, s)
  | '+' :: s => (false, s)
  | s => (false, s)

def hasHexPrefix : List Char → Bool
  | '0' :: c :: _ => c = 'x' || c = 'X'
  | _ => false

/-- Base `0` is read off the prefix; base `16` may have one. -/
def readBase (base : Nat) (s : List Char) : Nat × List Char :=
  if (base = 0 ∨ base = 16) ∧ hasHexPrefix s = true then (16, s.drop 2)
  else if base = 0 then (if s.head? = some '0' then 8 else 10, s)
  else (base, s)

/-- `strtoul(s, NULL, base)`.  A number that does not fit gives `ULONG_MAX`. -/
def strtoul (s : List Char) (base : Nat) : UInt64 :=
  let signed := readSign (s.dropWhile isSpace)
  let based := readBase base signed.2
  let n := readDigits based.1 based.2 0
  if 2 ^ 64 ≤ n then 0xFFFFFFFFFFFFFFFF
  else if signed.1 then 0 - UInt64.ofNat n
  else UInt64.ofNat n

/-! ## Printing -/

/-- `"%d"` of a 32-bit word. -/
def printInt (x : UInt32) : List Char :=
  if x.toNat < 2 ^ 31 then Nat.toDigits 10 x.toNat
  else '-' :: Nat.toDigits 10 (2 ^ 32 - x.toNat)

/-- `"%ld"` of a 64-bit word. -/
def printLong (x : UInt64) : List Char :=
  if x.toNat < 2 ^ 63 then Nat.toDigits 10 x.toNat
  else '-' :: Nat.toDigits 10 (2 ^ 64 - x.toNat)

/-- `"%016lX"` of a 64-bit word. -/
def printHex16 (x : UInt64) : List Char :=
  let digits := (Nat.toDigits 16 x.toNat).map Char.toUpper
  List.replicate (16 - digits.length) '0' ++ digits

/-! ## Reading back what was printed -/

/-- Only digits of the base. -/
def IsNumeral (base : Nat) (s : List Char) : Prop := ∀ c ∈ s, ∃ d < base, digitValue c = some d

theorem readDigits_append {base : Nat} {s : List Char} (hs : IsNumeral base s) (t : List Char)
    (acc : Nat) : readDigits base (s ++ t) acc = readDigits base t (readDigits base s acc) := by
  induction s generalizing acc with
  | nil => rfl
  | cons c s ih =>
    obtain ⟨d, hd, hc⟩ := hs c List.mem_cons_self
    have htail : IsNumeral base s := fun x hx => hs x (List.mem_cons_of_mem _ hx)
    simp only [List.cons_append, readDigits, hc, if_pos hd]
    exact ih htail _

theorem isNumeral_append {base : Nat} {s t : List Char} (hs : IsNumeral base s)
    (ht : IsNumeral base t) : IsNumeral base (s ++ t) := by
  intro c hc
  rcases List.mem_append.1 hc with h | h
  · exact hs c h
  · exact ht c h

/-- `f` spells the digits of the base. -/
def Spells (base : Nat) (f : Char → Char) : Prop :=
  ∀ d < base, digitValue (f (Nat.digitChar d)) = some d

theorem isNumeral_toDigits {base : Nat} (hb : 1 < base) {f : Char → Char} (hf : Spells base f)
    (n : Nat) : IsNumeral base ((Nat.toDigits base n).map f) := by
  induction n using Nat.strongRecOn with
  | ind n ih =>
    rw [Nat.toDigits_eq_if hb]
    split
    · rename_i hlt
      simpa [IsNumeral] using ⟨n, hlt, hf n hlt⟩
    · rename_i hge
      have hdiv : n / base < n := Nat.div_lt_self (by omega) hb
      have hmod : n % base < base := Nat.mod_lt _ (by omega)
      rw [List.map_append]
      refine isNumeral_append (ih _ hdiv) ?_
      simpa [IsNumeral] using ⟨n % base, hmod, hf _ hmod⟩

theorem readDigits_toDigits {base : Nat} (hb : 1 < base) {f : Char → Char} (hf : Spells base f)
    (n : Nat) : readDigits base ((Nat.toDigits base n).map f) 0 = n := by
  induction n using Nat.strongRecOn with
  | ind n ih =>
    rw [Nat.toDigits_eq_if hb]
    split
    · rename_i hlt
      simp [readDigits, hf n hlt, hlt]
    · rename_i hge
      have hdiv : n / base < n := Nat.div_lt_self (by omega) hb
      have hmod : n % base < base := Nat.mod_lt _ (by omega)
      rw [List.map_append, readDigits_append (isNumeral_toDigits hb hf _), ih _ hdiv]
      simp only [List.map_cons, List.map_nil, readDigits, hf _ hmod, if_pos hmod]
      rw [Nat.mul_comm]
      exact Nat.div_add_mod n base

theorem spells_decimal : Spells 10 id := by
  unfold Spells
  decide

theorem spells_hex : Spells 16 Char.toUpper := by
  unfold Spells
  decide

/-- A digit is neither a blank nor a sign. -/
theorem of_digitValue_lt {c : Char} {d : Nat} (h : digitValue c = some d) :
    isSpace c = false ∧ c ≠ '-' ∧ c ≠ '+' := by
  refine ⟨?_, ?_, ?_⟩
  · cases hs : isSpace c with
    | false => rfl
    | true =>
      exfalso
      have hle : c.toNat ≤ 32 := by
        simp only [isSpace, Bool.or_eq_true, Bool.and_eq_true, decide_eq_true_eq] at hs
        rcases hs with rfl | hs
        · decide
        · omega
      have hbelow : ∀ x : Char, 33 ≤ x.toNat → ¬ x ≤ c := by
        intro x hx hxc
        have : x.toNat ≤ c.toNat := hxc
        omega
      simp only [digitValue, hbelow '0' (by decide), hbelow 'A' (by decide),
        hbelow 'a' (by decide), false_and, if_false] at h
      cases h
  · rintro rfl
    rw [show digitValue '-' = none by decide] at h
    cases h
  · rintro rfl
    rw [show digitValue '+' = none by decide] at h
    cases h

theorem skip_numeral {base : Nat} {s : List Char} (hs : IsNumeral base s) :
    s.dropWhile isSpace = s ∧ readSign s = (false, s) := by
  cases s with
  | nil => exact ⟨rfl, rfl⟩
  | cons c s =>
    obtain ⟨d, -, hc⟩ := hs c List.mem_cons_self
    obtain ⟨hspace, hminus, hplus⟩ := of_digitValue_lt hc
    refine ⟨by simp [List.dropWhile, hspace], ?_⟩
    unfold readSign
    split
    · rename_i heq
      exact absurd (List.cons.inj heq).1 hminus
    · rename_i heq
      exact absurd (List.cons.inj heq).1 hplus
    · rfl

theorem hasHexPrefix_numeral {s : List Char} (hs : IsNumeral 16 s) : hasHexPrefix s = false := by
  unfold hasHexPrefix
  split
  · rename_i c rest
    obtain ⟨d, hd, hc⟩ := hs c (by simp)
    have hx : c ≠ 'x' := by
      rintro rfl
      have : d = 33 := (Option.some.inj hc).symm
      omega
    have hX : c ≠ 'X' := by
      rintro rfl
      have : d = 33 := (Option.some.inj hc).symm
      omega
    simp [hx, hX]
  · rfl

/-- A numeral of base 10 or 16 is read in its base. -/
theorem readBase_numeral {base : Nat} {s : List Char} (hb : base = 10 ∨ base = 16)
    (hs : IsNumeral base s) : readBase base s = (base, s) := by
  unfold readBase
  rcases hb with rfl | rfl
  · simp
  · simp [hasHexPrefix_numeral hs]

/-- A numeral with another first digit than `0` is decimal. -/
theorem readBase_zero {s : List Char} (h : s.head? ≠ some '0') : readBase 0 s = (10, s) := by
  have hnohex : hasHexPrefix s = false := by
    unfold hasHexPrefix
    split
    · exact absurd rfl h
    · rfl
  unfold readBase
  simp [hnohex, h]

/-- The digits of a number do not start with `0`. -/
theorem head_toDigits {n : Nat} (h : 0 < n) : (Nat.toDigits 10 n).head? ≠ some '0' := by
  have hdigit : ∀ d < 10, 0 < d → Nat.digitChar d ≠ '0' := by decide
  induction n using Nat.strongRecOn with
  | ind n ih =>
    rw [Nat.toDigits_eq_if (by omega)]
    split
    · rename_i hlt
      simpa using hdigit n hlt h
    · rename_i hge
      have hrest := ih (n / 10) (Nat.div_lt_self (by omega) (by omega)) (by omega)
      rw [List.head?_append]
      cases hhead : (Nat.toDigits 10 (n / 10)).head? with
      | none =>
        rw [List.head?_eq_none_iff] at hhead
        exact absurd hhead (Nat.toDigits_ne_nil)
      | some c =>
        rw [hhead] at hrest
        simpa using hrest

/-- A numeral read in its base, without and with a minus sign. -/
theorem strtoul_numeral {base base' : Nat} {s : List Char} (hs : IsNumeral base s)
    (hbase : readBase base' s = (base, s)) (hn : readDigits base s 0 < 2 ^ 64) :
    strtoul s base' = UInt64.ofNat (readDigits base s 0) ∧
      strtoul ('-' :: s) base' = 0 - UInt64.ofNat (readDigits base s 0) := by
  obtain ⟨hskip, hsign⟩ := skip_numeral hs
  have hskip' : ('-' :: s).dropWhile isSpace = '-' :: s := rfl
  have hsign' : readSign ('-' :: s) = (true, s) := rfl
  constructor
  · simp only [strtoul, hskip, hsign, hbase, if_neg (Nat.not_le.2 hn)]
    rfl
  · simp only [strtoul, hskip', hsign', hbase, if_neg (Nat.not_le.2 hn), if_true]

theorem isNumeral_decimal (n : Nat) : IsNumeral 10 (Nat.toDigits 10 n) := by
  simpa using isNumeral_toDigits (by omega) spells_decimal n

theorem readDigits_decimal (n : Nat) : readDigits 10 (Nat.toDigits 10 n) 0 = n := by
  simpa using readDigits_toDigits (by omega) spells_decimal n

/-- **`%d`, then `strtoul` base 10 cut to 32 bits, is the identity** on 32-bit words. -/
theorem strtoul_decimal (x : UInt32) : (strtoul (printInt x) 10).toUInt32 = x := by
  have hx := x.toNat_lt
  have hread : ∀ n < 2 ^ 64, strtoul (Nat.toDigits 10 n) 10 = UInt64.ofNat n ∧
      strtoul ('-' :: Nat.toDigits 10 n) 10 = 0 - UInt64.ofNat n := by
    intro n hn
    have h := strtoul_numeral (isNumeral_decimal n)
      (readBase_numeral (.inl rfl) (isNumeral_decimal n)) (by rwa [readDigits_decimal])
    rwa [readDigits_decimal] at h
  apply UInt32.toNat_inj.1
  unfold printInt
  split
  · rw [(hread _ (by omega)).1, UInt64.toNat_toUInt32, UInt64.toNat_ofNat']
    omega
  · rw [(hread _ (by omega)).2, UInt64.toNat_toUInt32, UInt64.toNat_sub, UInt64.toNat_ofNat']
    simp only [UInt64.toNat_zero]
    omega

/-- **`%ld`, then `strtoul` with the base read off, is the identity** on 64-bit words. -/
theorem strtoul_long (x : UInt64) : strtoul (printLong x) 0 = x := by
  have hx := x.toNat_lt
  have hread : ∀ n, 0 < n → n < 2 ^ 64 → strtoul (Nat.toDigits 10 n) 0 = UInt64.ofNat n ∧
      strtoul ('-' :: Nat.toDigits 10 n) 0 = 0 - UInt64.ofNat n := by
    intro n hpos hn
    have h := strtoul_numeral (isNumeral_decimal n) (readBase_zero (head_toDigits hpos))
      (by rwa [readDigits_decimal])
    rwa [readDigits_decimal] at h
  unfold printLong
  split
  · rcases Nat.eq_zero_or_pos x.toNat with hzero | hpos
    · rw [hzero, show x = 0 from UInt64.toNat_inj.1 hzero]
      decide
    · rw [(hread _ hpos (by omega)).1, UInt64.ofNat_toNat]
  · rw [(hread _ (by omega) (by omega)).2]
    apply UInt64.toNat_inj.1
    rw [UInt64.toNat_sub, UInt64.toNat_ofNat']
    simp only [UInt64.toNat_zero]
    omega

theorem length_printHex16 (x : UInt64) : (printHex16 x).length = 16 := by
  have hlen : (Nat.toDigits 16 x.toNat).length ≤ 16 :=
    (Nat.length_toDigits_le_iff (by omega) (by omega)).2 x.toNat_lt
  simp only [printHex16, List.length_append, List.length_replicate, List.length_map]
  omega

theorem isNumeral_zeros (k : Nat) : IsNumeral 16 (List.replicate k '0') := by
  intro c hc
  rw [List.eq_of_mem_replicate hc]
  exact ⟨0, by omega, by decide⟩

theorem isNumeral_hex16 (x : UInt64) : IsNumeral 16 (printHex16 x) :=
  isNumeral_append (isNumeral_zeros _) (isNumeral_toDigits (by omega) spells_hex _)

/-- **`%016lX`, then `strtoul` base 16, is the identity** on 64-bit words. -/
theorem strtoul_hex16 (x : UInt64) : strtoul (printHex16 x) 16 = x := by
  have hx := x.toNat_lt
  have hskip : ∀ k, readDigits 16 (List.replicate k '0') 0 = 0 := by
    intro k
    induction k with
    | zero => rfl
    | succ k ih => exact ih
  have hnum := isNumeral_hex16 x
  have hread : readDigits 16 (printHex16 x) 0 = x.toNat := by
    unfold printHex16
    rw [readDigits_append (isNumeral_zeros _), hskip, readDigits_toDigits (by omega) spells_hex]
  rw [(strtoul_numeral hnum (readBase_numeral (.inr rfl) hnum) (by omega)).1, hread,
    UInt64.ofNat_toNat]

/-! ## Codes in front of a string -/

/-- The string starts with the code and the character `c`. -/
theorem isPrefixOf_getElem?_iff (code s : List Char) (c : Char) :
    (code.isPrefixOf s = true ∧ s[code.length]? = some c) ↔
      s = code ++ c :: s.drop (code.length + 1) := by
  rw [List.isPrefixOf_iff_prefix]
  constructor
  · rintro ⟨⟨rest, rfl⟩, hc⟩
    rw [List.getElem?_append_right (Nat.le_refl _), Nat.sub_self] at hc
    cases rest with
    | nil => simp at hc
    | cons c' rest =>
      obtain rfl : c' = c := by simpa using hc
      simp
  · intro h
    rw [h]
    simp

/-- The string is the code and ends there. -/
theorem isPrefixOf_getElem?_none_iff (code s : List Char) :
    (code.isPrefixOf s = true ∧ s[code.length]? = none) ↔ s = code := by
  rw [List.isPrefixOf_iff_prefix]
  constructor
  · rintro ⟨⟨rest, rfl⟩, hend⟩
    rw [List.getElem?_eq_none_iff, List.length_append] at hend
    obtain rfl : rest = [] := List.eq_nil_of_length_eq_zero (by omega)
    exact List.append_nil code
  · rintro rfl
    exact ⟨List.prefix_rfl, List.getElem?_eq_none (Nat.le_refl _)⟩

end CText
