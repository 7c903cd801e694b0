/-!
# Decimal numerals of 64-bit integers

A numeral is an optional sign and at least one ASCII digit. `read?` gives the integer that a numeral
denotes when it is a 64-bit one, whatever the number of leading zeros, and `render` writes the
numeral without sign or zeros to spare.
-/

namespace SqlEngine.Text.Decimal

/-- The side on which an integer leaves the 64-bit range. -/
inductive Overflow | tooLarge | tooSmall
  deriving DecidableEq, Repr

/-- The integer that a run of digits denotes under a sign. -/
def signed (negative : Bool) (digits : List Char) : Int :=
  let magnitude := Nat.ofDigitChars 10 digits 0
  if negative then -(magnitude : Int) else magnitude

/-- The 64-bit integer of the same value, or the side on which there is none. -/
def toInt64 (n : Int) : Except Overflow Int64 :=
  if Int64.maxValue.toInt < n then .error .tooLarge
  else if n < Int64.minValue.toInt then .error .tooSmall
  else .ok (Int64.ofInt n)

/-- The sign of a numeral and the digits after it. -/
def split : List Char → Bool × List Char
  | '-' :: digits => (true, digits)
  | '+' :: digits => (false, digits)
  | digits        => (false, digits)

def read? (numeral : List Char) : Option Int64 :=
  let (negative, digits) := split numeral
  if digits ≠ [] ∧ digits.all Char.isDigit then (toInt64 (signed negative digits)).toOption
  else none

def renderInt : Int → List Char
  | .ofNat n   => Nat.toDigits 10 n
  | .negSucc n => '-' :: Nat.toDigits 10 (n + 1)

def render (n : Int64) : String := String.ofList (renderInt n.toInt)

theorem toInt64_toInt (m : Int64) : toInt64 m.toInt = .ok m := by
  have hmin := m.minValue_le_toInt
  have hmax := m.toInt_le
  rw [toInt64, if_neg (Int.not_lt.mpr hmax), if_neg (Int.not_lt.mpr hmin), Int64.ofInt_toInt]

theorem toInt64_eq_ok_iff {n : Int} {m : Int64} : toInt64 n = .ok m ↔ m.toInt = n := by
  constructor
  · intro h
    unfold toInt64 at h
    split at h
    · simp at h
    rename_i hmax
    split at h
    · simp at h
    rename_i hmin
    cases h
    have hlt : n < 2 ^ 63 := Int.lt_of_le_of_lt (Int.not_lt.mp hmax) (by decide)
    exact Int64.toInt_ofInt_of_le (Int.not_lt.mp hmin) hlt
  · rintro rfl
    exact toInt64_toInt m

/-- Reading goes by the integer alone: digits that denote a 64-bit integer are read as it. -/
theorem read?_eq_some_iff {numeral : List Char} {m : Int64} :
    read? numeral = some m ↔
      ((split numeral).2 ≠ [] ∧ (split numeral).2.all Char.isDigit) ∧
        signed (split numeral).1 (split numeral).2 = m.toInt := by
  unfold read?
  split
  rename_i negative digits heq
  split
  · rename_i h
    simp only [heq, h, ne_eq, not_false_eq_true, true_and]
    cases hn : toInt64 (signed negative digits) with
    | error e =>
      simp only [Except.toOption, reduceCtorEq, false_iff]
      intro hm
      rw [hm, toInt64_toInt] at hn
      simp at hn
    | ok k =>
      rw [toInt64_eq_ok_iff] at hn
      simp only [Except.toOption, Option.some.injEq, ← hn]
      exact ⟨fun h => h ▸ rfl, fun h => Int64.toInt_inj.mp h⟩
  · rename_i h
    simp only [heq, reduceCtorEq, false_iff]
    exact fun hm => h hm.1

/-! ### What is written -/

/-- The digits of a number are not led by a zero, unless there is no other. -/
private theorem head?_toDigits {n : Nat} (h : (Nat.toDigits 10 n).head? = some '0') :
    Nat.toDigits 10 n = ['0'] := by
  induction n using Nat.strongRecOn with
  | _ n ih =>
    rcases Nat.lt_or_ge n 10 with hlt | hle
    · rw [Nat.toDigits_of_lt_base hlt] at h ⊢
      exact congrArg (· :: []) (Option.some.inj h)
    · rw [Nat.toDigits_of_base_le (by decide) hle, List.head?_append, Option.or_eq_some_iff] at h
      obtain h | ⟨hnone, -⟩ := h
      · -- A leading zero would be all that is left of the other digits.
        have hvalue : Nat.ofDigitChars 10 (Nat.toDigits 10 (n / 10)) 0 = n / 10 :=
          Nat.ofDigitChars_ten_toDigits
        rw [ih (n / 10) (by omega) h] at hvalue
        have hpos : 0 < n / 10 := Nat.div_pos hle (by decide)
        exact absurd hvalue (Nat.ne_of_lt hpos)
      · exact absurd (List.head?_eq_none_iff.mp hnone) Nat.toDigits_ne_nil

/-- An integer is written as a minus sign, if it is negative, and its digits. -/
theorem renderInt_eq (n : Int) :
    ∃ negative digits, renderInt n = (if negative then '-' :: digits else digits) ∧
      digits ≠ [] ∧ (∀ c ∈ digits, c.isDigit) ∧ signed negative digits = n ∧
      (digits.head? = some '0' → digits = ['0']) := by
  have hdigits : ∀ k, ∀ c ∈ Nat.toDigits 10 k, c.isDigit :=
    fun k c hc => Nat.isDigit_of_mem_toDigits (by decide) (by decide) hc
  cases n with
  | ofNat k =>
    refine ⟨false, Nat.toDigits 10 k, rfl, Nat.toDigits_ne_nil, hdigits k, ?_, head?_toDigits⟩
    rw [signed, Nat.ofDigitChars_ten_toDigits]
    rfl
  | negSucc k =>
    refine ⟨true, Nat.toDigits 10 (k + 1), rfl, Nat.toDigits_ne_nil, hdigits _, ?_, head?_toDigits⟩
    rw [signed, Nat.ofDigitChars_ten_toDigits]
    rfl

end SqlEngine.Text.Decimal
