import Mathlib.Data.List.TakeWhile
import Mathlib.Tactic.Ring
import FieldPipeline.Modifier.Processor

/-!
Rounding of whole numbers to powers of ten.  A decimal has room for a bounded number of digits;
where the result fits, it is the nearest multiple, a half away from zero.
-/

namespace FieldPipeline

namespace Number

/-! ### Nearest multiples -/

/-- Whether a multiple of `unit` is the nearest one to a whole number; of two that are as near, the
one of larger magnitude. -/
structure IsNearest (unit : Nat) (v m : Int) : Prop where
  multiple : (unit : Int) ∣ m
  near : ∀ n : Int, (unit : Int) ∣ n → (v - m).natAbs ≤ (v - n).natAbs
  tie : ∀ n : Int, (unit : Int) ∣ n → (v - n).natAbs = (v - m).natAbs → n.natAbs ≤ m.natAbs

namespace IsNearest

variable {unit : Nat} {v w m n : Int}

theorem unique (hm : IsNearest unit v m) (hn : IsNearest unit v n) : m = n := by
  have hnear := hm.near n hn.multiple
  have hnear' := hn.near m hm.multiple
  have htie := hm.tie n hn.multiple (by omega)
  have htie' := hn.tie m hm.multiple (by omega)
  have hzero := hm.near 0 (Int.dvd_zero _)
  omega

theorem self (hm : (unit : Int) ∣ m) : IsNearest unit m m where
  multiple := hm
  near n _ := by simp
  tie n _ hn := by omega

theorem neg (h : IsNearest unit v m) : IsNearest unit (-v) (-m) where
  multiple := (Int.dvd_neg).mpr h.multiple
  near n hn := by
    have hnear := h.near (-n) ((Int.dvd_neg).mpr hn)
    omega
  tie n hn hsame := by
    have htie := h.tie (-n) ((Int.dvd_neg).mpr hn) (by omega)
    omega

theorem mono (hm : IsNearest unit v m) (hn : IsNearest unit w n) (hvw : v ≤ w) : m ≤ n := by
  by_contra hlt
  have hnear := hm.near n hn.multiple
  have hnear' := hn.near m hm.multiple
  have hsame : v = w := by omega
  subst hsame
  exact hlt (hm.unique hn).le

end IsNearest

theorem divHalfUp_spec (a : Nat) {unit : Nat} (hunit : 0 < unit) :
    2 * (divHalfUp a unit * unit) ≤ 2 * a + unit ∧
      2 * a + unit < 2 * (divHalfUp a unit * unit) + 2 * unit := by
  have hlow := Nat.div_mul_le_self (2 * a + unit) (2 * unit)
  have hhigh := Nat.lt_div_mul_add (a := 2 * a + unit) (b := 2 * unit) (by omega)
  have hassoc : (2 * a + unit) / (2 * unit) * (2 * unit) = 2 * (divHalfUp a unit * unit) := by
    unfold divHalfUp
    ring
  omega

theorem isNearest_divHalfUp (a : Nat) {unit : Nat} (hunit : 0 < unit) :
    IsNearest unit a (divHalfUp a unit * unit : Nat) := by
  obtain ⟨hlow, hhigh⟩ := divHalfUp_spec a hunit
  have hcases : ∀ n : Int, (unit : Int) ∣ n → n = (divHalfUp a unit * unit : Nat) ∨
      n + unit ≤ (divHalfUp a unit * unit : Nat) ∨
      (divHalfUp a unit * unit : Nat) + (unit : Int) ≤ n := by
    rintro _ ⟨t, rfl⟩
    rw [Int.natCast_mul, Int.mul_comm (divHalfUp a unit : Int)]
    have hunit' : (0 : Int) ≤ unit := Int.natCast_nonneg unit
    rcases lt_trichotomy t (divHalfUp a unit) with hlt | rfl | hgt
    · have hside := Int.mul_le_mul_of_nonneg_left (Int.add_one_le_of_lt hlt) hunit'
      rw [Int.mul_add, Int.mul_one] at hside
      exact .inr (.inl hside)
    · exact .inl rfl
    · have hside := Int.mul_le_mul_of_nonneg_left (Int.add_one_le_of_lt hgt) hunit'
      rw [Int.mul_add, Int.mul_one] at hside
      exact .inr (.inr hside)
  refine ⟨Int.natCast_dvd_natCast.mpr (Nat.dvd_mul_left _ _), fun n hn => ?_, fun n hn hsame => ?_⟩
  · have hside := hcases n hn
    omega
  · have hside := hcases n hn
    omega

theorem isNearest_roundAway (v : Int) {unit : Nat} (hunit : 0 < unit) :
    IsNearest unit v (roundAway v unit) := by
  have hsize := isNearest_divHalfUp v.natAbs hunit
  unfold roundAway
  dsimp only
  split
  · rename_i hv
    have hneg := hsize.neg
    rwa [Int.ofNat_natAbs_of_nonpos (Int.le_of_lt hv), Int.neg_neg] at hneg
  · rename_i hv
    rwa [Int.natAbs_of_nonneg (Int.not_lt.mp hv)] at hsize

/-! ### Whole numbers as texts -/

open Text

theorem toNat_of_isDigit {c : Char} (h : c.isDigit = true) : 48 ≤ c.toNat ∧ c.toNat ≤ 57 := by
  simp only [Char.isDigit, Bool.and_eq_true, decide_eq_true_eq, ge_iff_le,
    UInt32.le_iff_toNat_le] at h
  exact h

theorem digitsToNat_toDigits (n : Nat) : digitsToNat (Nat.toDigits 10 n) = n := by
  have hfold : ∀ (ds : List Char) (acc : Nat),
      ds.foldl (fun acc c => acc * 10 + (c.toNat - 48)) acc = Nat.ofDigitChars 10 ds acc := by
    intro ds acc
    unfold Nat.ofDigitChars
    congr 1
    funext acc c
    rw [Nat.mul_comm]
    rfl
  exact (hfold _ 0).trans Nat.ofDigitChars_ten_toDigits

theorem toList_plain (v : Int) : (Value.plain (.int v)).toList =
    if v < 0 then '-' :: Nat.toDigits 10 v.natAbs else Nat.toDigits 10 v.natAbs := by
  change (toString v).toList = _
  rw [Int.toString_eq_repr, Int.repr_eq_if]
  by_cases hv : v < 0
  · rw [if_neg (by omega), if_pos hv, String.toList_append, Nat.toList_repr,
      show (-v).toNat = v.natAbs by omega]
    rfl
  · rw [if_pos (by omega), if_neg hv, Nat.toList_repr, show v.toNat = v.natAbs by omega]

theorem plainForm_stripChars {cs : List Char}
    (h : ∀ c ∈ cs, 32 < c.toNat ∧ c.toNat < 128 ∧ c ≠ '_') :
    (plainForm (stripChars cs)).filter (· != '_') = cs := by
  have hblank : ∀ c ∈ cs, isBlank c = false := by
    intro c hc
    obtain ⟨hlow, hhigh, -⟩ := h c hc
    simp [isBlank]
    omega
  have hstrip : stripChars cs = cs := by
    have hdrop : ∀ l : List Char, (∀ c ∈ l, isBlank c = false) → dropBlanks l = l := fun l hl =>
      List.dropWhile_eq_self_iff.mpr fun hpos => by simp [hl l[0] (List.getElem_mem hpos)]
    rw [stripChars, hdrop cs hblank, hdrop cs.reverse fun c hc => hblank c (List.mem_reverse.mp hc),
      List.reverse_reverse]
  have hplain : plainForm cs = cs :=
    (List.map_congr_left fun c hc => if_pos (h c hc).2.1).trans (List.map_id cs)
  rw [hstrip, hplain, List.filter_eq_self]
  simpa using fun c hc => (h c hc).2.2

theorem readNumeral?_digits (negative : Bool) (n : Nat) :
    readNumeral? (if negative then '-' :: Nat.toDigits 10 n else Nat.toDigits 10 n) =
      some ⟨negative, n, 0⟩ := by
  have hdigits : ∀ c ∈ Nat.toDigits 10 n, isDigit c = true := fun c hc =>
    Nat.isDigit_of_mem_toDigits (by decide) (by decide) hc
  have hsplit : splitSign (if negative then '-' :: Nat.toDigits 10 n else Nat.toDigits 10 n) =
      (negative, Nat.toDigits 10 n) := by
    cases negative with
    | true => rfl
    | false =>
        change splitSign (Nat.toDigits 10 n) = _
        unfold splitSign
        split
        · rename_i hcs
          exact absurd (hdigits '-' (hcs ▸ List.mem_cons_self)) (by decide)
        · rename_i hcs
          exact absurd (hdigits '+' (hcs ▸ List.mem_cons_self)) (by decide)
        · rfl
  unfold readNumeral?
  rw [hsplit]
  dsimp only
  rw [List.takeWhile_eq_self_iff.mpr hdigits, List.dropWhile_eq_nil_iff.mpr hdigits]
  simp [Nat.toDigits_ne_nil, readExponent?, digitsToNat_toDigits]

theorem read?_plain (v : Int) :
    Decimal.read? (Value.plain (.int v)) = some (.finite (decide (v < 0)) v.natAbs 0) := by
  have hdigit : ∀ c ∈ Nat.toDigits 10 v.natAbs, 32 < c.toNat ∧ c.toNat < 128 ∧ c ≠ '_' := by
    intro c hc
    have hdigit := Nat.isDigit_of_mem_toDigits (by decide) (by decide) hc
    obtain ⟨hlow, hhigh⟩ := toNat_of_isDigit hdigit
    refine ⟨by omega, by omega, ?_⟩
    rintro rfl
    exact absurd hhigh (by decide)
  have hplain : ∀ c ∈ (Value.plain (.int v)).toList, 32 < c.toNat ∧ c.toNat < 128 ∧ c ≠ '_' := by
    rw [toList_plain]
    split
    · exact List.forall_mem_cons.mpr ⟨by decide, hdigit⟩
    · exact hdigit
  have hnumeral := readNumeral?_digits (decide (v < 0)) v.natAbs
  simp only [decide_eq_true_eq, ← toList_plain] at hnumeral
  unfold Decimal.read?
  dsimp only
  rw [plainForm_stripChars hplain, hnumeral]

/-! ### Rounded decimals -/

namespace Decimal

theorem digitCount_le_iff {n k : Nat} (hk : 0 < k) : digitCount n ≤ k ↔ n < 10 ^ k :=
  Nat.length_toDigits_le_iff (by decide) hk

theorem coefficientAt_eq (n k : Nat) : coefficientAt n 0 k = divHalfUp n (10 ^ k) := by
  cases k with
  | zero =>
      change n * 1 = divHalfUp n 1
      unfold divHalfUp
      omega
  | succ k =>
      have hplace : (0 : Int) - ((k + 1 : Nat) : Int) = Int.negSucc k := by omega
      unfold coefficientAt
      rw [hplace]
      rfl

theorem le_divHalfUp {n k : Nat} (h : 10 ^ (precision + k) ≤ n) :
    10 ^ precision ≤ divHalfUp n (10 ^ k) := by
  have hunit : 0 < 10 ^ k := Nat.pow_pos (by decide)
  rw [Nat.pow_add] at h
  unfold divHalfUp
  rw [Nat.le_div_iff_mul_le (by omega), Nat.mul_left_comm]
  omega

theorem roundTo?_finite (negative : Bool) (n : Nat) {k : Nat} (hk : k ≤ largestExponent) :
    (Decimal.finite negative n 0).roundTo? k =
      if 10 ^ precision ≤ divHalfUp n (10 ^ k) then none
      else some (.finite negative (divHalfUp n (10 ^ k)) k) := by
  have hpositive : 0 < precision := by decide
  unfold roundTo?
  dsimp only
  split
  · rename_i hzero
    obtain rfl : n = 0 := by simpa using hzero
    have hunit : 0 < 10 ^ k := Nat.pow_pos (by decide)
    have hnothing : divHalfUp 0 (10 ^ k) = 0 := Nat.div_eq_of_lt (by omega)
    have hroom : 0 < 10 ^ precision := Nat.pow_pos (by decide)
    rw [hnothing, if_neg (by omega)]
  · rw [if_neg (by simpa using hk)]
    split
    · rename_i hlong
      have hdigits : ¬digitCount n ≤ precision + k := by omega
      rw [digitCount_le_iff (by omega), Nat.not_lt] at hdigits
      rw [if_pos (le_divHalfUp hdigits)]
    · rw [coefficientAt_eq]
      have hroom := digitCount_le_iff (n := divHalfUp n (10 ^ k)) hpositive
      split
      · rename_i hlong
        rw [if_pos (by omega)]
      · rename_i hshort
        rw [if_neg (by omega)]

theorem truncate?_finite (v : Int) (k : Nat) :
    (Decimal.finite (decide (v < 0)) (divHalfUp v.natAbs (10 ^ k)) k).truncate? =
      some (roundAway v (10 ^ k)) := by
  simp [truncate?, roundAway]

end Decimal

end Number

namespace Modifier.Processor

open Number

/-- Why a whole number is not rounded to a multiple of `10 ^ k`, of which `m` is the nearest: the
place is too far from the point, the number has no text, or the multiple has too many digits. -/
def roundingFault? (k : Nat) (v m : Int) : Option Fault :=
  if 2 * (Decimal.largestExponent + Decimal.precision) < k then some .noDecimal
  else if Decimal.largestExponent < k then some .decimalTooLarge
  else if 10 ^ mostDigits ≤ v.natAbs then some .badValue
  else if 10 ^ (Decimal.precision + k) ≤ m.natAbs then some .noDecimal
  else none

theorem roundingFault?_eq_none {k : Nat} {v m : Int} : roundingFault? k v m = none ↔
    k ≤ Decimal.largestExponent ∧ v.natAbs < 10 ^ mostDigits ∧
      m.natAbs < 10 ^ (Decimal.precision + k) := by
  unfold roundingFault?
  split
  · simp
    omega
  split
  · simp
    omega
  rename_i hplace
  split
  · rename_i hsize
    simp [Nat.not_lt.mpr hsize]
  · rename_i hsize
    simp [Nat.not_lt.mp hplace, Nat.not_le.mp hsize]

theorem natAbs_roundAway (v : Int) (unit : Nat) :
    (roundAway v unit).natAbs = divHalfUp v.natAbs unit * unit := by
  unfold roundAway
  dsimp only
  split <;> omega

theorem checkPlace_eq (k : Nat) : Decimal.checkPlace k =
    if 2 * (Decimal.largestExponent + Decimal.precision) < k then .error .noDecimal
    else if Decimal.largestExponent < k then .error .decimalTooLarge else .ok () := by
  unfold Decimal.checkPlace
  simp

theorem roundDigits_int (v : Int) (k : Nat) : roundDigits (.int v) (.int (-k)) =
    (roundingFault? k v (roundAway v (10 ^ k))).elim (.ok (.int (roundAway v (10 ^ k))))
      .error := by
  unfold roundDigits
  change (Decimal.checkPlace (- -k) >>= fun _ => checkSize (.int v) >>= fun _ => _) = _
  rw [Int.neg_neg, checkPlace_eq, read?_plain]
  unfold roundingFault?
  split
  · rfl
  split
  · rfl
  rename_i hplace
  have hsize : mostDigits < digitCount v.natAbs ↔ 10 ^ mostDigits ≤ v.natAbs := by
    rw [← Nat.not_le, Decimal.digitCount_le_iff (by decide), Nat.not_lt]
  have hroom : 10 ^ (Decimal.precision + k) ≤ (roundAway v (10 ^ k)).natAbs ↔
      10 ^ Decimal.precision ≤ divHalfUp v.natAbs (10 ^ k) := by
    rw [natAbs_roundAway, Nat.pow_add, Nat.mul_le_mul_right_iff (Nat.pow_pos (by decide))]
  simp only [checkSize, hsize, hroom]
  split
  · rfl
  rw [Option.bind_some, Decimal.roundTo?_finite _ _ (Nat.le_of_not_lt hplace)]
  by_cases hlong : 10 ^ Decimal.precision ≤ divHalfUp v.natAbs (10 ^ k)
  · rw [if_pos hlong, if_pos hlong]
    rfl
  · rw [if_neg hlong, if_neg hlong]
    change rounded (-k) _ = Except.ok _
    unfold rounded
    rw [if_pos (by omega), Decimal.truncate?_finite]

/-- Rounding to a multiple of `10 ^ k` gives the nearest one unless there is a reason against it;
what it gives stays as it is unless it has no text, and the order of numbers is kept. -/
theorem round_nearest (k : Nat) :
    (∀ v : Int, ∃ m, IsNearest (10 ^ k) v m ∧ round [.int v, .int (-k)] =
      (roundingFault? k v m).elim (.ok (.int m)) .error) ∧
    (∀ v m : Int, round [.int v, .int (-k)] = .ok (.int m) → m.natAbs < 10 ^ mostDigits →
      round [.int m, .int (-k)] = .ok (.int m)) ∧
    ∀ v w m n : Int, v ≤ w → round [.int v, .int (-k)] = .ok (.int m) →
      round [.int w, .int (-k)] = .ok (.int n) → m ≤ n := by
  have hlaw : ∀ v : Int, ∃ m, IsNearest (10 ^ k) v m ∧ round [.int v, .int (-k)] =
      (roundingFault? k v m).elim (.ok (.int m)) .error := fun v =>
    ⟨_, isNearest_roundAway v (Nat.pow_pos (by decide)), roundDigits_int v k⟩
  have hround : ∀ v m : Int, round [.int v, .int (-k)] = .ok (.int m) →
      IsNearest (10 ^ k) v m ∧ roundingFault? k v m = none := by
    intro v m h
    obtain ⟨n, hn, hresult⟩ := hlaw v
    rw [hresult] at h
    cases hfault : roundingFault? k v n with
    | some f =>
        rw [hfault] at h
        cases h
    | none =>
        rw [hfault] at h
        cases h
        exact ⟨hn, hfault⟩
  refine ⟨hlaw, fun v m h hsize => ?_, fun v w m n hvw hm hn => ?_⟩
  · obtain ⟨hnearest, hfault⟩ := hround v m h
    obtain ⟨n, hn, hresult⟩ := hlaw m
    obtain rfl := hn.unique (.self hnearest.multiple)
    obtain ⟨hplace, -, hroom⟩ := roundingFault?_eq_none.mp hfault
    rw [hresult, roundingFault?_eq_none.mpr ⟨hplace, hsize, hroom⟩]
    rfl
  · exact (hround v m hm).1.mono (hround w n hn).1 hvw

theorem tens_round_nearest :
    round [.int 25, .int (-1)] = .ok (.int 30) ∧ round [.int 30, .int (-1)] = .ok (.int 30) ∧
      round [.int 34, .int (-1)] = .ok (.int 30) ∧ (30 : Int) ≤ 30 := by
  have hup : round [.int 25, .int (-1)] = .ok (.int 30) := rfl
  have hdown : round [.int 34, .int (-1)] = .ok (.int 30) := rfl
  obtain ⟨-, hstays, hkeeps⟩ := round_nearest 1
  have hshort : (30 : Int).natAbs < 10 ^ mostDigits :=
    Nat.lt_of_lt_of_le (by decide : 30 < 10 ^ 2) (Nat.pow_le_pow_right (by decide) (by decide))
  exact ⟨hup, hstays 25 30 hup hshort, hdown, hkeeps 25 34 30 30 (by decide) hup hdown⟩

end Modifier.Processor

end FieldPipeline
