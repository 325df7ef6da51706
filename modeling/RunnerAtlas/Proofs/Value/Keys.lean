import Mathlib.Algebra.Group.Nat.Defs
import Mathlib.Tactic.Lemma
import Mathlib.Tactic.SplitIfs
import RunnerAtlas.Value.Mapping

set_option relaxedAutoImplicit false
set_option autoImplicit false

/-!
# Equality of keys

Which keys are one key of a mapping is decided across kinds: whole numbers, floating-point numbers
and truth values that are equal numbers are one key. On keys without not-a-number this is an
equivalence. It rests on the one form that a floating-point number has, as two forms of a number
could be equal to a whole number without being equal to each other.

## Main definitions

* `RunnerAtlas.Binary64.IsNumber` — a number in its one form.
* `RunnerAtlas.Value.IsKey` — the values that are keys.

## Main results

* `RunnerAtlas.Value.sameKey_self`, `RunnerAtlas.Value.sameKey_comm`,
  `RunnerAtlas.Value.sameKey_trans` — to be one key is an equivalence.
-/

namespace RunnerAtlas

/-! ### Floating-point numbers -/

namespace Binary64

/-- An infinity, or a finite number in its one form: the significand has 53 digits, or else the
exponent is the smallest. -/
def IsNumber : Binary64 → Prop
  | nan => False
  | infinite _ => True
  | finite _ significand exponent =>
    significand < significandBound ∧ minExponent ≤ exponent ∧
      (leastNormal ≤ significand ∨ exponent = minExponent)

/-- A number equals itself. -/
lemma same_self {x : Binary64} (h : x.IsNumber) : x.same x = true := by
  cases x with
  | nan => exact h.elim
  | _ => simp [same]

/-- Equality of numbers does not depend on their order. -/
lemma same_comm (x y : Binary64) : x.same y = y.same x := by
  have hcomm : (x.isZero && y.isZero || x == y) = (y.isZero && x.isZero || y == x) := by
    rw [Bool.and_comm, Bool.beq_comm]
  cases x with
  | nan => cases y <;> rfl
  | _ => cases y <;> first | rfl | exact hcomm

/-- Two numbers are equal if they are zeros or the same. -/
lemma same_eq_true_iff {x y : Binary64} (h : x.IsNumber) :
    x.same y = true ↔ x.isZero = true ∧ y.isZero = true ∨ x = y := by
  cases x with
  | nan => exact h.elim
  | _ => cases y <;> simp [same, isZero]

/-- Equality of numbers is transitive. -/
lemma same_trans {x y z : Binary64} (hx : x.IsNumber) (hy : y.IsNumber) (hxy : x.same y = true)
    (hyz : y.same z = true) : x.same z = true := by
  rw [same_eq_true_iff hx] at hxy ⊢
  rw [same_eq_true_iff hy] at hyz
  rcases hxy with ⟨hx, hy⟩ | rfl
  · rcases hyz with ⟨-, hz⟩ | rfl
    · exact .inl ⟨hx, hz⟩
    · exact .inl ⟨hx, hy⟩
  · exact hyz

/-- A zero is the whole number zero. -/
lemma toInt?_of_isZero {x : Binary64} (h : x.isZero = true) : x.toInt? = some 0 := by
  cases x with
  | finite negative significand exponent =>
    obtain rfl : significand = 0 := by simpa [isZero] using h
    cases exponent <;> cases negative <;> simp [toInt?]
  | _ => simp [isZero] at h

/-- Equal numbers are the same whole number, if they are one. -/
lemma toInt?_of_same {x y : Binary64} (hx : x.IsNumber) (h : x.same y = true) :
    x.toInt? = y.toInt? := by
  rcases (same_eq_true_iff hx).mp h with ⟨hx, hy⟩ | rfl
  · rw [toInt?_of_isZero hx, toInt?_of_isZero hy]
  · rfl

/-- The size of a whole number in units of the smallest exponent. -/
lemma size_of_toInt? {negative : Bool} {significand : Nat} {exponent n : Int} {k : Nat}
    (hk : minExponent = -k) (hexponent : minExponent ≤ exponent)
    (h : (finite negative significand exponent).toInt? = some n) :
    significand * 2 ^ (exponent + k).toNat = n.natAbs * 2 ^ k ∧
      (n ≠ 0 → negative = decide (n < 0)) := by
  have hsign (size : Nat) (hsize : (if negative then -(size : Int) else (size : Int)) = n) :
      n.natAbs = size ∧ (n ≠ 0 → negative = decide (n < 0)) := by
    subst hsize
    cases negative with
    | false => simp
    | true => simp; omega
  cases exponent with
  | ofNat up =>
    obtain ⟨hsize, hnegative⟩ := hsign _ (Option.some.inj h)
    refine ⟨?_, hnegative⟩
    have hexp : (Int.ofNat up + (k : Int)).toNat = up + k := by
      simp only [Int.ofNat_eq_natCast]
      omega
    rw [hsize, hexp, Nat.pow_add, ← Nat.mul_assoc]
    rfl
  | negSucc down =>
    simp only [toInt?] at h
    by_cases hmod : significand % Nat.pow 2 (down + 1) = 0
    · rw [if_pos hmod] at h
      obtain ⟨hsize, hnegative⟩ := hsign _ (Option.some.inj h)
      refine ⟨?_, hnegative⟩
      have hexp : down + 1 + (Int.negSucc down + (k : Int)).toNat = k := by
        omega
      have hwhole : significand / Nat.pow 2 (down + 1) * 2 ^ (down + 1) = significand :=
        Nat.div_mul_cancel (Nat.dvd_of_mod_eq_zero hmod)
      calc significand * 2 ^ (Int.negSucc down + (k : Int)).toNat
          = significand / Nat.pow 2 (down + 1) *
              (2 ^ (down + 1) * 2 ^ (Int.negSucc down + (k : Int)).toNat) := by
            rw [← Nat.mul_assoc, hwhole]
        _ = n.natAbs * 2 ^ k := by rw [← Nat.pow_add, hexp, hsize]
    · rw [if_neg hmod] at h
      cases h

/-- A size has one form with an exponent that is not below another one. -/
lemma form_unique {m n d : Nat} (hm : m < significandBound) (hn : leastNormal ≤ n ∨ d = 0)
    (h : m = n * 2 ^ d) : d = 0 ∨ n = 0 := by
  rcases hn with hn | rfl
  · left
    cases d with
    | zero => rfl
    | succ d =>
      have hpow : 0 < 2 ^ d := Nat.two_pow_pos d
      have hle : n * 2 ≤ n * (2 ^ d * 2) := Nat.mul_le_mul_left _ (by omega)
      rw [Nat.pow_succ] at h
      simp only [significandBound, leastNormal] at hm hn
      omega
  · exact .inl rfl

/-- Two numbers of which the first has the smaller exponent are equal if they are the same whole
number. -/
lemma same_of_exponent_le {a b : Bool} {m n : Nat} {e f i : Int}
    (hx : (finite a m e).IsNumber) (hy : (finite b n f).IsNumber) (hle : e ≤ f)
    (hm : (finite a m e).toInt? = some i) (hn : (finite b n f).toInt? = some i) :
    (finite a m e).same (finite b n f) = true := by
  obtain ⟨k, hk⟩ : ∃ k : Nat, minExponent = -k := ⟨1074, rfl⟩
  obtain ⟨hbound, hmin, -⟩ := id hx
  obtain ⟨-, hmin', hform⟩ := hy
  obtain ⟨hsize, hsign⟩ := size_of_toInt? hk hmin hm
  obtain ⟨hsize', hsign'⟩ := size_of_toInt? hk hmin' hn
  obtain ⟨d, hd⟩ : ∃ d, (f + k).toNat = d + (e + k).toNat := ⟨(f - e).toNat, by omega⟩
  have hsame : m = n * 2 ^ d := by
    refine Nat.eq_of_mul_eq_mul_right (Nat.two_pow_pos (e + k).toNat) ?_
    rw [hsize, ← hsize', hd, Nat.pow_add, Nat.mul_assoc]
  rw [same_eq_true_iff hx]
  have hform : leastNormal ≤ n ∨ d = 0 := hform.imp_right fun hf => by omega
  rcases form_unique hbound hform hsame with rfl | rfl
  · obtain rfl : e = f := by omega
    obtain rfl : m = n := by rw [hsame, Nat.pow_zero, Nat.mul_one]
    by_cases hi : i = 0
    · subst hi
      rw [Int.natAbs_zero, Nat.zero_mul] at hsize
      obtain rfl : m = 0 :=
        (Nat.mul_eq_zero.mp hsize).resolve_right (Nat.ne_of_gt (Nat.two_pow_pos _))
      exact .inl ⟨rfl, rfl⟩
    · exact .inr (by rw [hsign hi, hsign' hi])
  · rw [Nat.zero_mul] at hsame
    subst hsame
    exact .inl ⟨rfl, rfl⟩

/-- Numbers that are the same whole number are equal. -/
lemma same_of_toInt? {x y : Binary64} (hx : x.IsNumber) (hy : y.IsNumber) {i : Int}
    (hxi : x.toInt? = some i) (hyi : y.toInt? = some i) : x.same y = true := by
  cases x with
  | finite a m e =>
    cases y with
    | finite b n f =>
      rcases Int.le_total e f with hle | hle
      · exact same_of_exponent_le hx hy hle hxi hyi
      · rw [same_comm]
        exact same_of_exponent_le hy hx hle hyi hxi
    | _ => cases hyi
  | _ => cases hxi

end Binary64

/-! ### Numbers of both kinds -/

namespace Value

/-- A number of either kind in its one form. -/
def IsNumber : Int ⊕ Binary64 → Prop
  | .inl _ => True
  | .inr x => x.IsNumber

/-- A number equals itself. -/
lemma sameNumber_self {a : Int ⊕ Binary64} (h : IsNumber a) : sameNumber a a = true := by
  cases a with
  | inl n => simp [sameNumber]
  | inr x => exact Binary64.same_self h

/-- Equality of numbers does not depend on their order. -/
lemma sameNumber_comm (a b : Int ⊕ Binary64) : sameNumber a b = sameNumber b a := by
  cases a with
  | inl m =>
    cases b with
    | inl n => exact Bool.beq_comm
    | inr y => rfl
  | inr x =>
    cases b with
    | inl n => rfl
    | inr y => exact Binary64.same_comm x y

/-- Equality of numbers is transitive. -/
lemma sameNumber_trans {a b c : Int ⊕ Binary64} (ha : IsNumber a) (hb : IsNumber b)
    (hc : IsNumber c) (hab : sameNumber a b = true) (hbc : sameNumber b c = true) :
    sameNumber a c = true := by
  have hint (x : Binary64) (n : Int) : x.equalsInt n = true ↔ x.toInt? = some n := by
    simp [Binary64.equalsInt]
  cases a with
  | inl l =>
    cases b with
    | inl m =>
      obtain rfl : l = m := by simpa [sameNumber] using hab
      exact hbc
    | inr y =>
      have hy := (hint y l).mp hab
      cases c with
      | inl n =>
        have hn := (hint y n).mp hbc
        rw [hy] at hn
        simpa [sameNumber] using hn
      | inr z => exact (hint z l).mpr (Binary64.toInt?_of_same hb hbc ▸ hy)
  | inr x =>
    cases b with
    | inl m =>
      have hx := (hint x m).mp hab
      cases c with
      | inl n =>
        obtain rfl : m = n := by simpa [sameNumber] using hbc
        exact hab
      | inr z => exact Binary64.same_of_toInt? ha hc hx ((hint z m).mp hbc)
    | inr y =>
      cases c with
      | inl n => exact (hint x n).mpr (Binary64.toInt?_of_same ha hab ▸ (hint y n).mp hbc)
      | inr z => exact Binary64.same_trans ha hb hab hbc

/-! ### Keys -/

mutual

/-- The values that are keys: numbers and texts, days and moments, and sequences of fixed length
that consist of keys. -/
def IsKey : Value → Prop
  | float x => x.IsNumber
  | tuple items => AreKeys items
  | list _ => False
  | set _ => False
  | map _ => False
  | _ => True

/-- Values all of which are keys. -/
def AreKeys : List Value → Prop
  | [] => True
  | v :: vs => IsKey v ∧ AreKeys vs

end

/-- A number is the same key as those that it equals. -/
lemma sameKey_of_number? {v : Value} {a : Int ⊕ Binary64} (h : v.number? = some a) (w : Value) :
    v.sameKey w = (w.number?.map (sameNumber a)).getD false := by
  cases v <;> cases h <;> cases w <;> rfl

/-- A key that is a number is one in its one form. -/
lemma IsKey.isNumber {v : Value} (hv : v.IsKey) {a : Int ⊕ Binary64} (h : v.number? = some a) :
    IsNumber a := by
  cases v <;> cases h <;> trivial

/-- A number is one key with nothing but numbers that it equals. -/
lemma exists_number?_of_sameKey {v w : Value} {a : Int ⊕ Binary64} (h : v.number? = some a)
    (hvw : v.sameKey w = true) : ∃ b, w.number? = some b ∧ sameNumber a b = true := by
  rw [sameKey_of_number? h] at hvw
  cases hb : w.number? with
  | none => simp [hb] at hvw
  | some b => exact ⟨b, rfl, by simpa [hb] using hvw⟩

/-- A key that is a number is one key with itself. -/
lemma sameKey_self_of_number? {v : Value} {a : Int ⊕ Binary64} (h : v.number? = some a)
    (hv : v.IsKey) : v.sameKey v = true := by
  rw [sameKey_of_number? h, h]
  exact sameNumber_self (hv.isNumber h)

/-- Whether a number and another value are one key does not depend on their order. -/
lemma sameKey_comm_of_number? {v : Value} {a : Int ⊕ Binary64} (h : v.number? = some a)
    (w : Value) : v.sameKey w = w.sameKey v := by
  rw [sameKey_of_number? h]
  cases hb : w.number? with
  | some b =>
    rw [sameKey_of_number? hb, h]
    exact sameNumber_comm a b
  | none =>
    cases v with
    | bool | int | float => cases w <;> first | rfl | cases hb
    | _ => cases h

/-- Numbers that are one key with a number in turn are one key. -/
lemma sameKey_trans_of_number? {u v w : Value} {a : Int ⊕ Binary64} (h : u.number? = some a)
    (hu : u.IsKey) (hv : v.IsKey) (hw : w.IsKey) (huv : u.sameKey v = true)
    (hvw : v.sameKey w = true) : u.sameKey w = true := by
  obtain ⟨b, hb, hab⟩ := exists_number?_of_sameKey h huv
  obtain ⟨c, hc, hbc⟩ := exists_number?_of_sameKey hb hvw
  rw [sameKey_of_number? h, hc]
  exact sameNumber_trans (hu.isNumber h) (hv.isNumber hb) (hw.isNumber hc) hab hbc

/-- Equality of moments does not depend on their order. -/
lemma same_moment_comm (s t : Calendar.Moment) : s.same t = t.same s := by
  unfold Calendar.Moment.same
  cases s.offset with
  | none =>
    cases t.offset with
    | none => exact Bool.beq_comm
    | some _ => rfl
  | some _ =>
    cases t.offset with
    | none => rfl
    | some _ => exact Bool.beq_comm

/-- Equality of moments is transitive. -/
lemma same_moment_trans {s t u : Calendar.Moment} (hst : s.same t = true) (htu : t.same u = true) :
    s.same u = true := by
  unfold Calendar.Moment.same at *
  cases hs : s.offset <;> cases ht : t.offset <;> cases hu : u.offset <;> simp_all

mutual

/-- A key is one key with itself. -/
theorem sameKey_self : (v : Value) → v.IsKey → v.sameKey v = true
  | null, _ => rfl
  | bool _, h => sameKey_self_of_number? rfl h
  | int _, h => sameKey_self_of_number? rfl h
  | float _, h => sameKey_self_of_number? rfl h
  | str s, _ => by simp [sameKey]
  | bytes s, _ => by simp [sameKey]
  | date d, _ => by simp [sameKey]
  | moment t, _ => by cases h : t.offset <;> simp [sameKey, Calendar.Moment.same, h]
  | tuple items, h => sameKeys_self items h

/-- Keys are the same keys as themselves. -/
theorem sameKeys_self : (vs : List Value) → AreKeys vs → sameKeys vs vs = true
  | [], _ => rfl
  | v :: vs, h => by rw [sameKeys, sameKey_self v h.1, sameKeys_self vs h.2]; rfl

end

mutual

/-- Whether two values are one key does not depend on their order. -/
theorem sameKey_comm : (v w : Value) → v.sameKey w = w.sameKey v
  | bool _, w => sameKey_comm_of_number? rfl w
  | int _, w => sameKey_comm_of_number? rfl w
  | float _, w => sameKey_comm_of_number? rfl w
  | null, w => by cases w <;> rfl
  | str s, w => by
    cases w with
    | str t => exact Bool.beq_comm
    | _ => rfl
  | bytes s, w => by
    cases w with
    | bytes t => exact Bool.beq_comm
    | _ => rfl
  | date d, w => by
    cases w with
    | date e => exact Bool.beq_comm
    | _ => rfl
  | moment s, w => by
    cases w with
    | moment t => exact same_moment_comm s t
    | _ => rfl
  | tuple vs, w => by
    cases w with
    | tuple ws => exact sameKeys_comm vs ws
    | _ => rfl
  | list _, w => by cases w <;> rfl
  | set _, w => by cases w <;> rfl
  | map _, w => by cases w <;> rfl

/-- Whether two sequences are the same keys does not depend on their order. -/
theorem sameKeys_comm : (vs ws : List Value) → sameKeys vs ws = sameKeys ws vs
  | [], [] => rfl
  | [], _ :: _ => rfl
  | _ :: _, [] => rfl
  | v :: vs, w :: ws => by rw [sameKeys, sameKeys, sameKey_comm v w, sameKeys_comm vs ws]

end

mutual

/-- Values that are one key with a key in turn are one key. -/
theorem sameKey_trans : (u v w : Value) → u.IsKey → v.IsKey → w.IsKey → u.sameKey v = true →
    v.sameKey w = true → u.sameKey w = true
  | bool _, _, _, hu, hv, hw, huv, hvw => sameKey_trans_of_number? rfl hu hv hw huv hvw
  | int _, _, _, hu, hv, hw, huv, hvw => sameKey_trans_of_number? rfl hu hv hw huv hvw
  | float _, _, _, hu, hv, hw, huv, hvw => sameKey_trans_of_number? rfl hu hv hw huv hvw
  | null, v, _, _, _, _, huv, hvw => by
    cases v with
    | null => exact hvw
    | _ => cases huv
  | str s, v, _, _, _, _, huv, hvw => (sameKey_str_iff s v).mp huv ▸ hvw
  | bytes s, v, _, _, _, _, huv, hvw => by
    cases v with
    | bytes t =>
      obtain rfl : s = t := by simpa [sameKey] using huv
      exact hvw
    | _ => cases huv
  | date d, v, _, _, _, _, huv, hvw => by
    cases v with
    | date e =>
      obtain rfl : d = e := by simpa [sameKey] using huv
      exact hvw
    | _ => cases huv
  | moment s, v, w, _, _, _, huv, hvw => by
    cases v with
    | moment t =>
      cases w with
      | moment u => exact same_moment_trans huv hvw
      | _ => cases hvw
    | _ => cases huv
  | tuple us, v, w, hu, hv, hw, huv, hvw => by
    cases v with
    | tuple vs =>
      cases w with
      | tuple ws => exact sameKeys_trans us vs ws hu hv hw huv hvw
      | _ => cases hvw
    | _ => cases huv

/-- Sequences that are the same keys as a sequence in turn are the same keys. -/
theorem sameKeys_trans : (us vs ws : List Value) → AreKeys us → AreKeys vs → AreKeys ws →
    sameKeys us vs = true → sameKeys vs ws = true → sameKeys us ws = true
  | [], [], _, _, _, _, _, hvw => hvw
  | u :: us, v :: vs, w :: ws, hu, hv, hw, huv, hvw => by
    rw [sameKeys, Bool.and_eq_true] at huv hvw ⊢
    exact ⟨sameKey_trans u v w hu.1 hv.1 hw.1 huv.1 hvw.1,
      sameKeys_trans us vs ws hu.2 hv.2 hw.2 huv.2 hvw.2⟩

end

end Value

end RunnerAtlas
