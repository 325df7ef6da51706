/-!
# UTF-8

Octet sequences of UTF-8, read strictly: a character has one spelling, no surrogate has any, and
a sequence that breaks off or holds a wrong octet makes the whole text unreadable.

## Main definitions

* `RunnerAtlas.Text.Utf8.decode?` — the text that octets spell, if they spell one.
* `RunnerAtlas.Text.Utf8.encode` — the octets of a text.

## Main results

* `RunnerAtlas.Text.Utf8.decode?_encode` — the octets of a text spell it.
-/

set_option autoImplicit false

namespace RunnerAtlas.Text.Utf8

/-- The six payload bits of a continuation octet. -/
private def tail? (octet : UInt8) : Option Nat :=
  if 0x80 ≤ octet ∧ octet ≤ 0xbf then some (octet.toNat - 0x80) else none

/-- The text that octets spell, if they spell one. -/
def decode? : List UInt8 → Option (List Char)
  | [] => some []
  | a :: rest =>
    if a < 0x80 then (decode? rest).map (Char.ofNat a.toNat :: ·)
    else if a < 0xc2 then none
    else if a < 0xe0 then
      match rest with
      | b :: rest => do
        let b ← tail? b
        let text ← decode? rest
        pure (Char.ofNat ((a.toNat - 0xc0) * 0x40 + b) :: text)
      | _ => none
    else if a < 0xf0 then
      match rest with
      | b :: c :: rest => do
        let b ← tail? b
        let c ← tail? c
        let code := ((a.toNat - 0xe0) * 0x40 + b) * 0x40 + c
        if code < 0x800 || (0xd800 ≤ code && code < 0xe000) then none
        else
          let text ← decode? rest
          pure (Char.ofNat code :: text)
      | _ => none
    else if a < 0xf5 then
      match rest with
      | b :: c :: d :: rest => do
        let b ← tail? b
        let c ← tail? c
        let d ← tail? d
        let code := (((a.toNat - 0xf0) * 0x40 + b) * 0x40 + c) * 0x40 + d
        if code < 0x10000 || 0x10ffff < code then none
        else
          let text ← decode? rest
          pure (Char.ofNat code :: text)
      | _ => none
    else none

/-- The octets of one character. -/
def encodeChar (c : Char) : List UInt8 :=
  let code := c.toNat
  let lead (offset shift : Nat) : UInt8 := UInt8.ofNat (offset + code / Nat.pow 2 shift)
  let tail (shift : Nat) : UInt8 := UInt8.ofNat (0x80 + code / Nat.pow 2 shift % 0x40)
  if code < 0x80 then [UInt8.ofNat code]
  else if code < 0x800 then [lead 0xc0 6, tail 0]
  else if code < 0x10000 then [lead 0xe0 12, tail 6, tail 0]
  else [lead 0xf0 18, tail 12, tail 6, tail 0]

/-- The octets of a text. -/
def encode (cs : List Char) : List UInt8 := cs.flatMap encodeChar

/-- A continuation octet has the payload bits that were put into it. -/
private theorem tail?_ofNat {payload : Nat} (h : payload < 0x40) :
    tail? (UInt8.ofNat (0x80 + payload)) = some payload := by
  have hvalue : (UInt8.ofNat (0x80 + payload)).toNat = 0x80 + payload := by
    rw [UInt8.toNat_ofNat']
    omega
  have hrange : 0x80 ≤ UInt8.ofNat (0x80 + payload) ∧ UInt8.ofNat (0x80 + payload) ≤ 0xbf := by
    rw [UInt8.le_iff_toNat_le, UInt8.le_iff_toNat_le, hvalue]
    constructor
    · exact Nat.le_add_right _ _
    · show 0x80 + payload ≤ 0xbf
      omega
  simp only [tail?, if_pos hrange, hvalue, Nat.add_sub_cancel_left]

/-- The code of a character is that of no surrogate and within the range of code points. -/
theorem code_range (c : Char) :
    c.toNat < 0xd800 ∨ 0xe000 ≤ c.toNat ∧ c.toNat ≤ 0x10ffff := by
  have h := c.valid
  simp only [UInt32.isValidChar, Nat.isValidChar] at h
  have : c.val.toNat = c.toNat := rfl
  omega

/-- An octet has the number that it is made of, and is compared as that number. -/
private theorem ofNat_facts {n : Nat} (h : n < 0x100) :
    (UInt8.ofNat n).toNat = n ∧ ∀ bound : UInt8, (UInt8.ofNat n < bound) = (n < bound.toNat) := by
  have hvalue : (UInt8.ofNat n).toNat = n := by rw [UInt8.toNat_ofNat', Nat.mod_eq_of_lt h]
  exact ⟨hvalue, fun bound => by rw [UInt8.lt_iff_toNat_lt, hvalue]⟩

/-- The octets of a character before others spell it before what these spell. -/
theorem decode?_encodeChar (c : Char) (rest : List UInt8) :
    decode? (encodeChar c ++ rest) = (decode? rest).map (c :: ·) := by
  have hrange := code_range c
  have hchar : Char.ofNat c.toNat = c := Char.ofNat_toNat c
  have hpayload : ∀ n : Nat, tail? (UInt8.ofNat (0x80 + n % 0x40)) = some (n % 0x40) :=
    fun n => tail?_ofNat (Nat.mod_lt n (by decide))
  have hmap : ∀ x : Option (List Char), (x.bind fun text => some (c :: text)) = x.map (c :: ·) := by
    rintro (_ | text) <;> rfl
  have hpow : Nat.pow 2 0 = 1 ∧ Nat.pow 2 6 = 0x40 ∧ Nat.pow 2 12 = 0x1000 ∧
      Nat.pow 2 18 = 0x40000 := ⟨rfl, rfl, rfl, rfl⟩
  unfold encodeChar
  simp only [hpow, Nat.div_one]
  generalize c.toNat = code at hrange hchar
  by_cases h7 : code < 0x80
  · obtain ⟨hvalue, hlt⟩ := ofNat_facts (show code < 0x100 by omega)
    rw [if_pos h7, List.singleton_append, decode?.eq_def]
    simp only [hlt, hvalue, UInt8.reduceToNat, if_pos h7, hchar]
  by_cases h11 : code < 0x800
  · obtain ⟨hvalue, hlt⟩ := ofNat_facts (show 0xc0 + code / 0x40 < 0x100 by omega)
    have hcode : (0xc0 + code / 0x40 - 0xc0) * 0x40 + code % 0x40 = code := by omega
    rw [if_neg h7, if_pos h11, List.cons_append, List.singleton_append, decode?.eq_def]
    simp only [hlt, hvalue, UInt8.reduceToNat, hpayload, bind, Option.bind_some, pure, hcode, hchar,
      hmap]
    rw [if_neg (by omega), if_neg (by omega), if_pos (by omega)]
  by_cases h16 : code < 0x10000
  · obtain ⟨hvalue, hlt⟩ := ofNat_facts (show 0xe0 + code / 0x1000 < 0x100 by omega)
    have hcode : ((0xe0 + code / 0x1000 - 0xe0) * 0x40 + code / 0x40 % 0x40) * 0x40 +
        code % 0x40 = code := by omega
    rw [if_neg h7, if_neg h11, if_pos h16, List.cons_append, List.cons_append,
      List.singleton_append, decode?.eq_def]
    simp only [hlt, hvalue, UInt8.reduceToNat, hpayload, bind, Option.bind_some, pure, hcode, hchar,
      hmap]
    rw [if_neg (by omega), if_neg (by omega), if_neg (by omega), if_pos (by omega),
      if_neg (by simp; omega)]
  · obtain ⟨hvalue, hlt⟩ := ofNat_facts (show 0xf0 + code / 0x40000 < 0x100 by omega)
    have hcode : (((0xf0 + code / 0x40000 - 0xf0) * 0x40 + code / 0x1000 % 0x40) * 0x40 +
        code / 0x40 % 0x40) * 0x40 + code % 0x40 = code := by omega
    rw [if_neg h7, if_neg h11, if_neg h16, List.cons_append, List.cons_append, List.cons_append,
      List.singleton_append, decode?.eq_def]
    simp only [hlt, hvalue, UInt8.reduceToNat, hpayload, bind, Option.bind_some, pure, hcode, hchar,
      hmap]
    rw [if_neg (by omega), if_neg (by omega), if_neg (by omega), if_neg (by omega),
      if_pos (by omega), if_neg (by simp; omega)]

/-- The octets of a text spell it. -/
theorem decode?_encode (cs : List Char) : decode? (encode cs) = some cs := by
  induction cs with
  | nil => rfl
  | cons c cs ih =>
    show decode? (encodeChar c ++ encode cs) = _
    rw [decode?_encodeChar, ih]
    rfl

end RunnerAtlas.Text.Utf8
