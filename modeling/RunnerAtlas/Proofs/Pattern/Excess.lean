import RunnerAtlas.Pattern.Group
import RunnerAtlas.Proofs.Pattern.Digits

set_option relaxedAutoImplicit false
set_option autoImplicit false

/-!
# Texts that are refused for no fault

Four things in the text of a pattern are no fault of its form and yet keep it from being a pattern:
a bound of a repetition that is too large, one with too many digits, an escape by number beyond the
machine integers, and flags of two character sets. They are stated here of the pieces of the text
alone, without its reader.

## Main definitions

* `RunnerAtlas.Pattern.HasBounds` — the bounds of a repetition.
* `RunnerAtlas.Pattern.SetsFlag` — a group that sets a flag for the whole pattern.
* `RunnerAtlas.Pattern.Excess` — the errors of a text that are no faults of its form.
* `RunnerAtlas.Pattern.Expected` — the errors of a text.
-/

namespace RunnerAtlas.Pattern

open Decimal

/-- Pieces have some characters in a row, none of them escaped. -/
def Holds (ls : List Lexeme) (cs : List Char) : Prop := cs.map Lexeme.plain <:+: ls

/-- A repetition has bounds between braces. A single bound is the lower and the upper one. -/
def HasBounds (ls : List Lexeme) (low high : List Char) : Prop :=
  (∀ c ∈ low, c ∈ digits) ∧ (∀ c ∈ high, c ∈ digits) ∧
    (low = high ∧ Holds ls ('\x7b' :: low ++ ['\x7d']) ∨
      Holds ls ('\x7b' :: low ++ ',' :: high ++ ['\x7d']))

/-- A group without a body has one flag and lacks another. -/
def SetsFlag (ls : List Lexeme) (flag other : Char) : Prop :=
  ∃ letters, flag ∈ letters ∧ other ∉ letters ∧ (∀ c ∈ letters, isFlag c = true) ∧
    Holds ls ('(' :: '?' :: letters ++ [')'])

/-- The errors of a text that are no faults of its form, with what they come from. -/
inductive Excess (ls : List Lexeme) : PatternError → Prop
  /-- A bound of a repetition reaches the largest one. -/
  | bound {low high bound : List Char} (h : HasBounds ls low high) (hbound : bound ∈ [low, high])
      (hlarge : maxRepeat ≤ spelled 10 bound) : Excess ls .repetitionTooLarge
  /-- A bound of a repetition has too many digits. -/
  | digits {low high bound : List Char} (h : HasBounds ls low high) (hbound : bound ∈ [low, high])
      (hlong : maxDigits < bound.length) : Excess ls (.number (.tooManyDigits bound.length))
  /-- An escape of eight hexadecimal digits is beyond the machine integers. -/
  | codePoint {code : List Char} (h : .escape 'U' :: code.map Lexeme.plain <:+: ls)
      (hdigits : ∀ c ∈ code, c ∈ hexDigits) (hlength : code.length = 8)
      (hlarge : 0x7fffffff < spelled 16 code) : Excess ls .codePointTooLarge
  /-- Two groups choose different character sets for the whole pattern. -/
  | flags (hascii : SetsFlag ls 'a' 'u') (hunicode : SetsFlag ls 'u' 'a') :
      Excess ls .incompatibleFlags

/-- The errors of a text: its faults and what it has in excess. -/
def Expected (ls : List Lexeme) (e : PatternError) : Prop :=
  (∃ fault position, e = .malformed fault position) ∨ Excess ls e

/-- A fault of form is expected of every text. -/
lemma expected_malformed (ls : List Lexeme) (fault : Fault) (position : Option Nat) :
    Expected ls (.malformed fault position) :=
  .inl ⟨fault, position, rfl⟩

variable {ls : List Lexeme}

/-- Bounds between braces consist of digits. -/
lemma HasBounds.digits {low high bound : List Char} (h : HasBounds ls low high)
    (hbound : bound ∈ [low, high]) : ∀ c ∈ bound, c ∈ digits := by
  obtain ⟨hlow, hhigh, -⟩ := h
  obtain rfl | rfl : bound = low ∨ bound = high := by simpa using hbound
  · exact hlow
  · exact hhigh

end RunnerAtlas.Pattern
