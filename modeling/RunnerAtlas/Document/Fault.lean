import RunnerAtlas.Calendar
import RunnerAtlas.Decimal.Reading

/-!
# Why a document cannot be read

A document whose octets spell no text or whose form is wrong is refused as a whole. A scalar of
the right form may still have no value.

## Main definitions

* `RunnerAtlas.Document.ScalarFault` — why a scalar has no value, with `ScalarFault.message`.
* `RunnerAtlas.Document.Fault` — why a document cannot be read.
-/

set_option autoImplicit false

namespace RunnerAtlas.Document

open RunnerAtlas.Text

/-- Why a scalar has no value. -/
inductive ScalarFault where
  /-- A number is none. -/
  | number (cause : Decimal.NumberError)
  /-- A day or moment does not exist. -/
  | calendar (cause : Calendar.FieldError)
  /-- A number has no characters but a sign. -/
  | emptyNumber
  /-- A word is none of those for truth values. -/
  | noTruth (word : String)
  /-- A text does not have the form of a day or moment. -/
  | noMoment
  /-- A day or moment is no scalar. -/
  | momentNoText
  /-- An escape names a number that is no code point. -/
  | noCodePoint
  /-- An escape names a number beyond the range of machine integers. -/
  | codePointTooLarge
  deriving DecidableEq

/-- The message of a fault. -/
def ScalarFault.message : ScalarFault → String
  | number cause => cause.message
  | calendar cause => cause.message
  | emptyNumber => "string index out of range"
  | noTruth word => Quoted.ofText word
  | noMoment => "'NoneType' object has no attribute 'groupdict'"
  | momentNoText => "expected string or bytes-like object, got 'list'"
  | noCodePoint => "chr() arg not in range(0x110000)"
  | codePointTooLarge => "Python int too large to convert to C int"

/-- Why a document cannot be read. -/
inductive Fault where
  /-- Its octets spell no text. -/
  | undecodable
  /-- Its form is wrong. -/
  | malformed
  /-- One of its scalars has no value. -/
  | scalar (cause : ScalarFault)
  deriving DecidableEq

end RunnerAtlas.Document
