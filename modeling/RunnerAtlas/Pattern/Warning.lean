import RunnerAtlas.Pattern.Basic

/-!
# Warnings about patterns

A set may hold what looks like a set inside it or like an operation on sets, by which later patterns
may mean something else. Such a place is warned of as soon as it is read, so that there is a warning
also if the text turns out to be no pattern further on.

## Main definitions

* `RunnerAtlas.Pattern.Warning` — the warnings, with `Warning.text`.
* `RunnerAtlas.Pattern.opensSet` — whether a set begins at a position.
* `RunnerAtlas.Pattern.memberWarnings` — what is warned of in the members of a set.
* `RunnerAtlas.Pattern.warnings` — what is warned of in a text.
-/

set_option autoImplicit false

namespace RunnerAtlas.Pattern

/-- What a place in a set looks like. -/
inductive Resemblance where
  /-- A set in the set. -/
  | nested
  /-- The difference of two sets. -/
  | difference
  /-- The intersection of two sets. -/
  | intersection
  /-- The symmetric difference of two sets. -/
  | symmetricDifference
  /-- The union of two sets. -/
  | union
  deriving DecidableEq

/-- The words for what a place in a set looks like. -/
def Resemblance.words : Resemblance → String
  | nested => "nested set"
  | difference => "set difference"
  | intersection => "set intersection"
  | symmetricDifference => "set symmetric difference"
  | union => "set union"

/-- The operation of which a mark is half. -/
def Resemblance.ofMark? : Char → Option Resemblance
  | '-' => some difference
  | '&' => some intersection
  | '~' => some symmetricDifference
  | '|' => some union
  | _ => none

/-- A warning of a place in a text. -/
structure Warning where
  /-- What the place looks like. -/
  resemblance : Resemblance
  /-- The number of characters before it. -/
  position : Nat
  deriving DecidableEq

/-- The text of a warning. -/
def Warning.text (w : Warning) : String :=
  s!"Possible {w.resemblance.words} at position {w.position}"

/-- The warning of a mark that has been read as a member, if it is doubled. -/
def markWarnings (l : Lexeme) (r : Reader) : List Warning :=
  match l with
  | .plain c =>
    match Resemblance.ofMark? c with
    | some operation => if r.rest.head? = some l then [⟨operation, r.position - 1⟩] else []
    | none => []
  | _ => []

/-- The warning of a hyphen that is the upper end of a range. -/
def endWarnings (l : Lexeme) (r : Reader) : List Warning :=
  if l = .plain '-' then [⟨.difference, r.position - 2⟩] else []

/-- What is warned of in the members of a set up to its end, the first of which a mark does not
double. A fault ends the set too. -/
def memberWarnings : Nat → Bool → Reader → List Warning
  | 0, _, _ => []
  | fuel + 1, isFirst, r =>
    match next.run r with
    | .ok (some low, r) =>
      if low = .plain ']' ∧ ¬ isFirst then []
      else
        let ofMember := if isFirst then [] else markWarnings low r
        let lower := do
          let first ← readSetItem low
          return (first, ← accept '-')
        ofMember ++ match lower.run r with
          | .ok ((first, true), r) =>
            match next.run r with
            | .ok (some high, r) =>
              if high = .plain ']' then []
              else
                let range := readSetItem high >>= rangeOf low high first
                endWarnings high r ++ match range.run r with
                  | .ok (_, r) => memberWarnings fuel false r
                  | .error _ => []
            | _ => []
          | .ok ((_, false), r) => memberWarnings fuel false r
          | .error _ => []
    | _ => []

/-- What is warned of in a set after its opening bracket. -/
def setWarnings (r : Reader) : List Warning :=
  let ofNested := if r.rest.head? = some (.plain '[') then [⟨.nested, r.position⟩] else []
  ofNested ++ match (accept '^').run r with
    | .ok (_, r) => memberWarnings (r.rest.length + 1) true r
    | .error _ => []

/-- Whether a set begins at a position: of the text up to there, that one has no end. -/
def opensSet (text : List Char) (flags : Flags) (position : Nat) : Bool :=
  match compile (text.take (position + 1)) flags with
  | .error (.malformed .unterminatedSet (some start)) => start == position
  | _ => false

/-- What is warned of in a text, from left to right. -/
def warnings (text : List Char) (flags : Flags) : List Warning :=
  (List.range text.length).flatMap fun position =>
    if text[position]? = some '[' ∧ opensSet text flags position then
      setWarnings { Reader.start (text.drop (position + 1)) flags with position := position + 1 }
    else []

/-- Nothing is warned of in a text without a bracket. -/
theorem warnings_eq_nil {text : List Char} (h : '[' ∉ text) (flags : Flags) :
    warnings text flags = [] := by
  refine List.flatMap_eq_nil_iff.mpr fun position _ => if_neg fun hopens => ?_
  exact h (List.mem_of_getElem? hopens.1)

end RunnerAtlas.Pattern
