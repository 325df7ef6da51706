import RunnerAtlas.Pattern.Search
import RunnerAtlas.Pattern.Warning

/-!
# Platforms

A platform is written as a pattern that is searched for in the identifiers of runtimes, or as a
text that has to occur in them literally.

## Main definitions

* `RunnerAtlas.MatchOptions` — how platforms are read.
* `RunnerAtlas.Platform.escaped` — a pattern that matches a text literally.
* `RunnerAtlas.Platform.Compiled` — a platform ready for searching, made by `Platform.compile`.
* `RunnerAtlas.Platform.warnings` — what is warned of when a platform is made ready.
* `RunnerAtlas.PlatformError` — why a text is no platform.
-/

set_option autoImplicit false

namespace RunnerAtlas

open RunnerAtlas.Text

/-- How platforms are read. -/
structure MatchOptions where
  /-- Letter case is ignored. -/
  ignoreCase : Bool := false
  /-- Platforms are literal texts. -/
  literal : Bool := false
  deriving DecidableEq

/-- Why a text is no platform. -/
structure PlatformError where
  /-- The text. -/
  platform : String
  /-- What is wrong with it as a pattern. -/
  cause : Pattern.PatternError
  deriving DecidableEq

/-- Whether the text has a fault as a pattern, and not only too large a number or flags that
exclude each other. -/
def PlatformError.isMalformed (e : PlatformError) : Bool :=
  match e.cause with
  | .malformed _ _ => true
  | _ => false

/-- The message of an error. -/
def PlatformError.message (e : PlatformError) : String :=
  let reason := e.cause.message e.platform
  if e.isMalformed then s!"Invalid platform pattern {Quoted.ofText e.platform}: {reason}"
  else reason

namespace Platform

/-- The characters that have a meaning of their own in some pattern. -/
def specialChars : List Char :=
  "()[]?*+-|^$.&~# ".toList ++ ['\x7b', '\x7d', '\\', '\t', '\n', '\r', '\x0b', '\x0c']

/-- A pattern that matches a text literally. -/
def escaped (cs : List Char) : List Char :=
  cs.flatMap fun c => if specialChars.contains c then ['\\', c] else [c]

/-- The text of the pattern that a platform stands for. -/
def source (platform : String) (options : MatchOptions) : String :=
  if options.literal then String.ofList (escaped platform.toList) else platform

/-- A platform ready for searching. -/
structure Compiled where
  /-- The text of the pattern. -/
  source : String
  /-- The pattern. -/
  pattern : Pattern.Compiled

/-- A platform made ready for searching. -/
def compile (platform : String) (options : MatchOptions) : Except PlatformError Compiled :=
  let source := source platform options
  match Pattern.compile source.toList { ignoreCase := options.ignoreCase } with
  | .ok pattern => .ok ⟨source, pattern⟩
  | .error cause => .error ⟨platform, cause⟩

/-- What is warned of when a platform is made ready, be it a pattern or not. -/
def warnings (platform : String) (options : MatchOptions) : List String :=
  (Pattern.warnings (source platform options).toList
    { ignoreCase := options.ignoreCase }).map Pattern.Warning.text

/-- A platform is made ready with the pattern that its text is. -/
theorem compile_eq_ok_iff {platform : String} {options : MatchOptions} {p : Compiled} :
    compile platform options = .ok p ↔
      ∃ pattern, Pattern.compile (source platform options).toList
          { ignoreCase := options.ignoreCase } = .ok pattern ∧
        p = ⟨source platform options, pattern⟩ := by
  unfold compile
  dsimp only
  split
  · rename_i pattern hpattern
    rw [hpattern]
    constructor
    · rintro ⟨⟩
      exact ⟨pattern, rfl, rfl⟩
    · rintro ⟨_, ⟨⟩, rfl⟩
      rfl
  · rename_i hpattern
    rw [hpattern]
    exact iff_of_false nofun nofun

/-- Whether a platform occurs in the identifier of a runtime. -/
def Compiled.matchesIn (p : Compiled) (identifier : String) : Bool :=
  p.pattern.matchesIn identifier.toList

end Platform

end RunnerAtlas
