import RunnerAtlas.Proofs.CheckedInventory
import RunnerAtlas.Proofs.Definition
import RunnerAtlas.Proofs.Listing

set_option relaxedAutoImplicit false
set_option autoImplicit false

/-!
# Resolving what was read

A project that was read from a definition and an inventory that was read from a listing fit each
other: no device of the inventory can make matching or resolution fail.

## Main results

* `RunnerAtlas.Resolution.resolve_parsed` — the outcome of resolving what was read.
-/

namespace RunnerAtlas.Resolution

open Journal Outcome

/-- **Resolving what was read.** The devices of an inventory that was read have a name, an
identifier and an identifier of the runtime, and the targets of a project that was read are named by
their keys. The project is resolved against the devices exactly if each of its targets declares
platforms, none of them twice, that can be searched for. If its platforms are refused only as
malformed, it is refused for one of its targets, and likewise matching a platform that is refused
only as malformed fails for the platform alone.

**Proof sketch.** Records make complete devices (`Listing.isComplete_of_mem_devices`), and complete
devices are never at fault (`exists_resolve_eq_ok_iff`, `resolve_error_of_complete`). -/
theorem resolve_parsed {definition listing : Value} {fallback : Option String}
    {availableOnly : Bool} {project : Project} {devices : List Device}
    (hproject : Definition.project definition fallback = .ok project)
    (hdevices : Listing.devices listing availableOnly = .ok devices) (options : MatchOptions) :
    (∀ d ∈ devices, d.name ≠ "" ∧ d.udid ≠ "" ∧ d.runtimeIdentifier ≠ "") ∧
      (∀ t ∈ project.targets.toList, t.2.name = t.1) ∧
      ((∃ es, (resolve project (.list (devices.map Device.candidate)) options).1.outcome = .ok es) ↔
        ∀ t ∈ project.targets.toList, t.2.platforms ≠ [] ∧ t.2.platforms.Nodup ∧
          ∀ p ∈ t.2.platforms, ∃ compiled, Platform.compile p options = .ok compiled) ∧
      ((∀ t ∈ project.targets.toList, ∀ p ∈ t.2.platforms,
          Platform.RefusedOnlyAsMalformed p options) →
        ∀ err, (resolve project (.list (devices.map Device.candidate)) options).1.outcome =
            .error err → ∃ t ∈ project.targets.toList, ∃ fault, err = .target t.1 fault) ∧
      ∀ platform, Platform.RefusedOnlyAsMalformed platform options →
        ∀ err, (Matching.runners platform (devices.map Device.candidate) options).outcome =
            .error err →
          ∃ e, err = .platform e ∧ e.platform = platform ∧ e.isMalformed = true := by
  have hcomplete := Listing.isComplete_of_mem_devices hdevices
  refine ⟨hcomplete, Definition.name_eq_key_of_mem_project hproject,
    exists_resolve_eq_ok_iff hcomplete rfl project options, ?_, ?_⟩
  · intro hp err herr
    obtain ⟨t, ht, ⟨fault, hfault, -⟩ | ⟨p, hmem, e, he, hno, -⟩⟩ :=
      resolve_error_of_complete hcomplete rfl herr
    · exact ⟨t, ht, fault, hfault⟩
    · rw [hp t ht p hmem e he] at hno; cases hno
  · intro platform hp err herr
    obtain ⟨e, he, rfl⟩ :=
      (Matching.outcome_candidates_eq_error_iff hcomplete platform options err).mp herr
    exact ⟨e, rfl, Platform.platform_of_compile_error he, hp e he⟩

/-- A project with a number as key and a malformed platform, and a device that is named by octets
and listed under a number: the resolution is refused for the target, and without that platform it
succeeds. -/
theorem resolve_parsed_odd_kinds :
    ∃ project devices,
      Definition.project (.map [(.str "targets", .map [(.int 1, .map [(.str "platform",
        .list [.str "ios", .str "("])])])]) none = .ok project ∧
      Listing.devices (.map [(.str "devices", .map [(.int 17, .list [.map [
        (.str "name", .bytes [0x41]), (.str "udid", .str "A1")]])])]) true = .ok devices ∧
      (∀ err, (resolve project (.list (devices.map Device.candidate)) {}).1.outcome =
          .error err → ∃ fault, err = .target "1" fault) ∧
      (¬ ∃ es, (resolve project (.list (devices.map Device.candidate)) {}).1.outcome = .ok es) ∧
      ∀ err, (Matching.runners "(" (devices.map Device.candidate) {}).outcome = .error err →
        ∃ e, err = .platform e ∧ e.platform = "(" := by
  have hproject : Definition.project (.map [(.str "targets", .map [(.int 1, .map [(.str "platform",
      .list [.str "ios", .str "("])])])]) none =
      .ok ⟨none, { toList := [("1", ⟨"1", ["ios", "("]⟩)] }⟩ := rfl
  have hdevices : Listing.devices (.map [(.str "devices", .map [(.int 17, .list [.map [
      (.str "name", .bytes [0x41]), (.str "udid", .str "A1")]])])]) true =
      .ok [⟨"A", "A1", "17", none, true⟩] := rfl
  have hios : ∃ compiled, Platform.compile "ios" {} = .ok compiled := ⟨_, rfl⟩
  have hopen : Platform.compile "(" {} =
      .error ⟨"(", .malformed .unterminatedGroup (some 0)⟩ := rfl
  have honly : ∀ p ∈ ["ios", "("], Platform.RefusedOnlyAsMalformed p {} := by
    intro p hp e he
    rcases List.mem_pair.mp hp with rfl | rfl
    · obtain ⟨compiled, hc⟩ := hios
      rw [hc] at he; cases he
    · rw [hopen] at he; cases he; rfl
  obtain ⟨-, -, hok, herr, hmatch⟩ := resolve_parsed hproject hdevices {}
  refine ⟨_, _, hproject, hdevices, ?_, ?_, ?_⟩
  · intro err h
    obtain ⟨t, ht, fault, rfl⟩ := herr (by simpa using honly) err h
    obtain rfl := List.mem_singleton.mp ht
    exact ⟨fault, rfl⟩
  · intro h
    obtain ⟨-, -, hall⟩ := hok.mp h _ (List.mem_singleton_self _)
    obtain ⟨compiled, hc⟩ := hall "(" (by simp)
    rw [hopen] at hc; cases hc
  · intro err h
    obtain ⟨e, rfl, he, -⟩ := hmatch "(" (honly "(" (by simp)) err h
    exact ⟨e, rfl, he⟩

end RunnerAtlas.Resolution
