import RunnerAtlas.Device.Listing
import RunnerAtlas.Proofs.Checks
import RunnerAtlas.Proofs.Mappings

set_option relaxedAutoImplicit false
set_option autoImplicit false

/-!
# The two forms of an inventory

A listing by runtimes says the same as the flat list of its records in which each record names its
runtime itself. The records of all runtimes are numbered through, so that even the positions of
malformed records agree. A record can name its runtime only if the key of the runtime has a text.

## Main definitions

* `RunnerAtlas.Listing.standalone` — a record that names the runtime under which it was listed.
* `RunnerAtlas.Listing.standalones` — the records of all runtimes, each made to stand alone.
* `RunnerAtlas.Listing.KeysShowable` — runtimes of which each that has a record can be named.

## Main results

* `RunnerAtlas.Listing.runtimesFrom_eq_devicesFrom` — the loop over runtimes is that over records.
* `RunnerAtlas.Listing.devices_of_runtimes` — the two forms have the same outcome.
* `RunnerAtlas.Listing.isComplete_of_mem_devices` — the devices of an inventory are complete.
-/

namespace RunnerAtlas.Listing

open Outcome Validation

/-! ### Records that stand alone -/

/-- The fields of a record that was listed under a runtime, for a record that stands alone: they
name the runtime, and the availability is given in the first of its two spellings. -/
def standaloneFields (runtime : Value) (fields : Mapping) : Mapping :=
  let placed := fields.put (.str "runtime_identifier") (.str runtime.display)
  if (Mapping.find? fields "is_available").isSome then placed
  else Mapping.rename placed "isAvailable" "is_available"

/-- A record that was listed under a runtime, made to stand alone. What is no record stays as it
is. -/
def standalone (runtime : Value) : Value → Value
  | .map fields => .map (standaloneFields runtime fields)
  | v => v

/-- The records of runtimes in order, each made to stand alone. -/
def standalones (runs : List (Value × List Value)) : List Value :=
  runs.flatMap fun run => run.2.map (standalone run.1)

/-- Runtimes with the lists of their records, as the entries of a listing. -/
def runtimeEntries (runs : List (Value × List Value)) : Mapping :=
  runs.map fun run => (run.1, .list run.2)

/-- The key of each runtime under which a record is listed has a text. -/
def KeysShowable (runs : List (Value × List Value)) : Prop :=
  ∀ run ∈ runs, run.2 ≠ [] → run.1.isShowable = true

/-- A record that stands alone gives a device the fields that the listed one gives it. -/
lemma fieldsOf_standaloneFields (runtime : Value) (fields : Mapping) :
    fieldsOf (standaloneFields runtime fields) none = fieldsOf fields (some runtime.display) := by
  have hput : ∀ {name : String}, name ≠ "runtime_identifier" →
      Mapping.find? (fields.put (.str "runtime_identifier") (.str runtime.display)) name =
        Mapping.find? fields name := fun h => Mapping.find?_put_of_ne fields h _
  have hself := Mapping.find?_put_self fields "runtime_identifier" (.str runtime.display)
  cases havailable : Mapping.find? fields "is_available" with
  | some v =>
    simp [fieldsOf, standaloneFields, Mapping.findD, havailable, hput, hself]
  | none =>
    have hnone := (hput (by simp)).trans havailable
    -- the renamed spelling is found first, and the other one not at all
    have hnew : Mapping.find? (standaloneFields runtime fields) "is_available" =
        Mapping.find? fields "isAvailable" := by
      rw [standaloneFields, havailable]
      exact (Mapping.find?_rename_new hnone).trans (hput (by simp))
    have hold : Mapping.find? (standaloneFields runtime fields) "isAvailable" = none := by
      rw [standaloneFields, havailable]
      exact Mapping.find?_rename_old _ (by simp)
    simp only [fieldsOf, Mapping.findD, hnew, hold]
    simp [standaloneFields, havailable, Mapping.find?_rename_of_ne, hput, hself]

/-- A record keeps its name when it is made to stand alone. -/
lemma findD_name_standaloneFields (runtime : Value) (fields : Mapping) :
    Mapping.findD (standaloneFields runtime fields) "name" = Mapping.findD fields "name" := by
  have h := congrArg (fun fs => fs[0]?.map Prod.snd) (fieldsOf_standaloneFields runtime fields)
  simpa [fieldsOf] using h

/-- A record that stands alone has the same outcome as the one that is listed under its runtime. -/
lemma device_standalone (runtime record : Value) (index : Nat) :
    device (standalone runtime record) index none =
      device record index (some runtime.display) := by
  cases record with
  | map fields =>
    simp only [standalone, device, fieldsOf_standaloneFields, findD_name_standaloneFields]
  | _ => rfl

/-! ### Loops over records -/

/-- Records that stand alone have the same outcome as those listed under one runtime. -/
lemma devicesFrom_map_standalone (runtime : Value) (index : Nat) (records : List Value) :
    devicesFrom none index (records.map (standalone runtime)) =
      devicesFrom (some runtime.display) index records := by
  induction records generalizing index with
  | nil => rfl
  | cons record rest ih => simp only [List.map_cons, devicesFrom, device_standalone, ih]

/-- Every record makes one device. -/
lemma length_of_devicesFrom {runtime : Option String} {index : Nat} {records : List Value}
    {ds : List Device} (h : devicesFrom runtime index records = .ok ds) :
    ds.length = records.length := by
  induction records generalizing index ds with
  | nil => cases h; rfl
  | cons record rest ih =>
    rw [devicesFrom, bind_eq_ok_iff] at h
    obtain ⟨d, -, h⟩ := h
    obtain ⟨others, ho, h⟩ := (bind_eq_ok_iff _ _ _).mp h
    cases h
    simp [ih ho]

/-- Records after others are numbered on from these. -/
lemma devicesFrom_append (runtime : Option String) (index : Nat) (before after : List Value) :
    devicesFrom runtime index (before ++ after) = (do
      let first ← devicesFrom runtime index before
      let others ← devicesFrom runtime (index + before.length) after
      pure (first ++ others)) := by
  induction before generalizing index with
  | nil =>
    show _ = devicesFrom runtime index after >>= fun others => pure ([] ++ others)
    simp
  | cons record rest ih =>
    have hindex : index + 1 + rest.length = index + (record :: rest).length := by
      simp only [List.length_cons]; omega
    simp only [List.cons_append, devicesFrom, ih, hindex, bind_assoc, pure_bind]

/-- The records of a runtime are gone through as those that stand alone, if it can be named. -/
lemma runtimeDevices_eq {runtime : Value} {records : List Value}
    (h : records ≠ [] → runtime.isShowable = true) (index : Nat) :
    runtimeDevices runtime index records =
      devicesFrom none index (records.map (standalone runtime)) := by
  rw [devicesFrom_map_standalone, runtimeDevices, if_pos]
  cases records with
  | nil => rfl
  | cons record rest => simpa using h (by simp)

/-- The loop over runtimes goes through their records as that over records does, and then through
what else is listed, which is numbered on from the records.

**Proof sketch.** Induction on the runtimes. The loop over the first one has the outcome of its
records made to stand alone, and if it succeeds it has a device for each of them, so the next
runtime is numbered on from as many records. -/
lemma runtimesFrom_append {runs : List (Value × List Value)} (h : KeysShowable runs) (index : Nat)
    (rest : Mapping) :
    runtimesFrom index (runtimeEntries runs ++ rest) = (do
      let first ← devicesFrom none index (standalones runs)
      let others ← runtimesFrom (index + (standalones runs).length) rest
      pure (first ++ others)) := by
  induction runs generalizing index with
  | nil =>
    show _ = runtimesFrom index rest >>= fun others => pure ([] ++ others)
    simp [runtimeEntries]
  | cons run runs ih =>
    obtain ⟨runtime, records⟩ := run
    obtain ⟨hfirst, hruns⟩ := List.forall_mem_cons.mp h
    have hlength : (standalones ((runtime, records) :: runs)).length =
        records.length + (standalones runs).length := by simp [standalones]
    rw [hlength]
    show runtimesFrom index ((runtime, .list records) :: (runtimeEntries runs ++ rest)) =
      devicesFrom none index (records.map (standalone runtime) ++ standalones runs) >>= _
    rw [runtimesFrom, devicesFrom_append, runtimeDevices_eq hfirst, List.length_map]
    cases h : devicesFrom none index (records.map (standalone runtime)) with
    | error e => rfl
    | ok ds =>
      show (runtimesFrom (index + ds.length) _ >>= fun others => pure (ds ++ others)) = _
      rw [length_of_devicesFrom h, List.length_map, ih hruns, Nat.add_assoc]
      simp only [bind_assoc, pure_bind, List.append_assoc]
      rfl

/-- **The loop over runtimes** has the outcome of the loop over all their records, each made to
stand alone, if the runtimes can be named. -/
theorem runtimesFrom_eq_devicesFrom {runs : List (Value × List Value)} (h : KeysShowable runs)
    (index : Nat) :
    runtimesFrom index (runtimeEntries runs) = devicesFrom none index (standalones runs) := by
  have happend := runtimesFrom_append h index []
  rw [List.append_nil] at happend
  rw [happend]
  cases devicesFrom none index (standalones runs) with
  | error e => rfl
  | ok ds =>
    show Except.ok (ds ++ []) = Except.ok ds
    rw [List.append_nil]

/-- A runtime without a list ends the loop over runtimes. -/
lemma runtimesFrom_cons_of_not_list (index : Nat) (runtime : Value) {v : Value}
    (h : ∀ records, v ≠ .list records) (rest : Mapping) :
    runtimesFrom index ((runtime, v) :: rest) =
      .error (.of index .null (.runtimeNoList runtime)) := by
  cases v with
  | list records => exact absurd rfl (h records)
  | _ => rfl

/-- A runtime with records that cannot be named ends the loop over runtimes. -/
lemma runtimesFrom_cons_of_not_showable (index : Nat) {runtime : Value} {records : List Value}
    (hrecords : records ≠ []) (h : runtime.isShowable = false) (rest : Mapping) :
    runtimesFrom index ((runtime, .list records) :: rest) = .error .unshowable := by
  rw [runtimesFrom, runtimeDevices, if_neg (by simp [hrecords, h])]
  rfl

/-! ### The outcome of a listing -/

/-- What is listed under a runtime is a record that fits the model of a device. -/
def IsRecordOf (runtime record : Value) : Prop :=
  ∃ fields d, record = .map fields ∧
    Device.ofRecord (fieldsOf fields (some runtime.display)) = .ok d

/-- Records that fit the model of a device make devices. -/
lemma exists_devicesFrom_standalones {runs : List (Value × List Value)}
    (h : ∀ run ∈ runs, ∀ record ∈ run.2, IsRecordOf run.1 record) (index : Nat) :
    ∃ ds, devicesFrom none index (standalones runs) = .ok ds := by
  have hall : ∀ record ∈ standalones runs, ∃ d, ∀ index, device record index none = .ok d := by
    intro record hmem
    obtain ⟨run, hrun, hmem⟩ := List.mem_flatMap.mp hmem
    obtain ⟨_, hlisted, rfl⟩ := List.mem_map.mp hmem
    obtain ⟨fields, d, rfl, hd⟩ := h run hrun _ hlisted
    exact ⟨d, fun index => by rw [device_standalone, device, hd]; rfl⟩
  generalize standalones runs = records at hall
  induction records generalizing index with
  | nil => exact ⟨[], rfl⟩
  | cons record rest ih =>
    obtain ⟨⟨d, hd⟩, hrest⟩ := List.forall_mem_cons.mp hall
    obtain ⟨others, ho⟩ := ih (index + 1) hrest
    exact ⟨d :: others, by rw [devicesFrom, hd, ho]; rfl⟩

/-- What ends the loop over runtimes after runtimes that can be named is preceded by the flat list
of their records. -/
lemma devices_of_ended {entries : Mapping} {runs : List (Value × List Value)} {rest : Mapping}
    {e : InventoryError} (hkeys : KeysShowable runs)
    (h : Mapping.find? entries "devices" = some (.map (runtimeEntries runs ++ rest)))
    (hrest : runtimesFrom (standalones runs).length rest = .error e) (availableOnly : Bool) :
    devices (.map entries) availableOnly =
      devices (.list (standalones runs)) availableOnly >>= fun _ => .error e := by
  simp only [devices, allDevices, h, runtimesFrom_append hkeys, Nat.zero_add, hrest]
  cases devicesFrom none 0 (standalones runs) <;> rfl

/-- **The two forms of an inventory.** A listing by runtimes whose keys have texts has the outcome
of the flat list of its records, each of which names its runtime itself and gives its availability
in the first spelling: the same devices or the same error, at the same position. If a runtime has no
list and the records before it are all accepted, the error is placed after these, and names the
runtime if its key has a text. A key without a text under which a record is listed ends the reading
after the records before it.

**Proof sketch.** The loop over runtimes is the loop over their records
(`runtimesFrom_eq_devicesFrom`). Where it comes to a runtime without a list it has a device for each
record before it, so that the number of records is the position. -/
theorem devices_of_runtimes (entries : Mapping) (runs : List (Value × List Value))
    (availableOnly : Bool) (hkeys : KeysShowable runs) :
    (Mapping.find? entries "devices" = some (.map (runtimeEntries runs)) →
      devices (.map entries) availableOnly = devices (.list (standalones runs)) availableOnly) ∧
    (∀ (runtime v : Value) (rest : Mapping), (∀ records, v ≠ .list records) →
      Mapping.find? entries "devices" = some (.map (runtimeEntries runs ++ (runtime, v) :: rest)) →
      (∀ run ∈ runs, ∀ record ∈ run.2, IsRecordOf run.1 record) →
      let position := (runs.flatMap Prod.snd).length
      devices (.map entries) availableOnly =
          .error (.of position .null (.runtimeNoList runtime)) ∧
        ((Value.int position).isShowable = true → runtime.isShowable = true →
          devices (.map entries) availableOnly =
            .error (.malformed position .null (.runtimeNoList runtime)))) ∧
    ∀ (runtime : Value) (records : List Value) (rest : Mapping), records ≠ [] →
      runtime.isShowable = false →
      Mapping.find? entries "devices" =
        some (.map (runtimeEntries runs ++ (runtime, .list records) :: rest)) →
      devices (.map entries) availableOnly =
        devices (.list (standalones runs)) availableOnly >>= fun _ => .error .unshowable := by
  refine ⟨fun h => ?_, fun runtime v rest hv h hrecords => ?_,
    fun runtime records rest hne hruntime h => ?_⟩
  · simp only [devices, allDevices, h, runtimesFrom_eq_devicesFrom hkeys]
  · intro position
    obtain ⟨ds, hds⟩ := exists_devicesFrom_standalones hrecords 0
    have hlength : (standalones runs).length = position := by
      simp [standalones, position, List.length_flatMap]
    have herror : devices (.map entries) availableOnly =
        .error (.of position .null (.runtimeNoList runtime)) := by
      rw [devices_of_ended hkeys h (runtimesFrom_cons_of_not_list _ runtime hv rest), hlength]
      simp only [devices, allDevices, hds]
      rfl
    refine ⟨herror, fun hposition hruntime => ?_⟩
    rw [herror]
    exact congrArg Except.error (InventoryError.of_eq_malformed hposition rfl hruntime)
  · exact devices_of_ended hkeys h (runtimesFrom_cons_of_not_showable _ hne hruntime rest) _

/-- A runtime whose key is a number, with a record in the second spelling of its availability, and
one with a record that names another runtime: the devices are those of the flat list, of which one
is available. A third runtime without a list is refused at the position after the two records. -/
theorem devices_of_runtimes_numeric_key :
    let runs : List (Value × List Value) :=
      [(.int 17, [.map [(.str "name", .str "iPhone"), (.str "udid", .str "P"),
          (.str "isAvailable", .bool false)]]),
        (.str "tvOS", [.map [(.str "runtime_identifier", .str "mine"), (.str "name", .str "TV"),
          (.str "udid", .str "T")]])]
    devices (.map [(.str "devices", .map (runtimeEntries runs))]) true =
        devices (.list (standalones runs)) true ∧
      devices (.list (standalones runs)) true = .ok [⟨"TV", "T", "tvOS", none, true⟩] ∧
      devices (.map [(.str "devices", .map (runtimeEntries runs ++ [(.str "watchOS", .null)]))])
        true = .error (.malformed 2 .null (.runtimeNoList (.str "watchOS"))) := by
  intro runs
  have hkeys : KeysShowable runs := by
    intro run hrun _
    have hcases : run = runs[0] ∨ run = runs[1] := by simpa [runs] using hrun
    rcases hcases with rfl | rfl <;> rfl
  refine ⟨(devices_of_runtimes _ runs true hkeys).1 rfl, rfl, ?_⟩
  refine ((devices_of_runtimes _ runs true hkeys).2.1 _ _ [] (by simp) rfl ?_).2 (by decide) rfl
  intro run hrun record hrecord
  have hcases : run = runs[0] ∨ run = runs[1] := by simpa [runs] using hrun
  rcases hcases with rfl | rfl
  · rw [List.mem_singleton.mp hrecord]
    exact ⟨_, ⟨"iPhone", "P", "17", none, false⟩, rfl, rfl⟩
  · rw [List.mem_singleton.mp hrecord]
    exact ⟨_, ⟨"TV", "T", "tvOS", none, true⟩, rfl, rfl⟩

/-- A runtime whose key is too large a number is not reported at its position, be there a list of
records for it or none. -/
theorem devices_of_runtimes_fails :
    let n : Value := .int (Int.pow 16 4000)
    let listing (v : Value) : Value := .map [(.str "devices", .map [(n, v)])]
    devices (listing (.int 5)) false = .error .unshowable ∧
      devices (listing (.list [.int 5])) false = .error .unshowable := by
  intro n listing
  have hshow : n.isShowable = false := by decide +kernel
  constructor
  · show Except.error (InventoryError.of 0 .null (.runtimeNoList n)) = _
    simp [InventoryError.of, InventoryFault.isShowable, hshow]
  · have hkeys : KeysShowable [] := by simp [KeysShowable]
    have hruntimes := runtimesFrom_cons_of_not_showable 0 (List.cons_ne_nil (.int 5) []) hshow []
    have hentry : Mapping.find? [(.str "devices", .map [(n, .list [.int 5])])] "devices" =
        some (.map (runtimeEntries [] ++ [(n, .list [.int 5])])) := rfl
    exact devices_of_ended hkeys hentry hruntimes false

/-! ### The devices of a listing -/

/-- The device of a record is complete. -/
lemma isComplete_of_device {record : Value} {index : Nat} {runtime : Option String} {d : Device}
    (h : device record index runtime = .ok d) : d.IsComplete := by
  cases record with
  | map fields => exact Device.isComplete_of_ofRecord ((mapError_eq_ok_iff _ _ _).mp h)
  | _ => cases h

/-- The devices of records are complete. -/
lemma isComplete_of_mem_devicesFrom {runtime : Option String} {index : Nat} {records : List Value}
    {ds : List Device} (h : devicesFrom runtime index records = .ok ds) :
    ∀ d ∈ ds, d.IsComplete := by
  induction records generalizing index ds with
  | nil => cases h; simp
  | cons record rest ih =>
    rw [devicesFrom, bind_eq_ok_iff] at h
    obtain ⟨d, hd, h⟩ := h
    obtain ⟨others, ho, h⟩ := (bind_eq_ok_iff _ _ _).mp h
    cases h
    exact List.forall_mem_cons.mpr ⟨isComplete_of_device hd, ih ho⟩

/-- The devices of the lists of runtimes are complete. -/
lemma isComplete_of_mem_runtimesFrom {index : Nat} {runtimes : Mapping} {ds : List Device}
    (h : runtimesFrom index runtimes = .ok ds) : ∀ d ∈ ds, d.IsComplete := by
  induction runtimes generalizing index ds with
  | nil => cases h; simp
  | cons entry rest ih =>
    obtain ⟨runtime, v⟩ := entry
    cases v with
    | list records =>
      rw [runtimesFrom, bind_eq_ok_iff] at h
      obtain ⟨first, hfirst, h⟩ := h
      obtain ⟨others, ho, h⟩ := (bind_eq_ok_iff _ _ _).mp h
      cases h
      unfold runtimeDevices at hfirst
      split at hfirst
      · exact List.forall_mem_append.mpr ⟨isComplete_of_mem_devicesFrom hfirst, ih ho⟩
      · cases hfirst
    | _ => cases h

/-- **The devices of an inventory** in either form are complete. -/
theorem isComplete_of_mem_devices {data : Value} {availableOnly : Bool} {ds : List Device}
    (h : devices data availableOnly = .ok ds) : ∀ d ∈ ds, d.IsComplete := by
  obtain ⟨all, hall, hds⟩ := (map_eq_ok_iff _ _ _).mp h
  have hcomplete : ∀ d ∈ all, d.IsComplete := by
    unfold allDevices at hall
    split at hall
    · exact isComplete_of_mem_devicesFrom hall
    · split at hall
      · exact isComplete_of_mem_runtimesFrom hall
      · cases hall
      · cases hall
    · cases hall
  subst hds
  cases availableOnly with
  | false => exact hcomplete
  | true => exact fun d hd => hcomplete d (List.mem_filter.mp hd).1

end RunnerAtlas.Listing
