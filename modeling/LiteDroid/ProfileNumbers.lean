import LiteDroid.CliProfiles

/-!
# Numbers of a profile

The metadata of a profile holds 64-bit numbers, and five of the fields they are
read into have 32 bits. The reader cuts such a number to its field and checks
the configuration afterwards, so that the check sees the cut number. Only the
memory and the number of virtual CPUs are checked.
-/

namespace LiteDroid.ProfileNumbers

open LexicalPath CoreResults CoreDeviceConfig FileTree ConfigFile IpcMessages
open ConfigProfiles hiding DeviceConfig
open CliProfiles (plainJson)
open ConfigPaths hiding LiteDroidConfig GlobalConfig

/-- The fields of 32 bits. -/
inductive NarrowField where
  /-- Virtual CPUs. -/
  | vcpuCount
  /-- Interface level. -/
  | apiLevel
  /-- Width. -/
  | width
  /-- Height. -/
  | height
  /-- Dots per inch. -/
  | dpi
  deriving DecidableEq, Repr

/-- The key of a field. -/
def NarrowField.key : NarrowField → String
  | .vcpuCount => "vcpu_count"
  | .apiLevel => "api_level"
  | .width => "width"
  | .height => "height"
  | .dpi => "dpi"

/-- The value of a field. -/
def NarrowField.value (device : ConfigProfiles.DeviceConfig) : NarrowField → UInt32
  | .vcpuCount => device.vcpuCount
  | .apiLevel => device.apiLevel
  | .width => device.display.width
  | .height => device.display.height
  | .dpi => device.display.dpi

/-- Every number that the metadata holds for a field is the field's. -/
def Unaltered (metadata : Json) (device : ConfigProfiles.DeviceConfig) : Prop :=
  ∀ field : NarrowField, ∀ value, numberField metadata field.key=some value →
    (field.value device).toNat=value.toNat

/-- Every number that the metadata holds for a field fits it. -/
def Fitting (metadata : Json) : Prop :=
  ∀ field : NarrowField, ∀ value, numberField metadata field.key=some value →
    value.toNat < 2^32

/-- The metadata holds an amount of memory out of range, or a number of virtual
CPUs whose low 32 bits are zero. -/
def Refused (metadata : Json) : Prop :=
  (∃ value, numberField metadata "ram_mb"=some value ∧
    (value.toNat < 512 ∨ 8192 < value.toNat)) ∨
    ∃ value, numberField metadata "vcpu_count"=some value ∧ value.toNat%2^32=0

/-- A number is cut to its field. -/
theorem narrow_value (base : ConfigProfiles.DeviceConfig) (name : String) {metadata : Json}
    {field : NarrowField} {value : UInt64} (h : numberField metadata field.key=some value) :
    (field.value (base.withMetadata name metadata)).toNat=value.toNat%2^32 := by
  have hword : ∀ word, (((numberField metadata field.key).map UInt64.toUInt32).getD word).toNat=
      value.toNat%2^32 := by
    intro word
    rw [h]
    exact UInt64.toNat_toUInt32 value
  cases field with
  | vcpuCount => exact hword _
  | apiLevel => exact hword _
  | width => exact hword _
  | height => exact hword _
  | dpi => exact hword _

/-- The numbers are unaltered exactly when they fit. -/
theorem unaltered_iff (base : ConfigProfiles.DeviceConfig) (name : String) (metadata : Json) :
    Unaltered metadata (base.withMetadata name metadata) ↔ Fitting metadata := by
  unfold Unaltered Fitting
  refine forall_congr' fun field => forall_congr' fun value => ?_
  refine imp_congr_right fun hvalue => ?_
  rw [narrow_value base name hvalue]
  omega

/-- The memory that is checked is the one the metadata holds, or the default one. -/
theorem ram_accepted_iff (host : Host) (config : LiteDroidConfig) (id : Uuid) (name : String)
    (metadata : Json) :
    (512 ≤ ((defaultDeviceConfig host config id).withMetadata name metadata).ramMb.toNat ∧
      ((defaultDeviceConfig host config id).withMetadata name metadata).ramMb.toNat ≤ 8192) ↔
      ¬∃ value, numberField metadata "ram_mb"=some value ∧
        (value.toNat < 512 ∨ 8192 < value.toNat) := by
  change (512 ≤ ((numberField metadata "ram_mb").getD 2048).toNat ∧
    ((numberField metadata "ram_mb").getD 2048).toNat ≤ 8192) ↔ _
  cases numberField metadata "ram_mb" with
  | none =>
    simp only [Option.getD_none,UInt64.reduceToNat,reduceCtorEq,false_and,exists_false,
      not_false_eq_true,iff_true]
    omega
  | some value =>
    simp only [Option.getD_some,Option.some.injEq,exists_eq_left']
    omega

/-- The number of virtual CPUs that is checked is the cut one, or the default one. -/
theorem cpus_accepted_iff (host : Host) (config : LiteDroidConfig) (id : Uuid) (name : String)
    (metadata : Json) :
    ((defaultDeviceConfig host config id).withMetadata name metadata).vcpuCount≠0 ↔
      ¬∃ value, numberField metadata "vcpu_count"=some value ∧ value.toNat%2^32=0 := by
  change ((numberField metadata "vcpu_count").map UInt64.toUInt32).getD 4≠0 ↔ _
  cases numberField metadata "vcpu_count" with
  | none =>
    simp only [Option.map_none,Option.getD_none,reduceCtorEq,false_and,exists_false,
      not_false_eq_true,iff_true]
    decide
  | some value =>
    simp only [Option.map_some,Option.getD_some,Option.some.injEq,exists_eq_left',ne_eq,
      ← UInt32.toNat_inj,UInt64.toNat_toUInt32,UInt32.reduceToNat]

/-- The default configuration with the fields of some metadata passes the check
exactly when the metadata is not refused. -/
theorem validate_iff (host : Host) (config : LiteDroidConfig) (id : Uuid) (name : String)
    (metadata : Json) :
    ((defaultDeviceConfig host config id).withMetadata name metadata).validate=.ok () ↔
      ¬Refused metadata := by
  have habis : ((defaultDeviceConfig host config id).withMetadata name metadata).supportedAbis≠
      [] := List.cons_ne_nil _ _
  rw [validate_ok_iff,Refused,not_or,← ram_accepted_iff host config id name metadata,
    ← cpus_accepted_iff host config id name metadata]
  simp only [habis,ne_eq,not_false_eq_true,and_true,and_assoc]

/-- A profile that loads has every number that its metadata holds, for all
metadata, exactly when these numbers fit or the metadata is refused anyway. -/
theorem profile_numbers_iff (json : JsonCodec) (host : Host) (config : LiteDroidConfig)
    (name text : String) (id : Uuid) (files : Files) (metadata : Json)
    (htext : files.content? (resolve host.cwd (metadataPath host config.paths name))=some text)
    (hparse : json.fromStr text=.ok metadata) :
    (∀ device, deviceConfig json host config name id files=.ok device →
      Unaltered metadata device) ↔ Fitting metadata ∨ Refused metadata := by
  have hload := deviceConfig_text htext hparse id
  constructor
  · intro h
    by_cases hrefused : Refused metadata
    · exact Or.inr hrefused
    · have hvalid := (validate_iff host config id name metadata).mpr hrefused
      exact Or.inl ((unaltered_iff _ name metadata).mp (h _ ((hload _).mpr ⟨rfl,hvalid⟩)))
  · intro h device hdevice
    obtain ⟨rfl,hvalid⟩ := (hload device).mp hdevice
    rw [unaltered_iff]
    exact h.resolve_right ((validate_iff host config id name metadata).mp hvalid)

/-- Metadata that holds a number of virtual CPUs. -/
def cpuMetadata (count : ℕ) : Json := .obj [("vcpu_count",.num count)]

/-- The serialiser on the metadata of four virtual CPUs, and of two to the 32 more. -/
def cpuJson : JsonCodec where
  toStringPretty := plainJson
  fromStr text :=
    if text=plainJson (cpuMetadata 4) then .ok (cpuMetadata 4)
    else if text=plainJson (cpuMetadata 4294967300) then .ok (cpuMetadata 4294967300)
    else .error "expected value at line 1 column 1"

/-- The serialiser reads back both of them. -/
theorem cpuJson_read :
    cpuJson.fromStr (plainJson (cpuMetadata 4))=.ok (cpuMetadata 4) ∧
      cpuJson.fromStr (plainJson (cpuMetadata 4294967300))=.ok (cpuMetadata 4294967300) := by
  have hother : plainJson (cpuMetadata 4294967300)≠plainJson (cpuMetadata 4) := by decide +kernel
  unfold cpuJson
  dsimp only
  rw [if_pos rfl,if_neg hother,if_pos rfl]
  exact ⟨rfl,rfl⟩

/-- The place of a phone's profile. -/
def phonePlace : List Part :=
  resolve userHost.cwd (metadataPath userHost LiteDroidConfig.default.paths "phone")

/-- A host with the profile of a phone. -/
def phoneFiles (text : String) : Files :=
  (bareFiles.withDirectory phonePlace.dropLast).withFile phonePlace text (by decide +kernel)

/-- The profile stands in its file. -/
theorem phoneFiles_content (text : String) : (phoneFiles text).content? phonePlace=some text := by
  rw [Tree.content_eq_some,phoneFiles,Tree.withFile]
  simp only [if_true]

/-- Four virtual CPUs are loaded. -/
theorem profile_numbers_iff_four : ∃ device,
    deviceConfig cpuJson userHost .default "phone" "00000000-0000-4000-8000-000000000001"
      (phoneFiles (plainJson (cpuMetadata 4)))=.ok device ∧ Unaltered (cpuMetadata 4) device := by
  have hvalid : ((defaultDeviceConfig userHost .default
      "00000000-0000-4000-8000-000000000001").withMetadata "phone" (cpuMetadata 4)).validate=
        .ok () := by decide +kernel
  have hload := (deviceConfig_text (phoneFiles_content _) cpuJson_read.1 _ _).mpr ⟨rfl,hvalid⟩
  refine ⟨_,hload,(profile_numbers_iff cpuJson userHost .default "phone"
    (plainJson (cpuMetadata 4)) _ _ (cpuMetadata 4) (phoneFiles_content _)
      cpuJson_read.1).mpr (Or.inl ?_) _ hload⟩
  intro field value hvalue
  cases field with
  | vcpuCount =>
    have hfour : numberField (cpuMetadata 4) "vcpu_count"=some 4 := by decide +kernel
    obtain rfl := Option.some.inj (hfour.symm.trans hvalue)
    decide
  | apiLevel => cases hvalue
  | width => cases hvalue
  | height => cases hvalue
  | dpi => cases hvalue

/-- Two to the 32 and four virtual CPUs are loaded as four. -/
theorem wide_count_is_cut : ∃ device,
    deviceConfig cpuJson userHost .default "phone" "00000000-0000-4000-8000-000000000001"
        (phoneFiles (plainJson (cpuMetadata 4294967300)))=.ok device ∧
      device.vcpuCount=4 ∧ numberField (cpuMetadata 4294967300) "vcpu_count"=some 4294967300 ∧
      ¬Unaltered (cpuMetadata 4294967300) device := by
  have hwide : numberField (cpuMetadata 4294967300) "vcpu_count"=some 4294967300 := by
    decide +kernel
  have hvalid : ((defaultDeviceConfig userHost .default
      "00000000-0000-4000-8000-000000000001").withMetadata "phone"
        (cpuMetadata 4294967300)).validate=.ok () := by decide +kernel
  refine ⟨_,(deviceConfig_text (phoneFiles_content _) cpuJson_read.2 _ _).mpr ⟨rfl,hvalid⟩,
    by decide +kernel,hwide,?_⟩
  rw [unaltered_iff]
  intro hfit
  exact absurd (hfit .vcpuCount _ hwide) (by decide)

end LiteDroid.ProfileNumbers
