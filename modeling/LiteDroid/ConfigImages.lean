import LiteDroid.ConfigFile
import LiteDroid.StepRun

/-!
# The cache of Android images

One directory caches the kernel, the ramdisk and the system image for every
interface level. A call installs the package of its level and copies three files
out of it, unless the directory looks ready, which is judged from the contents
alone. Every call that copies leaves the files of its package; a call that finds
a ready directory leaves whatever is there.
-/

namespace LiteDroid.ConfigImages

open LexicalPath CoreResults EffectRun ConfigFile StepRun
open ConfigPaths hiding LiteDroidConfig GlobalConfig

/-- The content of a file. -/
abbrev Bytes := List UInt8

/-- The files of the images directory that make up a system. -/
structure Images where
  /-- The kernel. -/
  kernel : Option Bytes
  /-- The ramdisk. -/
  ramdisk : Option Bytes
  /-- The system image. -/
  system : Option Bytes
  deriving DecidableEq, Repr

/-- The files of a package of the SDK that are looked for. -/
structure Package where
  /-- The file `kernel-ranchu`. -/
  kernelRanchu : Option Bytes
  /-- The file `kernel`. -/
  kernel : Option Bytes
  /-- The file `ramdisk.img`. -/
  ramdisk : Option Bytes
  /-- The file `system.img`. -/
  system : Option Bytes
  deriving DecidableEq, Repr

/-- Whether there is a file and it is not empty. -/
def isNonEmpty : Option Bytes → Bool
  | some (_::_) => true
  | _ => false

/-- A number of bytes at an offset, if the file reaches so far. -/
def readExact (data : Bytes) (offset n : ℕ) : Option Bytes :=
  if offset+n ≤ data.length then some ((data.drop offset).take n) else none

/-- Whether a system image is sparse, or partitioned, or a plain file system. A
file that ends before a mark is none of them. -/
def hasMagic (data : Bytes) : Bool :=
  match readExact data 0 4 with
  | none => false
  | some header =>
    if header=[0x3a,0xff,0x26,0xed] then true
    else
      match readExact data 0x200 8 with
      | none => false
      | some gptMagic =>
        if gptMagic="EFI PART".toUTF8.toList then true
        else
          match readExact data 0x438 2 with
          | none => false
          | some magic => decide (magic=[0x53,0xef])

/-- Whether the images directory looks ready. -/
def imagesAreReady (images : Images) : Bool :=
  isNonEmpty images.kernel && (images.kernel.getD []).any (fun byte => byte≠0) &&
    isNonEmpty images.ramdisk && isNonEmpty images.system && hasMagic (images.system.getD [])

/-- What the host says about the SDK. -/
structure SdkHost where
  /-- The variable `ANDROID_SDK_ROOT`. -/
  androidSdkRoot : Option (List Char)
  /-- The variable `ANDROID_HOME`. -/
  androidHome : Option (List Char)
  /-- Whether there is something at a path. -/
  pathExists : List Char → Bool
  /-- Whether there is a file at a path. -/
  isFile : List Char → Bool
  /-- Whether `sdkmanager` runs by its name. -/
  sdkmanagerRuns : Bool

/-- The root of the SDK. -/
def sdkRoot (host : Host) (config : LiteDroidConfig) (sdk : SdkHost) : Option (List Char) :=
  let bundled := join (config.paths.dataDir host) "android-sdk".toList
  match sdk.androidSdkRoot with
  | some root => some root
  | none =>
    match sdk.androidHome with
    | some root => some root
    | none => if sdk.pathExists bundled then some bundled else none

/-- The program that installs packages. -/
def findSdkmanager (sdk : SdkHost) (root : List Char) : Option (List Char) :=
  let candidates := [join root "cmdline-tools/latest/bin/sdkmanager".toList,
    join root "cmdline-tools/bin/sdkmanager".toList,join root "tools/bin/sdkmanager".toList]
  match candidates.find? sdk.isFile with
  | some program => some program
  | none => if sdk.sdkmanagerRuns then some "sdkmanager".toList else none

/-- How accepting the licenses ends. -/
inductive LicensesEnd where
  /-- The program could not be started. -/
  | notStarted (e : String)
  /-- The answers could not be written, or the program not be awaited. -/
  | broken (e : String)
  /-- The program failed. -/
  | refused
  /-- The licenses were accepted. -/
  | accepted
  deriving DecidableEq, Repr

/-- How installing a package ends. -/
inductive InstallEnd where
  /-- The program could not be run. -/
  | broken (e : String)
  /-- The program failed, with the trimmed text it printed. -/
  | refused (stderr : String)
  /-- The package was installed. -/
  | installed
  deriving DecidableEq, Repr

/-- How copying a file ends. -/
inductive CopyEnd where
  /-- Nothing was opened for writing. -/
  | refused (e : String)
  /-- A number of bytes was written. -/
  | interrupted (n : ℕ) (e : String)
  /-- The whole file was copied. -/
  | done
  deriving DecidableEq, Repr

/-- A call, and how each of its steps ends on the host. -/
structure Attempt where
  /-- The interface level that is asked for. -/
  apiLevel : UInt32
  /-- Creating the images directory. -/
  directory : Except String Unit
  /-- The SDK. -/
  sdk : SdkHost
  /-- Accepting the licenses. -/
  licenses : LicensesEnd
  /-- Installing the package. -/
  install : InstallEnd
  /-- Copying the kernel. -/
  kernelCopy : CopyEnd
  /-- Copying the ramdisk. -/
  ramdiskCopy : CopyEnd
  /-- Copying the system image. -/
  systemCopy : CopyEnd

/-- A step of the host whose refusal becomes an error value. -/
def hosted {α : Type} : Except String α → Outcome α
  | .ok value => .ok value
  | .error e => .error (.error (.osError e))

/-- An error of the configuration. -/
def refusal {α : Type} (message : String) : Outcome α := .error (.error (.configError message))

/-- What accepting the licenses means for the call. -/
def LicensesEnd.outcome : LicensesEnd → Outcome Unit
  | .notStarted e => refusal ("starting sdkmanager: "++e)
  | .broken e => hosted (.error e)
  | .refused => refusal "Android SDK licenses were not accepted"
  | .accepted => .ok ()

/-- What installing a package means for the call. -/
def InstallEnd.outcome (package : String) : InstallEnd → Outcome Unit
  | .broken e => hosted (.error e)
  | .refused stderr => refusal ("sdkmanager could not install "++package++": "++stderr)
  | .installed => .ok ()

/-- Install the package of a call's level and return its directory. -/
def installPackage (host : Host) (config : LiteDroidConfig) (attempt : Attempt) :
    Outcome (List Char) := do
  let root ← match sdkRoot host config attempt.sdk with
    | some root => .ok root
    | none => refusal ("Android SDK not found. Set ANDROID_HOME/ANDROID_SDK_ROOT or install "++
        "command-line tools.")
  let _ ← match findSdkmanager attempt.sdk root with
    | some program => .ok program
    | none => refusal ("sdkmanager not found under "++String.ofList root++
        ". Install Android SDK command-line tools.")
  let level := toString attempt.apiLevel.toNat
  attempt.licenses.outcome
  attempt.install.outcome ("system-images;android-"++level++";default;x86_64")
  return join (join (join (join root "system-images".toList) ("android-"++level).toList)
    "default".toList) "x86_64".toList

/-- The files that one may be copied from, in order, with their names. -/
abbrev Candidates := List (String×Option Bytes)

/-- The first file that is not empty. -/
def source (candidates : Candidates) : Option Bytes :=
  (candidates.find? fun candidate => isNonEmpty candidate.2).bind Prod.snd

/-- What copying a file does to its destination. -/
def CopyEnd.copy (data : Bytes) : CopyEnd → EStateM Fault (Option Bytes) Unit
  | .refused e => fun file => .error (.error (.osError e)) file
  | .interrupted n e => fun _ => .error (.error (.osError e)) (some (data.take n))
  | .done => fun _ => .ok () (some data)

/-- Copy the first file that is not empty out of a package's directory. -/
def copyImage (dir : List Char) (candidates : Candidates) (destination : Lens Images (Option Bytes))
    (copy : CopyEnd) : EStateM Fault Images Unit :=
  match source candidates with
  | some data => focus destination (copy.copy data)
  | none => returning (refusal ("Android SDK package is missing "++
      " or ".intercalate (candidates.map Prod.fst)++" in "++String.ofList dir))

/-- The kernel's place. -/
def kernelFile : Lens Images (Option Bytes) :=
  ⟨Images.kernel,fun images file => {images with kernel := file},fun _ _ => rfl⟩

/-- The ramdisk's place. -/
def ramdiskFile : Lens Images (Option Bytes) :=
  ⟨Images.ramdisk,fun images file => {images with ramdisk := file},fun _ _ => rfl⟩

/-- The system image's place. -/
def systemFile : Lens Images (Option Bytes) :=
  ⟨Images.system,fun images file => {images with system := file},fun _ _ => rfl⟩

/-- What the kernel is copied from. -/
def Package.kernels (package : Package) : Candidates :=
  [("kernel-ranchu",package.kernelRanchu),("kernel",package.kernel)]

/-- What the ramdisk is copied from. -/
def Package.ramdisks (package : Package) : Candidates := [("ramdisk.img",package.ramdisk)]

/-- What the system image is copied from. -/
def Package.systems (package : Package) : Candidates := [("system.img",package.system)]

/-- Copy the three files out of a package's directory. -/
def copyImages (package : Package) (dir : List Char) (attempt : Attempt) :
    EStateM Fault Images Unit := do
  copyImage dir package.kernels kernelFile attempt.kernelCopy
  copyImage dir package.ramdisks ramdiskFile attempt.ramdiskCopy
  copyImage dir package.systems systemFile attempt.systemCopy

/-- Make sure of the images of a level. -/
def ensureAndroidImages (host : Host) (config : LiteDroidConfig) (packages : UInt32 → Package)
    (attempt : Attempt) : EStateM Fault Images Unit := do
  returning (hosted attempt.directory)
  if imagesAreReady (← get) then
    return ()
  else
    let dir ← returning (installPackage host config attempt)
    copyImages (packages attempt.apiLevel) dir attempt

/-- The files of a package that belong into the images directory. -/
def Package.images (package : Package) : Images :=
  ⟨source package.kernels,source package.ramdisks,source package.systems⟩

/-- The images directory after a call, whether or not it returned. -/
def step (host : Host) (config : LiteDroidConfig) (packages : UInt32 → Package) (images : Images)
    (attempt : Attempt) : Option Images :=
  some (left (ensureAndroidImages host config packages attempt images))

/-- A call that returns leaves the files of the package it asks for. -/
def Served (host : Host) (config : LiteDroidConfig) (packages : UInt32 → Package)
    (images : Images) (attempt : Attempt) : Prop :=
  ∀ after, ensureAndroidImages host config packages attempt images=.ok () after →
    after=(packages attempt.apiLevel).images

/-- A file that is copied is not empty. -/
theorem source_nonEmpty {candidates : Candidates} {data : Bytes}
    (h : source candidates=some data) : isNonEmpty (some data)=true := by
  obtain ⟨candidate,hfind,hdata⟩ := Option.bind_eq_some_iff.mp h
  have hnonEmpty := List.find?_some hfind
  rw [hdata] at hnonEmpty
  exact hnonEmpty

/-- A copy that returns puts the first file that is not empty in its place. -/
theorem copyImage_ok {dir : List Char} {candidates : Candidates}
    {destination : Lens Images (Option Bytes)} {copy : CopyEnd} {images after : Images}
    (h : copyImage dir candidates destination copy images=.ok () after) :
    (source candidates).isSome=true ∧ after=destination.put images (source candidates) := by
  unfold copyImage at h
  cases hsource : source candidates with
  | none =>
    rw [hsource] at h
    cases h
  | some data =>
    rw [hsource] at h
    obtain ⟨file,hcopy,rfl⟩ := focus_ok_iff.mp h
    cases copy with
    | refused e => cases hcopy
    | interrupted n e => cases hcopy
    | done =>
      cases hcopy
      exact ⟨rfl,rfl⟩

/-- Copies that return leave the files of the package. -/
theorem copyImages_ok {package : Package} {dir : List Char} {attempt : Attempt}
    {images after : Images} (h : copyImages package dir attempt images=.ok () after) :
    after=package.images := by
  obtain ⟨_,first,hkernel,hrest⟩ := EffectRun.bind_ok_iff.mp h
  obtain ⟨_,second,hramdisk,hsystem⟩ := EffectRun.bind_ok_iff.mp hrest
  obtain ⟨-,rfl⟩ := copyImage_ok hkernel
  obtain ⟨-,rfl⟩ := copyImage_ok hramdisk
  obtain ⟨-,rfl⟩ := copyImage_ok hsystem
  rfl

/-- A call whose directory could not be created fails and changes nothing. -/
theorem ensure_refused {host : Host} {config : LiteDroidConfig} {packages : UInt32 → Package}
    {attempt : Attempt} {e : String} (h : attempt.directory=.error e) (images : Images) :
    ensureAndroidImages host config packages attempt images=
      .error (.error (.osError e)) images := by
  have hfirst : (returning (hosted attempt.directory) : EStateM Fault Images Unit) images=
      .error (.error (.osError e)) images := by
    rw [h]
    rfl
  exact bind_of_error hfirst _

/-- A call whose directory was created returns at once when it looks ready, and
installs and copies otherwise. -/
theorem ensure_created {host : Host} {config : LiteDroidConfig} {packages : UInt32 → Package}
    {attempt : Attempt} (h : attempt.directory=.ok ()) (images : Images) :
    ensureAndroidImages host config packages attempt images=
      if imagesAreReady images=true then .ok () images
      else (returning (installPackage host config attempt) >>= fun dir =>
        copyImages (packages attempt.apiLevel) dir attempt : EStateM Fault Images Unit) images := by
  have hfirst : (returning (hosted attempt.directory) : EStateM Fault Images Unit) images=
      .ok () images := by
    rw [h]
    rfl
  unfold ensureAndroidImages
  rw [bind_of_ok hfirst]
  change (if imagesAreReady images=true then pure () else do
    let dir ← returning (installPackage host config attempt)
    copyImages (packages attempt.apiLevel) dir attempt : EStateM Fault Images Unit) images=_
  split
  · rfl
  · rfl

/-- A call that returns found a ready directory, or left the files of its
package. -/
theorem ensure_ok {host : Host} {config : LiteDroidConfig} {packages : UInt32 → Package}
    {attempt : Attempt} {images after : Images}
    (h : ensureAndroidImages host config packages attempt images=.ok () after) :
    attempt.directory=.ok () ∧ imagesAreReady images=true ∧ after=images ∨
      after=(packages attempt.apiLevel).images := by
  cases hdirectory : attempt.directory with
  | error e =>
    rw [ensure_refused hdirectory] at h
    cases h
  | ok _ =>
    rw [ensure_created hdirectory] at h
    split at h
    · rename_i hready
      cases h
      exact Or.inl ⟨rfl,hready,rfl⟩
    · obtain ⟨dir,_,-,hcopy⟩ := EffectRun.bind_ok_iff.mp h
      exact Or.inr (copyImages_ok hcopy)

/-- The file that a copy wrote, if it opened one. -/
def CopyEnd.written (data : Bytes) : CopyEnd → Option Bytes
  | .refused _ => none
  | .interrupted n _ => some (data.take n)
  | .done => some data

/-- The images are those of a package, the system image as far as it was copied. -/
structure Filled (package : Package) (copy : CopyEnd) (images : Images) : Prop where
  /-- The kernel is the package's. -/
  kernel : (source package.kernels).isSome=true ∧ images.kernel=source package.kernels
  /-- The ramdisk is the package's. -/
  ramdisk : (source package.ramdisks).isSome=true ∧ images.ramdisk=source package.ramdisks
  /-- The system image is what was copied of the package's. -/
  system : ∃ data file, source package.systems=some data ∧ copy.written data=some file ∧
    images.system=some file

/-- Whether the system image looks like one. -/
def recognised (images : Images) : Bool :=
  isNonEmpty images.system && hasMagic (images.system.getD [])

/-- Copying another file keeps the system image. -/
theorem copyImage_keeps_system (destination : Lens Images (Option Bytes))
    (h : ∀ images file, (destination.put images file).system=images.system) (dir : List Char)
    (candidates : Candidates) (copy : CopyEnd) (images : Images) :
    (left (copyImage dir candidates destination copy images)).system=images.system := by
  unfold copyImage
  cases source candidates with
  | none => rfl
  | some data =>
    dsimp only
    rw [left_focus]
    exact h images _

/-- Copying the system image keeps the other files, and the system image too
unless it was opened. -/
theorem copyImage_system (dir : List Char) (candidates : Candidates) (copy : CopyEnd)
    (images : Images) :
    (left (copyImage dir candidates systemFile copy images)).system=images.system ∨
      ∃ data file, source candidates=some data ∧ copy.written data=some file ∧
        left (copyImage dir candidates systemFile copy images)={images with system := file} := by
  unfold copyImage
  cases source candidates with
  | none => exact Or.inl rfl
  | some data =>
    dsimp only
    rw [left_focus]
    cases copy with
    | refused e => exact Or.inl rfl
    | interrupted n e => exact Or.inr ⟨data,_,rfl,rfl,rfl⟩
    | done => exact Or.inr ⟨data,_,rfl,rfl,rfl⟩

/-- The three copies keep the system image, or leave the images of the package. -/
theorem copyImages_left (package : Package) (dir : List Char) (attempt : Attempt)
    (images : Images) :
    (left (copyImages package dir attempt images)).system=images.system ∨
      Filled package attempt.systemCopy (left (copyImages package dir attempt images)) := by
  have hkernel := copyImage_keeps_system kernelFile (fun _ _ => rfl) dir
    package.kernels attempt.kernelCopy images
  unfold copyImages
  cases hfirst : copyImage dir package.kernels kernelFile attempt.kernelCopy images with
  | error fault first =>
    rw [hfirst] at hkernel
    rw [bind_of_error hfirst]
    exact Or.inl hkernel
  | ok _ first =>
    rw [hfirst] at hkernel
    rw [bind_of_ok hfirst]
    have hramdisk := copyImage_keeps_system ramdiskFile (fun _ _ => rfl) dir
      package.ramdisks attempt.ramdiskCopy first
    cases hsecond : copyImage dir package.ramdisks ramdiskFile attempt.ramdiskCopy first with
    | error fault second =>
      rw [hsecond] at hramdisk
      rw [bind_of_error hsecond]
      exact Or.inl (hramdisk.trans hkernel)
    | ok _ second =>
      rw [hsecond] at hramdisk
      rw [bind_of_ok hsecond]
      obtain ⟨hkernels,rfl⟩ := copyImage_ok hfirst
      obtain ⟨hramdisks,rfl⟩ := copyImage_ok hsecond
      rcases copyImage_system dir package.systems attempt.systemCopy
        (ramdiskFile.put (kernelFile.put images (source package.kernels))
          (source package.ramdisks)) with hsystem | ⟨data,file,hdata,hfile,heq⟩
      · exact Or.inl (hsystem.trans (hramdisk.trans hkernel))
      · refine Or.inr ?_
        rw [heq]
        exact ⟨⟨hkernels,rfl⟩,⟨hramdisks,rfl⟩,data,file,hdata,hfile,rfl⟩

/-- The kernels of all packages hold more than zeros. -/
def Bootable (packages : UInt32 → Package) : Prop :=
  ∀ level data, source (packages level).kernels=some data → data.any (fun byte => byte≠0)=true

/-- Images of one package whose system image looks like one look ready. -/
theorem ready_of_filled {packages : UInt32 → Package} (hboot : Bootable packages) {level : UInt32}
    {copy : CopyEnd} {images : Images} (h : Filled (packages level) copy images)
    (hsystem : recognised images=true) : imagesAreReady images=true := by
  obtain ⟨kernel,hkernel⟩ := Option.isSome_iff_exists.mp h.kernel.1
  obtain ⟨ramdisk,hramdisk⟩ := Option.isSome_iff_exists.mp h.ramdisk.1
  unfold recognised at hsystem
  rw [Bool.and_eq_true] at hsystem
  unfold imagesAreReady
  rw [h.kernel.2,h.ramdisk.2,hkernel,hramdisk,source_nonEmpty hkernel,source_nonEmpty hramdisk,
    Option.getD_some,hboot level kernel hkernel,hsystem.1,hsystem.2]
  rfl

/-- What a call leaves behind: the images it found, or copies over images that
did not look ready. -/
theorem ensure_left (host : Host) (config : LiteDroidConfig) (packages : UInt32 → Package)
    (attempt : Attempt) (images : Images) :
    left (ensureAndroidImages host config packages attempt images)=images ∨
      ¬imagesAreReady images=true ∧ ∃ dir,
        left (ensureAndroidImages host config packages attempt images)=
          left (copyImages (packages attempt.apiLevel) dir attempt images) := by
  cases hdirectory : attempt.directory with
  | error e =>
    rw [ensure_refused hdirectory]
    exact Or.inl rfl
  | ok _ =>
    rw [ensure_created hdirectory]
    split
    · exact Or.inl rfl
    · rename_i hready
      cases hinstall : installPackage host config attempt with
      | error fault => exact Or.inl rfl
      | ok dir => exact Or.inr ⟨hready,dir,rfl⟩

/-- A directory whose system image looks like one holds the images of a single
package, the system image as far as one of the calls copied it. -/
def OnePackage (packages : UInt32 → Package) (attempts : List Attempt) (images : Images) : Prop :=
  recognised images=true → ∃ attempt∈attempts,
    Filled (packages attempt.apiLevel) attempt.systemCopy images

/-- A call keeps the images of a single package together, or replaces them all. -/
theorem step_onePackage {host : Host} {config : LiteDroidConfig} {packages : UInt32 → Package}
    (hboot : Bootable packages) {attempts : List Attempt} (images : Images) (attempt : Attempt)
    (next : Images) (h : OnePackage packages attempts images) (hmem : attempt∈attempts)
    (hstep : step host config packages images attempt=some next) :
    OnePackage packages attempts next := by
  obtain rfl := Option.some.inj hstep
  rcases ensure_left host config packages attempt images with hsame | ⟨hready,dir,hcopies⟩
  · rw [hsame]
    exact h
  · rw [hcopies]
    rcases copyImages_left (packages attempt.apiLevel) dir attempt images with hsystem | hfilled
    · intro hrecognised
      unfold recognised at hrecognised
      rw [hsystem] at hrecognised
      obtain ⟨earlier,-,hfilled⟩ := h hrecognised
      exact absurd (ready_of_filled hboot hfilled hrecognised) hready
    · exact fun _ => ⟨attempt,hmem,hfilled⟩

/-- No run from an empty directory mixes the images of several packages. -/
theorem visits_onePackage (host : Host) (config : LiteDroidConfig)
    {packages : UInt32 → Package} (hboot : Bootable packages) (attempts : List Attempt) :
    ∀ visit∈visits (step host config packages) ⟨none,none,none⟩ attempts,
      OnePackage packages attempts visit.1 := by
  refine @visits_invariant _ _ (step host config packages) (OnePackage packages attempts)
    (fun _ attempt => attempt∈attempts) (step_onePackage hboot) attempts _ ?_
    fun visit hv => visits_input hv
  intro h
  cases h

/-- In every run from an empty directory whose calls all ask for one level and
never leave a part of a system image, every call that returns leaves the files of
that level's package. -/
theorem one_level_served (host : Host) (config : LiteDroidConfig) {packages : UInt32 → Package}
    (hboot : Bootable packages) {attempts : List Attempt} {level : UInt32}
    (hlevel : ∀ attempt∈attempts, attempt.apiLevel=level)
    (hwhole : ∀ attempt∈attempts, ∀ n e, attempt.systemCopy≠.interrupted n e) :
    ∀ visit∈visits (step host config packages) ⟨none,none,none⟩ attempts,
      Served host config packages visit.1 visit.2 := by
  intro visit hv after hafter
  rcases ensure_ok hafter with ⟨-,hready,rfl⟩ | heq
  · unfold imagesAreReady at hready
    simp only [Bool.and_eq_true] at hready
    obtain ⟨⟨-,hsystem⟩,hmagic⟩ := hready
    have hrecognised : recognised visit.1=true := by
      rw [recognised,hsystem,hmagic]
      rfl
    obtain ⟨attempt,hmem,hfilled⟩ := visits_onePackage host config hboot attempts visit hv
      hrecognised
    obtain ⟨data,file,hdata,hfile,heq⟩ := hfilled.system
    have hfull : file=data := by
      cases hcopy : attempt.systemCopy with
      | refused e =>
        rw [hcopy] at hfile
        cases hfile
      | interrupted n e => exact absurd hcopy (hwhole attempt hmem n e)
      | done =>
        rw [hcopy] at hfile
        exact (Option.some.inj hfile).symm
    rw [hlevel _ (visits_input hv),←hlevel attempt hmem]
    rw [hfull,←hdata] at heq
    calc
      visit.1=⟨visit.1.kernel,visit.1.ramdisk,visit.1.system⟩ := rfl
      _=(packages attempt.apiLevel).images := by rw [hfilled.kernel.2,hfilled.ramdisk.2,heq]; rfl
  · exact heq

end LiteDroid.ConfigImages
