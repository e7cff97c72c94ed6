import LiteDroid.ConfigProfiles
import LiteDroid.CoreText

/-!
# The settings of a virtual device

Before every launch the daemon rewrites the settings file of the virtual
device. It drops the lines that start with one of five keys and appends a line
for each of them. The appended lines are recognised in full the next time, so
the last configuration wins and the other lines stay in their order.
-/

namespace LiteDroid.DaemonAvdSettings

open LexicalPath CoreResults CoreText EffectRun FileTree ConfigFile ConfigProfiles
open ConfigPaths hiding LiteDroidConfig GlobalConfig

/-- The keys that the daemon manages. -/
def managedKeys : List String :=
  ["hw.cpu.ncore=","hw.ramSize=","hw.lcd.width=","hw.lcd.height=","hw.lcd.density="]

/-- Whether a line sets one of these keys. -/
def isManaged (line : String) : Bool := managedKeys.any fun key => startsWith line key

/-- The lines of a text that the daemon leaves alone. -/
def kept (existing : String) : List String := (lines existing).filter fun line => !isManaged line

/-- The text that sets the managed keys. -/
def managedText (device : ConfigProfiles.DeviceConfig) : String :=
  s!"hw.cpu.ncore={device.vcpuCount}\nhw.ramSize={device.ramMb}\n"++
    s!"hw.lcd.width={device.display.width}\nhw.lcd.height={device.display.height}\n"++
    s!"hw.lcd.density={device.display.dpi}\n"

/-- The settings of a device, from the ones that are there. -/
def settings (existing : String) (device : ConfigProfiles.DeviceConfig) : String :=
  String.join ((kept existing).map fun line => line++"\n")++managedText device

/-- A file operation whose refusal becomes a message. -/
def refused {α : Type} (message : String) : Except Obstacle α → Except String α
  | .ok value => .ok value
  | .error obstacle => .error (message++osText obstacle)

/-- The settings file of a virtual device. -/
def configPath (avdDir : List Char) : List Char := join avdDir "config.ini".toList

/-- Rewrite the settings of a virtual device. -/
def configureAvd (host : Host) (avdDir : List Char) (device : ConfigProfiles.DeviceConfig) :
    EStateM String Files Unit := do
  let existing ← returning (refused "Cannot read AVD configuration: "
    ((← get).read (resolve host.cwd (configPath avdDir))))
  update fun files => refused "Cannot update AVD configuration: "
    (files.write (resolve host.cwd (configPath avdDir)) (settings existing device))

/-- The managed keys with their values. -/
def managedValues (device : ConfigProfiles.DeviceConfig) : List (String×String) :=
  managedKeys.zip [toString device.vcpuCount,toString device.ramMb,toString device.display.width,
    toString device.display.height,toString device.display.dpi]

/-- The lines that set the managed keys. -/
def managedLines (device : ConfigProfiles.DeviceConfig) : List String :=
  (managedValues device).map fun setting => setting.1++setting.2

/-- The managed text is the managed lines, each with its end. -/
theorem managedText_lines (device : ConfigProfiles.DeviceConfig) :
    managedText device=String.join ((managedLines device).map fun line => line++"\n") := by
  have hram : "\nhw.ramSize="="\n"++"hw.ramSize=" := by decide
  have hheight : "\nhw.lcd.height="="\n"++"hw.lcd.height=" := by decide
  unfold managedText
  change ("hw.cpu.ncore="++toString device.vcpuCount++"\nhw.ramSize="++toString device.ramMb++"\n")++
    ("hw.lcd.width="++toString device.display.width++"\nhw.lcd.height="++
      toString device.display.height++"\n")++
    ("hw.lcd.density="++toString device.display.dpi++"\n")=_
  rw [hram,hheight]
  simp only [managedLines,managedKeys,managedValues,List.zip_cons_cons,
    List.zip_nil_left,List.map_cons,List.map_nil,String.join_cons,String.join_nil,
    String.append_assoc,String.append_empty]

/-- A printed number has digits only. -/
theorem number_digits {n : ℕ} {c : Char} (h : c∈(toString n).toList) : c.isDigit=true := by
  have htext : (toString n).toList=Nat.toDigits 10 n := String.toList_ofList
  rw [htext] at h
  exact Nat.isDigit_of_mem_toDigits (by decide) (by decide) h

/-- A managed setting is one of the keys, and a number. -/
theorem mem_managedValues {device : ConfigProfiles.DeviceConfig} {setting : String×String}
    (h : setting∈managedValues device) :
    setting.1∈managedKeys ∧ ∃ n : ℕ, setting.2=toString n := by
  obtain ⟨hkey,hvalue⟩ := List.of_mem_zip h
  refine ⟨hkey,?_⟩
  simp only [List.mem_cons,List.not_mem_nil,or_false] at hvalue
  rcases hvalue with hvalue | hvalue | hvalue | hvalue | hvalue
  all_goals exact ⟨_,hvalue⟩

/-- No key has a character that ends a line. -/
theorem managedKeys_plain : ∀ key∈managedKeys, '\n'∉key.toList ∧ '\r'∉key.toList := by
  decide

/-- A managed line has no character that ends a line. -/
theorem managedLines_plain {device : ConfigProfiles.DeviceConfig} {line : String}
    (h : line∈managedLines device) : '\n'∉line.toList ∧ '\r'∉line.toList := by
  obtain ⟨setting,hsetting,rfl⟩ := List.mem_map.mp h
  obtain ⟨hkey,n,hvalue⟩ := mem_managedValues hsetting
  obtain ⟨hnewline,hreturn⟩ := managedKeys_plain setting.1 hkey
  have hdigits : ∀ c : Char, c.isDigit=false → c∉setting.2.toList := by
    intro c hc hmem
    rw [hvalue] at hmem
    rw [number_digits hmem] at hc
    cases hc
  rw [String.toList_append,List.mem_append,List.mem_append,not_or,not_or]
  exact ⟨⟨hnewline,hdigits _ (by decide)⟩,hreturn,hdigits _ (by decide)⟩

/-- A key with anything behind it starts with the key. -/
theorem startsWith_append (key value : String) : startsWith (key++value) key=true := by
  unfold startsWith
  rw [List.isPrefixOf_iff_prefix,String.toList_append]
  exact List.prefix_append _ _

/-- A managed line is recognised. -/
theorem managedLines_managed {device : ConfigProfiles.DeviceConfig} {line : String}
    (h : line∈managedLines device) : isManaged line=true := by
  obtain ⟨setting,hsetting,rfl⟩ := List.mem_map.mp h
  obtain ⟨hkey,-⟩ := mem_managedValues hsetting
  exact List.any_eq_true.mpr ⟨setting.1,hkey,startsWith_append setting.1 setting.2⟩

/-- The settings are the lines that were left alone and the managed ones, each
with its end. -/
theorem settings_join (existing : String) (device : ConfigProfiles.DeviceConfig) :
    settings existing device=
      String.join ((kept existing++managedLines device).map fun line => line++"\n") := by
  rw [settings,managedText_lines,List.map_append,String.join_append]

/-- The lines of the settings. -/
theorem settings_lines {existing : String} (h : '\r'∉existing.toList)
    (device : ConfigProfiles.DeviceConfig) :
    lines (settings existing device)=kept existing++managedLines device := by
  rw [settings_join]
  apply lines_terminated
  intro line hline
  rcases List.mem_append.mp hline with hkept | hmanaged
  · obtain ⟨hnewline,hchars⟩ := mem_lines (List.mem_filter.mp hkept).1
    exact ⟨hnewline,fun hc => h (hchars _ hc)⟩
  · exact managedLines_plain hmanaged

/-- What is left alone in the settings is what was left alone before. -/
theorem kept_settings {existing : String} (h : '\r'∉existing.toList)
    (device : ConfigProfiles.DeviceConfig) : kept (settings existing device)=kept existing := by
  have hmanaged : (managedLines device).filter (fun line => !isManaged line)=[] := by
    rw [List.filter_eq_nil_iff]
    intro line hline
    rw [managedLines_managed hline]
    exact Bool.false_ne_true
  rw [kept,settings_lines h,List.filter_append,hmanaged,List.append_nil]
  unfold kept
  rw [List.filter_filter]
  simp only [Bool.and_self]

/-- The settings of the last device win. -/
theorem settings_settings {existing : String} (h : '\r'∉existing.toList)
    (first second : ConfigProfiles.DeviceConfig) :
    settings (settings existing first) second=settings existing second := by
  rw [settings,kept_settings h,settings]

/-- No key starts with another one. -/
theorem managedKeys_apart : ∀ key∈managedKeys, ∀ other∈managedKeys,
    key.toList <+: other.toList → other=key := by decide

/-- A key starts the lines that set it, and no line that sets another one. -/
theorem startsWith_key {key other : String} (hkey : key∈managedKeys) (hother : other∈managedKeys)
    (value : String) : startsWith (other++value) key=decide (other=key) := by
  rw [Bool.eq_iff_iff,decide_eq_true_iff]
  constructor
  · intro h
    unfold startsWith at h
    rw [List.isPrefixOf_iff_prefix,String.toList_append] at h
    rcases List.prefix_or_prefix_of_prefix h (List.prefix_append other.toList value.toList) with
      hle | hle
    · exact managedKeys_apart key hkey other hother hle
    · exact (managedKeys_apart other hother key hkey hle).symm
  · rintro rfl
    exact startsWith_append other value

/-- A line that is left alone starts with no key. -/
theorem kept_startsWith {existing line key : String} (hkey : key∈managedKeys)
    (h : line∈kept existing) : startsWith line key=false := by
  have hline := (List.mem_filter.mp h).2
  rw [Bool.not_eq_true',isManaged,List.any_eq_false] at hline
  exact Bool.eq_false_iff.mpr (hline key hkey)

/-- Each key is set once. -/
theorem settings_key {existing : String} (h : '\r'∉existing.toList)
    {device : ConfigProfiles.DeviceConfig} {setting : String×String}
    (hsetting : setting∈managedValues device) :
    ((lines (settings existing device)).filter fun line => startsWith line setting.1)=
      [setting.1++setting.2] := by
  obtain ⟨hkey,-⟩ := mem_managedValues hsetting
  have hkept : ((kept existing).filter fun line => startsWith line setting.1)=[] := by
    rw [List.filter_eq_nil_iff]
    intro line hline
    rw [kept_startsWith hkey hline]
    exact Bool.false_ne_true
  have honce : ((managedValues device).filter fun other =>
      startsWith (other.1++other.2) setting.1)=[setting] := by
    rw [List.filter_congr fun other hother =>
      startsWith_key hkey (mem_managedValues hother).1 other.2]
    simp only [managedValues,managedKeys,List.zip_cons_cons,List.zip_nil_left,List.mem_cons,
      List.not_mem_nil,or_false] at hsetting
    rcases hsetting with rfl | rfl | rfl | rfl | rfl
    all_goals rfl
  rw [settings_lines h,List.filter_append,hkept,List.nil_append,managedLines,List.filter_map]
  exact congrArg (List.map fun setting => setting.1++setting.2) honce

/-- Where a settings file stands it is replaced, and nothing else changes. -/
theorem configureAvd_ok (host : Host) (avdDir : List Char) (device : ConfigProfiles.DeviceConfig)
    {files : Files} {existing : String}
    (h : files.content? (resolve host.cwd (configPath avdDir))=some existing) :
    ∃ after, configureAvd host avdDir device files=.ok () after ∧
      after.content? (resolve host.cwd (configPath avdDir))=some (settings existing device) ∧
      ∀ place, place≠resolve host.cwd (configPath avdDir) →
        after.node place=files.node place := by
  have hread := Tree.read_ok_iff.mpr h
  have hwrite := Tree.write_writable (settings existing device) (Tree.writable_of_content h)
  obtain ⟨-,hfile,hothers⟩ := Tree.write_ok hwrite
  refine ⟨_,?_,Tree.content_eq_some.mpr hfile,hothers⟩
  refine EffectRun.bind_ok_iff.mpr ⟨files,files,rfl,?_⟩
  refine EffectRun.bind_ok_iff.mpr ⟨existing,files,returning_ok (by rw [hread]; rfl) files,?_⟩
  refine update_ok_iff.mpr ?_
  rw [hwrite]
  rfl

/-- The settings of a virtual device whose file has no carriage return are those
of the last configuration: the other lines stay in their order, each key is set
once, a second launch changes nothing, and what another configuration set is
gone. No other file changes. -/
theorem last_settings_win (host : Host) (avdDir : List Char)
    (d e : ConfigProfiles.DeviceConfig) (files : Files) (existing : String)
    (hfile : files.content? (resolve host.cwd (configPath avdDir))=some existing)
    (hreturn : '\r'∉existing.toList) :
    ∃ text after, configureAvd host avdDir d files=.ok () after ∧
      after.content? (resolve host.cwd (configPath avdDir))=some text ∧
      (∀ place, place≠resolve host.cwd (configPath avdDir) →
        after.node place=files.node place) ∧
      lines text=((lines existing).filter fun line =>
        !(managedKeys.any fun key => startsWith line key))++managedLines d ∧
      (∀ setting∈managedValues d, ((lines text).filter fun line => startsWith line setting.1)=
        [setting.1++setting.2]) ∧
      (∃ again, configureAvd host avdDir d after=.ok () again ∧
        again.content? (resolve host.cwd (configPath avdDir))=some text) ∧
      ∃ other last, configureAvd host avdDir e files=.ok () other ∧
        configureAvd host avdDir d other=.ok () last ∧
        last.content? (resolve host.cwd (configPath avdDir))=some text := by
  obtain ⟨after,hafter,htext,hothers⟩ := configureAvd_ok host avdDir d hfile
  obtain ⟨again,hagain,hsecond,-⟩ := configureAvd_ok host avdDir d htext
  obtain ⟨other,hother,hsettings,-⟩ := configureAvd_ok host avdDir e hfile
  obtain ⟨last,hlast,hfinal,-⟩ := configureAvd_ok host avdDir d hsettings
  rw [settings_settings hreturn] at hsecond hfinal
  exact ⟨settings existing d,after,hafter,htext,hothers,settings_lines hreturn d,
    fun setting hsetting => settings_key hreturn hsetting,⟨again,hagain,hsecond⟩,
    other,last,hother,hlast,hfinal⟩

/-- A settings file with a blank line, a key that is set twice and a last line
that does not end. -/
def avdFiles : Files :=
  (bareFiles.withDirectory ["avd".toList]).withFile ["avd".toList,"config.ini".toList]
    "hw.ramSize=1\n\nhw.gpu.enabled=yes\nhw.ramSize=2" (by decide +kernel)

/-- The lines that are left alone are the blank one and the one with another key. -/
theorem last_settings_win_sample :
    ∃ text after, configureAvd userHost "/avd".toList (.default "id") avdFiles=.ok () after ∧
      after.content? ["avd".toList,"config.ini".toList]=some text ∧
      lines text=["","hw.gpu.enabled=yes","hw.cpu.ncore=4","hw.ramSize=2048",
        "hw.lcd.width=1080","hw.lcd.height=1920","hw.lcd.density=420"] := by
  obtain ⟨text,after,hafter,htext,-,hlines,-⟩ := last_settings_win userHost "/avd".toList
    (.default "id") (.default "id") avdFiles
    "hw.ramSize=1\n\nhw.gpu.enabled=yes\nhw.ramSize=2" (by decide +kernel) (by decide)
  refine ⟨text,after,hafter,htext,hlines.trans ?_⟩
  decide +kernel

end LiteDroid.DaemonAvdSettings
