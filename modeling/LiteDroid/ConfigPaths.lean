import LiteDroid.LexicalPath

/-!
# Directories of device profiles

A profile lives in a directory below the devices directory that is named
after it. The name is joined to the devices directory as it is, so that slashes
and dots in it lead elsewhere.
-/

namespace LiteDroid.ConfigPaths

open LexicalPath

/-- The part of the global configuration that paths depend on. -/
structure GlobalConfig where
  /-- The data directory as configured. -/
  dataDir : String

/-- The daemon's configuration. -/
structure LiteDroidConfig where
  /-- Global settings. -/
  global : GlobalConfig

/-- What paths mean on the host. -/
structure Host where
  /-- The home directory, if there is one. -/
  home : Option (List Char)
  /-- The current directory. -/
  cwd : List Part

/-- A leading tilde stands for the home directory. -/
def expandTilde (host : Host) (path : List Char) : List Char :=
  if ['~','/'].isPrefixOf path then
    match host.home with
    | some home => home++ '/'::path.drop 2
    | none => path
  else path

/-- The data directory. -/
def LiteDroidConfig.dataDir (host : Host) (config : LiteDroidConfig) : List Char :=
  expandTilde host config.global.dataDir.toList

/-- The directory that stores the profiles. -/
def LiteDroidConfig.devicesDir (host : Host) (config : LiteDroidConfig) : List Char :=
  join (config.dataDir host) "devices".toList

/-- The directory that creating a profile writes to. -/
def createDirectory (host : Host) (config : LiteDroidConfig) (name : String) : List Char :=
  join (config.devicesDir host) name.toList

/-- The directory that deleting a profile removes with everything in it. -/
def deleteDirectory (host : Host) (config : LiteDroidConfig) (name : String) : List Char :=
  join (config.devicesDir host) name.toList

/-- The file that a profile is loaded from. -/
def metadataPath (host : Host) (config : LiteDroidConfig) (name : String) : List Char :=
  join (join (config.devicesDir host) name.toList) "metadata.json".toList

/-- The place of the devices directory. -/
def devicesPlace (host : Host) (config : LiteDroidConfig) : List Part :=
  resolve host.cwd (config.devicesDir host)

/-- A place directly below another one. -/
def DirectChild (dir place : List Part) : Prop := ∃ part, place=dir++[part]

/-- Creating, deleting and loading a profile all stay directly below the devices
directory. -/
structure Confined (host : Host) (config : LiteDroidConfig) (name : String) : Prop where
  /-- Where a profile is created. -/
  create : DirectChild (devicesPlace host config)
    (resolve host.cwd (createDirectory host config name))
  /-- What is removed with a profile. -/
  delete : DirectChild (devicesPlace host config)
    (resolve host.cwd (deleteDirectory host config name))
  /-- The directory of the file a profile is loaded from. -/
  load : DirectChild (devicesPlace host config)
    (resolve host.cwd (metadataPath host config name)).dropLast

/-- The names that lead back to a directory from where a path climbs to. -/
def wayBack (dir : List Part) (path : List Char) : List Part :=
  if isAbsolute path then dir else dir.drop (dir.length-(course path).ups)

/-- A path leads directly below a directory exactly when it descends through the
names that lead back there and through one more. -/
theorem directChild_join_iff (cwd : List Part) (base path : List Char) :
    DirectChild (resolve cwd base) (resolve cwd (join base path)) ↔
      ∃ part, (course path).names=wayBack (resolve cwd base) path++[part] := by
  unfold DirectChild wayBack
  rw [resolve_join]
  refine exists_congr ?_
  intro part
  cases isAbsolute path with
  | true =>
    rw [if_pos rfl,if_pos rfl,Course.lead,List.take_nil,List.nil_append]
  | false =>
    rw [if_neg Bool.false_ne_true,if_neg Bool.false_ne_true,Course.lead]
    generalize resolve cwd base=dir
    generalize dir.length-(course path).ups=kept
    nth_rewrite 2 [←List.take_append_drop kept dir]
    rw [List.append_assoc,List.append_right_inj]

/-- The place of a profile's file. -/
theorem metadata_place (host : Host) (config : LiteDroidConfig) (name : String) :
    resolve host.cwd (metadataPath host config name)=
      resolve host.cwd (createDirectory host config name)++["metadata.json".toList] :=
  resolve_join_plain host.cwd _ (by decide)

/-- The file of a profile lies in the profile's directory. -/
theorem metadata_directory (host : Host) (config : LiteDroidConfig) (name : String) :
    (resolve host.cwd (metadataPath host config name)).dropLast=
      resolve host.cwd (createDirectory host config name) := by
  rw [metadata_place,List.dropLast_concat]

/-- Profiles of a name are confined exactly when the name, read part by part with
empty parts and single dots left out and double dots cancelled against the part
before them, descends through the names that lead back to the devices directory
from where its leading double dots climb to, and then through one more. -/
theorem confined_iff (host : Host) (config : LiteDroidConfig) (name : String) :
    Confined host config name ↔
      ∃ part, (course name.toList).names=
        wayBack (devicesPlace host config) name.toList++[part] := by
  have hiff := directChild_join_iff host.cwd (config.devicesDir host) name.toList
  constructor
  · intro h
    exact hiff.mp h.create
  · intro h
    have hchild := hiff.mpr h
    refine ⟨hchild,hchild,?_⟩
    rw [metadata_directory]
    exact hchild

/-- The default data directory in a home directory. -/
def userConfig : LiteDroidConfig := ⟨⟨"~/.local/share/litedroid"⟩⟩

/-- A user's host. -/
def userHost : Host := ⟨some "/home/u".toList,["home".toList,"u".toList]⟩

/-- Deleting the profile with the empty name removes the devices directory, and
deleting the profile `../images` removes the images directory beside it. -/
theorem delete_leaves_devices :
    resolve userHost.cwd (deleteDirectory userHost userConfig "")=
        devicesPlace userHost userConfig ∧
      resolve userHost.cwd (deleteDirectory userHost userConfig "../images")=
        (devicesPlace userHost userConfig).dropLast++["images".toList] ∧
      ¬Confined userHost userConfig "" ∧ ¬Confined userHost userConfig "../images" := by
  have hempty : resolve userHost.cwd (deleteDirectory userHost userConfig "")=
      devicesPlace userHost userConfig := by decide
  have himages : resolve userHost.cwd (deleteDirectory userHost userConfig "../images")=
      (devicesPlace userHost userConfig).dropLast++["images".toList] := by decide
  refine ⟨hempty,himages,?_,?_⟩
  · intro h
    obtain ⟨part,hpart⟩ := h.delete
    rw [hempty] at hpart
    exact List.cons_ne_nil _ _ (List.append_right_eq_self.mp hpart.symm)
  · intro h
    obtain ⟨part,hpart⟩ := h.delete
    rw [himages] at hpart
    have hlength := congrArg List.length hpart
    have hplace : (devicesPlace userHost userConfig).length=6 := by decide
    rw [List.length_append,List.length_append,List.length_dropLast,hplace] at hlength
    cases hlength

end LiteDroid.ConfigPaths
