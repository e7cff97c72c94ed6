import LiteDroid.ConfigPaths
import LiteDroid.CoreResults
import LiteDroid.EffectRun
import LiteDroid.FileTree

/-!
# The configuration file

The configuration is saved below the directory that it names itself and loaded
from below a fixed one. Both expand a leading tilde. Loading creates the
directories of what it loaded, and falls back to the default configuration when
there is no file. What was saved comes back exactly when both directories are
one place, or when the fixed one already holds a file that says the same.
-/

namespace LiteDroid.ConfigFile

open LexicalPath ConfigPaths CoreResults EffectRun FileTree

/-- The files of the host, which hold texts. -/
abbrev Files := Tree Part String

/-- The host's text for a refused operation. -/
def osText : Obstacle → String
  | .notFound => "No such file or directory (os error 2)"
  | .alreadyExists => "File exists (os error 17)"
  | .notADirectory => "Not a directory (os error 20)"
  | .isADirectory => "Is a directory (os error 21)"

/-- A file operation whose refusal becomes an error value. -/
def io {α : Type} : Except Obstacle α → Outcome α
  | .ok value => .ok value
  | .error obstacle => .error (.error (.osError (osText obstacle)))

/-- Work on the files of the host. What was done before an error stays. -/
abbrev Action (α : Type) := EStateM Fault Files α

/-- Create the directory of a path and the missing ones above it. -/
def createDirAll (host : Host) (path : List Char) : Action Unit :=
  update fun files => io (files.createDirAll (resolve host.cwd path))

/-- Write a text to the file of a path. -/
def writeFile (host : Host) (path : List Char) (text : String) : Action Unit :=
  update fun files => io (files.write (resolve host.cwd path) text)

/-- Read the text in the file of a path. -/
def readToString (host : Host) (path : List Char) : Action String := do
  returning (io ((← get).read (resolve host.cwd path)))

/-- A refusal of a serialiser, which becomes an error value. -/
def converted {α : Type} : Except String α → Outcome α
  | .ok value => .ok value
  | .error e => .error (.error (.configError e))

/-- The daemon's socket. -/
def daemonSocketPath : String := "/tmp/litedroid-daemon.sock"

/-- The data directory of the default configuration. -/
def defaultDataDir : String := "~/.local/share/litedroid"

/-- The configuration directory of the default configuration. -/
def defaultConfigDir : String := "~/.config/litedroid"

/-- Global settings. -/
structure GlobalConfig extends ConfigPaths.GlobalConfig where
  /-- The daemon's socket. -/
  socketPath : String
  /-- The log level. -/
  logLevel : String
  /-- The configuration directory as configured. -/
  configDir : String

/-- The daemon's configuration. -/
structure LiteDroidConfig where
  /-- Global settings. -/
  global : GlobalConfig

/-- The configuration as far as paths depend on it. -/
def LiteDroidConfig.paths (config : LiteDroidConfig) : ConfigPaths.LiteDroidConfig :=
  ⟨config.global.toGlobalConfig⟩

/-- The default configuration. -/
def LiteDroidConfig.default : LiteDroidConfig :=
  ⟨⟨⟨defaultDataDir⟩,daemonSocketPath,"info",defaultConfigDir⟩⟩

/-- The directory that stores disk images. -/
def LiteDroidConfig.imagesDir (host : Host) (config : LiteDroidConfig) : List Char :=
  join (config.paths.dataDir host) "images".toList

/-- The directory that stores snapshots. -/
def LiteDroidConfig.snapshotsDir (host : Host) (config : LiteDroidConfig) : List Char :=
  join (config.paths.dataDir host) "snapshots".toList

/-- The directories used on the host, in the order they are created. -/
def LiteDroidConfig.layout (host : Host) (config : LiteDroidConfig) : List (List Char) :=
  [expandTilde host config.global.configDir.toList,config.paths.dataDir host,
    config.paths.devicesDir host,config.imagesDir host,config.snapshotsDir host,
    join (config.paths.dataDir host) "logs".toList,join (config.paths.dataDir host) "run".toList]

/-- Create the directories used on the host. -/
def ensureLayout (host : Host) (config : LiteDroidConfig) : Action Unit :=
  (config.layout host).forM (createDirAll host)

/-- The serialiser of configurations, with the texts of its refusals. -/
structure Toml where
  /-- A configuration as a text. -/
  toStringPretty : LiteDroidConfig → Except String String
  /-- The configuration of a text. -/
  fromStr : String → Except String LiteDroidConfig

/-- The file that a configuration is saved to. -/
def savedPath (host : Host) (config : LiteDroidConfig) : List Char :=
  join (expandTilde host config.global.configDir.toList) "config.toml".toList

/-- The file that the configuration is loaded from. -/
def loadedPath (host : Host) : List Char :=
  expandTilde host defaultConfigDir.toList++"/config.toml".toList

/-- Save a configuration. -/
def save (toml : Toml) (host : Host) (config : LiteDroidConfig) : Action Unit := do
  ensureLayout host config
  createDirAll host (expandTilde host config.global.configDir.toList)
  let content ← returning (converted (toml.toStringPretty config))
  writeFile host (savedPath host config) content

/-- Load the configuration, the default one when there is no file. -/
def load (toml : Toml) (host : Host) : Action LiteDroidConfig := do
  if (← get).node (resolve host.cwd (loadedPath host))=none then
    ensureLayout host .default
    return .default
  else
    let content ← readToString host (loadedPath host)
    let config ← returning (converted (toml.fromStr content))
    ensureLayout host config
    return config

/-- An accepted operation was accepted by the host. -/
theorem io_ok_iff {α : Type} {x : Except Obstacle α} {value : α} :
    io x=.ok value ↔ x=.ok value := by
  cases x with
  | ok other => simp [io]
  | error obstacle => simp [io]

/-- A text that follows a directory behind a slash is joined to it. -/
theorem join_file {base path : List Char} (hpath : isAbsolute path=false) (hbase : base≠[])
    (hlast : base.getLast?≠some '/') : join base path=base++ '/'::path := by
  rw [join,hpath,if_neg Bool.false_ne_true,if_neg]
  rintro (h | h)
  · exact hbase h
  · exact hlast h

/-- The default directory ends in a name. -/
theorem expandTilde_default (host : Host) :
    ∃ front, expandTilde host defaultConfigDir.toList=front++['d'] := by
  unfold expandTilde
  rw [if_pos (by decide)]
  cases host.home with
  | none => exact ⟨"~/.config/litedroi".toList,by decide⟩
  | some home => exact ⟨home++"/.config/litedroi".toList,by simp [defaultConfigDir]⟩

/-- The configuration is loaded from the file below the default directory. -/
theorem loadedPath_eq (host : Host) :
    loadedPath host=join (expandTilde host defaultConfigDir.toList) "config.toml".toList := by
  obtain ⟨front,hfront⟩ := expandTilde_default host
  rw [loadedPath,join_file (by decide)]
  · rfl
  · rw [hfront]
    simp
  · rw [hfront]
    simp

/-- Only directories are added: the files are as they were and the other
directories still stand. -/
structure OnlyDirectories (files after : Files) : Prop where
  /-- Every file holds what it held. -/
  content : ∀ q, after.content? q=files.content? q
  /-- Every directory still stands. -/
  directory : ∀ q, files.node q=some .directory → after.node q=some .directory

/-- Nothing added is only directories. -/
theorem OnlyDirectories.refl (files : Files) : OnlyDirectories files files :=
  ⟨fun _ => rfl,fun _ h => h⟩

/-- Directories added twice are only directories. -/
theorem OnlyDirectories.trans (files mid after : Files) (first : OnlyDirectories files mid)
    (second : OnlyDirectories mid after) : OnlyDirectories files after :=
  ⟨fun q => (second.content q).trans (first.content q),
    fun q h => second.directory q (first.directory q h)⟩

/-- A created directory stands, and nothing but directories is added. -/
theorem createDirAll_ok {host : Host} {path : List Char} {files after : Files}
    (h : createDirAll host path files=.ok () after) :
    after.node (resolve host.cwd path)=some .directory ∧ OnlyDirectories files after := by
  have hmade := io_ok_iff.mp (update_ok_iff.mp h)
  obtain ⟨hstands,hkept⟩ := Tree.createDirAll_directory hmade
  exact ⟨hstands,Tree.createDirAll_content hmade,hkept⟩

/-- Created directories all stand, and nothing but directories is added. -/
theorem forM_createDirAll_ok {host : Host} {dirs : List (List Char)} :
    ∀ {files after : Files}, dirs.forM (createDirAll host) files=.ok () after →
      (∀ dir∈dirs, after.node (resolve host.cwd dir)=some .directory) ∧
        OnlyDirectories files after := by
  induction dirs with
  | nil =>
    intro files after h
    cases h
    exact ⟨List.forall_mem_nil _,.refl files⟩
  | cons dir rest ih =>
    intro files after h
    obtain ⟨_,mid,hdir,hrest⟩ := EffectRun.bind_ok_iff.mp h
    obtain ⟨hstands,honly⟩ := createDirAll_ok hdir
    obtain ⟨hothers,hlater⟩ := ih hrest
    exact ⟨List.forall_mem_cons.mpr ⟨hlater.directory _ hstands,hothers⟩,
      .trans _ _ _ honly hlater⟩

/-- The directories of a configuration stand. -/
def LaidOut (host : Host) (config : LiteDroidConfig) (files : Files) : Prop :=
  ∀ dir∈config.layout host, files.node (resolve host.cwd dir)=some .directory

/-- Directories that all stand are created again without an error. -/
theorem ensureLayout_returns (host : Host) (config : LiteDroidConfig) :
    Returns (LaidOut host config) (ensureLayout host config) := by
  refine Returns.forM _ ?_
  intro dir hdir files hfiles
  obtain ⟨after,hafter,hsame⟩ := Tree.createDirAll_existing (hfiles dir hdir)
  refine ⟨(),after,update_ok_iff.mpr (io_ok_iff.mpr hafter),?_⟩
  intro other hother
  rw [hsame]
  exact hfiles other hother

/-- A result that is returned is that of its source. -/
theorem returning_ok_iff {α : Type} {x : Outcome α} {files after : Files}
    {value : α} : returning x files=.ok value after ↔ x=.ok value ∧ after=files := by
  unfold returning
  cases x with
  | ok other => simp [eq_comm]
  | error e => simp

/-- A converted value is that of the serialiser. -/
theorem converted_ok_iff {α : Type} {x : Except String α} {value : α} :
    converted x=.ok value ↔ x=.ok value := by
  cases x with
  | ok other => simp [converted]
  | error e => simp [converted]

/-- What saving leaves behind: the configuration's directories, its text in its
file, and the contents of every other file. -/
theorem save_ok {toml : Toml} {host : Host} {config : LiteDroidConfig} {files saved : Files}
    {text : String} (htext : toml.toStringPretty config=.ok text)
    (h : save toml host config files=.ok () saved) :
    LaidOut host config saved ∧
      saved.content? (resolve host.cwd (savedPath host config))=some text ∧
      ∀ q, q≠resolve host.cwd (savedPath host config) → saved.content? q=files.content? q := by
  unfold save at h
  obtain ⟨_,laid,hlaid,h⟩ := EffectRun.bind_ok_iff.mp h
  obtain ⟨_,made,hmade,h⟩ := EffectRun.bind_ok_iff.mp h
  obtain ⟨content,_,hcontent,h⟩ := EffectRun.bind_ok_iff.mp h
  obtain ⟨hconverted,rfl⟩ := returning_ok_iff.mp hcontent
  obtain rfl := Except.ok.inj (htext.symm.trans (converted_ok_iff.mp hconverted))
  obtain ⟨hdirs,hfirst⟩ := forM_createDirAll_ok hlaid
  obtain ⟨-,hsecond⟩ := createDirAll_ok hmade
  obtain ⟨hwritable,hfile,hothers⟩ := Tree.write_ok (io_ok_iff.mp (update_ok_iff.mp h))
  refine ⟨?_,Tree.content_eq_some.mpr hfile,?_⟩
  · intro dir hdir
    have hdirectory := hsecond.directory _ (hdirs dir hdir)
    rw [hothers]
    · exact hdirectory
    · intro heq
      rw [heq] at hdirectory
      exact hwritable.2.2 hdirectory
  · intro q hq
    rw [Tree.content_eq (hothers q hq),hsecond.content,hfirst.content]

/-- Reading a text finds it in the file and leaves the files alone. -/
theorem readToString_ok_iff {host : Host} {path : List Char} {files after : Files}
    {text : String} :
    readToString host path files=.ok text after ↔
      files.content? (resolve host.cwd path)=some text ∧ after=files := by
  have hread : readToString host path files=
      returning (io (files.read (resolve host.cwd path))) files := rfl
  rw [hread,returning_ok_iff,io_ok_iff,Tree.read_ok_iff]

/-- Loading finds a text where there is a file, and only the default
configuration where there is none. -/
theorem load_ok {toml : Toml} {host : Host} {config : LiteDroidConfig} {files after : Files}
    (h : load toml host files=.ok config after) :
    config=.default ∨ ∃ text, files.content? (resolve host.cwd (loadedPath host))=some text ∧
      toml.fromStr text=.ok config := by
  unfold load at h
  obtain ⟨_,_,hget,hbranch⟩ := EffectRun.bind_ok_iff.mp h
  cases hget
  by_cases hmissing : files.node (resolve host.cwd (loadedPath host))=none
  · rw [if_pos hmissing] at hbranch
    obtain ⟨_,laid,-,hdefault⟩ := EffectRun.bind_ok_iff.mp hbranch
    cases hdefault
    exact Or.inl rfl
  · rw [if_neg hmissing] at hbranch
    obtain ⟨text,found,htext,hrest⟩ := EffectRun.bind_ok_iff.mp hbranch
    obtain ⟨hfound,-⟩ := readToString_ok_iff.mp htext
    obtain ⟨other,parsed,hother,hlayout⟩ := EffectRun.bind_ok_iff.mp hrest
    obtain ⟨hparse,-⟩ := returning_ok_iff.mp hother
    obtain ⟨_,laid,-,hlast⟩ := EffectRun.bind_ok_iff.mp hlayout
    cases hlast
    exact Or.inr ⟨text,hfound,converted_ok_iff.mp hparse⟩

/-- A text that is found and understood is loaded, if its directories stand. -/
theorem load_text {toml : Toml} {host : Host} {config : LiteDroidConfig} {files : Files}
    {text : String} (htext : files.content? (resolve host.cwd (loadedPath host))=some text)
    (hparse : toml.fromStr text=.ok config) (hdirs : LaidOut host config files) :
    ∃ after, load toml host files=.ok config after := by
  obtain ⟨_,after,hafter,-⟩ := ensureLayout_returns host config files hdirs
  have hread := readToString_ok_iff.mpr ⟨htext,rfl⟩
  have hconverted : returning (converted (toml.fromStr text)) files=.ok config files :=
    returning_ok_iff.mpr ⟨converted_ok_iff.mpr hparse,rfl⟩
  refine ⟨after,EffectRun.bind_ok_iff.mpr ⟨files,files,rfl,?_⟩⟩
  rw [if_neg (by rw [Tree.content_eq_some.mp htext]; exact Option.some_ne_none _)]
  refine EffectRun.bind_ok_iff.mpr ⟨text,files,hread,?_⟩
  refine EffectRun.bind_ok_iff.mpr ⟨config,files,hconverted,?_⟩
  exact EffectRun.bind_ok_iff.mpr ⟨(),after,hafter,rfl⟩

/-- Creating a directory adds nothing but directories, also when it fails. -/
theorem createDirAll_leaves (host : Host) (path : List Char) :
    Leaves OnlyDirectories (createDirAll host path) := by
  refine Leaves.update .refl ?_
  intro files after h
  exact (createDirAll_ok (update_ok_iff.mpr h)).2

/-- Loading adds nothing but directories, also when it fails. -/
theorem load_leaves (toml : Toml) (host : Host) : Leaves OnlyDirectories (load toml host) := by
  have hlayout : ∀ config, Leaves OnlyDirectories (ensureLayout host config) := by
    intro config
    exact Leaves.forM .refl .trans _ fun dir _ => createDirAll_leaves host dir
  have hread : Leaves OnlyDirectories (readToString host (loadedPath host)) := by
    intro files
    exact Leaves.returning .refl (io (files.read (resolve host.cwd (loadedPath host)))) files
  refine Leaves.bind .trans .refl ?_
  intro files
  split
  · exact Leaves.bind .trans (hlayout _) fun _ => .refl
  · refine Leaves.bind .trans hread fun text => ?_
    refine Leaves.bind .trans (Leaves.returning .refl _) fun config => ?_
    exact Leaves.bind .trans (hlayout config) fun _ => .refl

/-- The two files are one exactly when their directories are. -/
theorem savedPath_eq_iff (host : Host) (config : LiteDroidConfig) :
    resolve host.cwd (savedPath host config)=resolve host.cwd (loadedPath host) ↔
      resolve host.cwd (expandTilde host config.global.configDir.toList)=
        resolve host.cwd (expandTilde host defaultConfigDir.toList) := by
  have hname : PlainName "config.toml".toList := by decide
  rw [savedPath,loadedPath_eq,resolve_join_plain _ _ hname,resolve_join_plain _ _ hname,
    List.append_left_inj]

/-- A configuration that was saved is loaded again exactly when its directory is
the place of the default one, or when the file below the default one, which
saving then leaves alone, already says the same. -/
theorem load_after_save_iff (toml : Toml) (host : Host) (config : LiteDroidConfig)
    (files saved : Files) (text : String) (htext : toml.toStringPretty config=.ok text)
    (hparse : toml.fromStr text=.ok config) (hsave : save toml host config files=.ok () saved) :
    (∃ after, load toml host saved=.ok config after) ↔
      resolve host.cwd (expandTilde host config.global.configDir.toList)=
        resolve host.cwd (expandTilde host defaultConfigDir.toList) ∨
      ∃ old, files.content? (resolve host.cwd (loadedPath host))=some old ∧
        toml.fromStr old=.ok config := by
  obtain ⟨hdirs,hfile,hothers⟩ := save_ok htext hsave
  have hiff := savedPath_eq_iff host config
  constructor
  · rintro ⟨after,hload⟩
    by_cases hsame : resolve host.cwd (savedPath host config)=resolve host.cwd (loadedPath host)
    · exact Or.inl (hiff.mp hsame)
    · rcases load_ok hload with rfl | ⟨old,hold,hagain⟩
      · exact Or.inl rfl
      · rw [hothers _ (Ne.symm hsame)] at hold
        exact Or.inr ⟨old,hold,hagain⟩
  · intro h
    by_cases hsame : resolve host.cwd (savedPath host config)=resolve host.cwd (loadedPath host)
    · rw [hsame] at hfile
      exact load_text hfile hparse hdirs
    · rcases h with hdir | ⟨old,hold,hagain⟩
      · exact absurd (hiff.mpr hdir) hsame
      · rw [← hothers _ (Ne.symm hsame)] at hold
        exact load_text hold hagain hdirs

/-- A host without any file. -/
def bareFiles : Files where
  node place := if place=[] then some .directory else none
  places := [[]]
  nodup := List.nodup_singleton _
  mem_places := by
    intro place
    rw [List.mem_singleton]
    split
    · rename_i h
      exact ⟨fun _ => Option.some_ne_none _,fun _ => h⟩
    · rename_i h
      exact ⟨fun hp => absurd hp h,fun hn => absurd rfl hn⟩
  root := if_pos rfl
  parent := by
    intro place part h
    rw [if_neg (by simp)] at h
    exact absurd rfl h

/-- A configuration that names another directory for itself. -/
def movedConfig : LiteDroidConfig :=
  ⟨⟨⟨defaultDataDir⟩,daemonSocketPath,"info","/etc/litedroid"⟩⟩

/-- A configuration of plain texts as the serialiser writes it. -/
def plainToml (config : LiteDroidConfig) : String :=
  "[global]\nsocket_path = \""++config.global.socketPath++"\"\nlog_level = \""++
    config.global.logLevel++"\"\ndata_dir = \""++config.global.dataDir++"\"\nconfig_dir = \""++
    config.global.configDir++"\"\n"

/-- The serialiser on the two configurations. -/
def sampleToml : Toml where
  toStringPretty config := .ok (plainToml config)
  fromStr text :=
    if text=plainToml .default then .ok .default
    else if text=plainToml movedConfig then .ok movedConfig
    else .error "expected a table"

/-- The directory that the configuration loaded after saving another one names. -/
def reloadedDir (config : LiteDroidConfig) : Option String :=
  match (do save sampleToml userHost config; load sampleToml userHost : Action LiteDroidConfig)
    bareFiles with
  | .ok other _ => some other.global.configDir
  | .error _ _ => none

/-- A known directory comes from saving and loading that both return. -/
theorem reloadedDir_some {config : LiteDroidConfig} {dir : String}
    (h : reloadedDir config=some dir) :
    ∃ saved other after, save sampleToml userHost config bareFiles=.ok () saved ∧
      load sampleToml userHost saved=.ok other after ∧ other.global.configDir=dir := by
  unfold reloadedDir at h
  split at h
  · rename_i other after heval
    obtain ⟨_,saved,hsave,hload⟩ := EffectRun.bind_ok_iff.mp heval
    exact ⟨saved,other,after,hsave,hload,Option.some.inj h⟩
  · cases h

/-- The criterion applies to the default configuration on a host without files. -/
theorem load_after_save_iff_default :
    ∃ saved, save sampleToml userHost .default bareFiles=.ok () saved ∧
      ∃ after, load sampleToml userHost saved=.ok .default after := by
  obtain ⟨saved,-,-,hsave,-,-⟩ := reloadedDir_some
    (show reloadedDir .default=some "~/.config/litedroid" by decide +kernel)
  exact ⟨saved,hsave,(load_after_save_iff sampleToml userHost .default bareFiles saved
    (plainToml .default) rfl rfl hsave).mpr (Or.inl rfl)⟩

/-- A configuration that names another directory is saved there, and one that
names the default directory is loaded afterwards. -/
theorem moved_config_not_loaded :
    sampleToml.fromStr (plainToml movedConfig)=.ok movedConfig ∧
      ∃ saved other after, save sampleToml userHost movedConfig bareFiles=.ok () saved ∧
        load sampleToml userHost saved=.ok other after ∧ other≠movedConfig := by
  obtain ⟨saved,other,after,hsave,hload,hdir⟩ := reloadedDir_some
    (show reloadedDir movedConfig=some "~/.config/litedroid" by decide +kernel)
  refine ⟨rfl,saved,other,after,hsave,hload,?_⟩
  rintro rfl
  exact absurd hdir (by decide)

end LiteDroid.ConfigFile
