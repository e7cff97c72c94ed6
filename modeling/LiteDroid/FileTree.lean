import Mathlib.Data.Nat.Notation
import Mathlib.Data.List.Dedup
import Mathlib.Data.List.Infix
import LiteDroid.ChangeHistory

/-!
# Trees of directories and files

What stands at each place of a file system without links: nothing, a directory
or a file with its contents. A place is the list of names on the way from the
root. The places in use are finite, the root is a directory, and whatever
stands somewhere stands in a directory. An operation either changes the tree or
reports why it does not apply.
-/

namespace LiteDroid.FileTree

open ChangeHistory

variable {κ α : Type}

/-- What stands at a place. -/
inductive Node (α : Type) where
  /-- A directory. -/
  | directory
  /-- A file with its contents. -/
  | file (content : α)
  deriving DecidableEq, Repr

/-- Why an operation does not apply. -/
inductive Obstacle where
  /-- Nothing stands there. -/
  | notFound
  /-- A file stands where a directory is to be created. -/
  | alreadyExists
  /-- A file stands on the way. -/
  | notADirectory
  /-- A directory stands where a file is expected. -/
  | isADirectory
  deriving DecidableEq, Repr

/-- A tree of directories and files. -/
structure Tree (κ α : Type) where
  /-- What stands at each place. -/
  node : List κ → Option (Node α)
  /-- The places in use. -/
  places : List (List κ)
  /-- Each of them is listed once. -/
  nodup : places.Nodup
  /-- A place is listed when something stands there. -/
  mem_places : ∀ place, place∈places ↔ node place≠none
  /-- The root is a directory. -/
  root : node []=some .directory
  /-- Whatever stands somewhere stands in a directory. -/
  parent : ∀ place part, node (place++[part])≠none → node place=some .directory

namespace Tree

/-- The contents of the file at a place. -/
def content? (tree : Tree κ α) (place : List κ) : Option α :=
  match tree.node place with
  | some (.file content) => some content
  | _ => none

/-- What stands above a directory, up to the root, are directories. -/
theorem ancestors (tree : Tree κ α) {place above : List κ}
    (h : tree.node place=some .directory) (habove : above <+: place) :
    tree.node above=some .directory := by
  obtain ⟨rest,rfl⟩ := habove
  induction rest using List.reverseRecOn with
  | nil => rwa [List.append_nil] at h
  | append_singleton rest part ih =>
    apply ih
    rw [← List.append_assoc] at h
    exact tree.parent _ part (by rw [h]; exact Option.some_ne_none _)

/-- The contents at a place depend on what stands there alone. -/
theorem content_eq {tree other : Tree κ α} {place : List κ}
    (h : tree.node place=other.node place) : tree.content? place=other.content? place := by
  unfold content?
  rw [h]

/-- A place has contents exactly when a file stands there. -/
theorem content_eq_some {tree : Tree κ α} {place : List κ} {content : α} :
    tree.content? place=some content ↔ tree.node place=some (.file content) := by
  unfold content?
  split
  · rename_i other h
    rw [h]
    simp
  · rename_i h
    exact ⟨fun hc => (by cases hc),fun hc => absurd hc (h content)⟩

/-- Whether a file stands at one of some places. -/
def blocked (tree : Tree κ α) (places : List (List κ)) : Bool :=
  places.any fun place => (tree.content? place).isSome

/-- What keeps a place from being reached: a file on the way, or nothing there. -/
def unreached (tree : Tree κ α) (place : List κ) : Obstacle :=
  if tree.blocked place.dropLast.inits then .notADirectory else .notFound

/-- No file stands at any of some places exactly when they are not blocked. -/
theorem blocked_eq_false {tree : Tree κ α} {places : List (List κ)} :
    tree.blocked places=false ↔ ∀ place∈places, tree.content? place=none := by
  simp only [blocked,List.any_eq_false,Bool.not_eq_true,Option.isSome_eq_false_iff,
    Option.isNone_iff_eq_none]

/-- A prefix of a place is the place itself or leads to the directory above it. -/
theorem prefix_cases {place above : List κ} (h : above <+: place) :
    above=place ∨ above <+: place.dropLast := by
  induction place using List.reverseRecOn with
  | nil => exact Or.inl (List.prefix_nil.mp h)
  | append_singleton front part =>
    rw [List.dropLast_concat]
    exact List.prefix_concat_iff.mp h

/-- Read a file. -/
def read (tree : Tree κ α) (place : List κ) : Except Obstacle α :=
  match tree.node place with
  | some (.file content) => .ok content
  | some .directory => .error .isADirectory
  | none => .error (tree.unreached place)

/-- Reading a file returns its contents. -/
theorem read_ok_iff {tree : Tree κ α} {place : List κ} {content : α} :
    tree.read place=.ok content ↔ tree.content? place=some content := by
  rw [content_eq_some]
  unfold read
  split
  · rename_i other h
    rw [h]
    simp
  · rename_i h
    rw [h]
    simp
  · rename_i h
    rw [h]
    simp

variable [DecidableEq κ]

/-- The tree with a directory at a place and at every place above it. -/
def withDirectory (tree : Tree κ α) (place : List κ) : Tree κ α where
  node q := if q <+: place then some .directory else tree.node q
  places := (tree.places++place.inits).dedup
  nodup := List.nodup_dedup _
  mem_places := by
    intro q
    rw [List.mem_dedup,List.mem_append,List.mem_inits,tree.mem_places]
    split
    · rename_i h
      exact ⟨fun _ => Option.some_ne_none _,fun _ => Or.inr h⟩
    · rename_i h
      exact ⟨fun hq => hq.resolve_right h,Or.inl⟩
  root := if_pos List.nil_prefix
  parent := by
    intro q part hq
    by_cases hp : q <+: place
    · exact if_pos hp
    · rw [if_neg fun h => hp ((List.prefix_append q [part]).trans h)] at hq
      rw [if_neg hp]
      exact tree.parent q part hq

/-- Create a directory and the missing ones above it. -/
def createDirAll (tree : Tree κ α) (place : List κ) : Except Obstacle (Tree κ α) :=
  if tree.blocked place.dropLast.inits then .error .notADirectory
  else if tree.blocked [place] then .error .alreadyExists
  else .ok (tree.withDirectory place)

/-- A file can be created or replaced at a place. -/
def Writable (tree : Tree κ α) (place : List κ) : Prop :=
  place≠[] ∧ tree.node place.dropLast=some .directory ∧ tree.node place≠some .directory

/-- The tree with a file at a writable place. -/
def withFile (tree : Tree κ α) (place : List κ) (content : α) (h : tree.Writable place) :
    Tree κ α where
  node q := if q=place then some (.file content) else tree.node q
  places := (tree.places++[place]).dedup
  nodup := List.nodup_dedup _
  mem_places := by
    intro q
    rw [List.mem_dedup,List.mem_append,List.mem_singleton,tree.mem_places]
    split
    · rename_i hq
      exact ⟨fun _ => Option.some_ne_none _,fun _ => Or.inr hq⟩
    · rename_i hq
      exact ⟨fun h => h.resolve_right hq,Or.inl⟩
  root := by
    rw [if_neg fun hroot => h.1 hroot.symm]
    exact tree.root
  parent := by
    intro q part hq
    have hdir : tree.node q=some .directory := by
      by_cases hp : q++[part]=place
      · have hparent := h.2.1
        rwa [← hp,List.dropLast_concat] at hparent
      · rw [if_neg hp] at hq
        exact tree.parent q part hq
    rw [if_neg]
    · exact hdir
    · rintro rfl
      exact h.2.2 hdir

instance [DecidableEq α] (tree : Tree κ α) (place : List κ) : Decidable (tree.Writable place) :=
  inferInstanceAs (Decidable (_ ∧ _))

/-- Write a file, which is created or replaced. -/
def write [DecidableEq α] (tree : Tree κ α) (place : List κ) (content : α) :
    Except Obstacle (Tree κ α) :=
  if h : tree.Writable place then .ok (tree.withFile place content h)
  else if tree.node place=some .directory then .error .isADirectory
  else .error (tree.unreached place)

/-- The tree without a place and everything below it. The root stays. -/
def without (tree : Tree κ α) (place : List κ) : Tree κ α where
  node q := if place <+: q ∧ q≠[] then none else tree.node q
  places := tree.places.filter fun q => ¬(place <+: q ∧ q≠[])
  nodup := tree.nodup.filter _
  mem_places := by
    intro q
    rw [List.mem_filter,tree.mem_places,decide_eq_true_iff]
    split
    · rename_i hq
      exact ⟨fun h => absurd hq h.2,fun h => absurd rfl h⟩
    · rename_i hq
      exact ⟨fun h => h.1,fun h => ⟨h,hq⟩⟩
  root := by
    rw [if_neg fun h => h.2 rfl]
    exact tree.root
  parent := by
    intro q part hq
    split at hq
    · exact absurd rfl hq
    · rename_i hkept
      rw [if_neg]
      · exact tree.parent q part hq
      · intro hgone
        exact hkept ⟨hgone.1.trans (List.prefix_append q [part]),by simp⟩

/-- Remove a directory with everything in it. -/
def removeDirAll [DecidableEq α] (tree : Tree κ α) (place : List κ) :
    Except Obstacle (Tree κ α) :=
  match tree.node place with
  | some .directory => .ok (tree.without place)
  | some (.file _) => .error .notADirectory
  | none => .error (tree.unreached place)

/-- The places directly below a directory. -/
def children (tree : Tree κ α) (place : List κ) : List (List κ) :=
  tree.places.filter fun q => q≠[] ∧ q.dropLast=place

/-- A created directory stands at its place, with directories above it, and
no file stood on the way. -/
theorem createDirAll_ok {tree next : Tree κ α} {place : List κ}
    (h : tree.createDirAll place=.ok next) :
    next=tree.withDirectory place ∧ ∀ above, above <+: place → tree.content? above=none := by
  unfold createDirAll at h
  split at h
  · cases h
  · rename_i hway
    split at h
    · cases h
    · rename_i hplace
      rw [Bool.not_eq_true,blocked_eq_false] at hway hplace
      refine ⟨(Except.ok.inj h).symm,?_⟩
      intro above habove
      rcases prefix_cases habove with rfl | hup
      · exact hplace _ List.mem_cons_self
      · exact hway _ ((List.mem_inits _ _).mpr hup)

/-- Creating a directory leaves every file as it is. -/
theorem createDirAll_content {tree next : Tree κ α} {place : List κ}
    (h : tree.createDirAll place=.ok next) (q : List κ) : next.content? q=tree.content? q := by
  obtain ⟨rfl,hfree⟩ := createDirAll_ok h
  by_cases hq : q <+: place
  · rw [hfree q hq]
    unfold content? withDirectory
    dsimp only
    rw [if_pos hq]
  · exact content_eq (if_neg hq)

/-- Creating a directory leaves the other directories. -/
theorem createDirAll_directory {tree next : Tree κ α} {place : List κ}
    (h : tree.createDirAll place=.ok next) :
    next.node place=some .directory ∧
      ∀ q, tree.node q=some .directory → next.node q=some .directory := by
  obtain ⟨rfl,-⟩ := createDirAll_ok h
  refine ⟨if_pos List.prefix_rfl,?_⟩
  intro q hq
  unfold withDirectory
  dsimp only
  split
  · rfl
  · exact hq

/-- Where no file stands on the way, a directory is created. -/
theorem createDirAll_free {tree : Tree κ α} {place : List κ}
    (h : ∀ above, above <+: place → tree.content? above=none) :
    tree.createDirAll place=.ok (tree.withDirectory place) := by
  have hway : tree.blocked place.dropLast.inits=false := by
    rw [blocked_eq_false]
    intro q hq
    exact h q (((List.mem_inits _ _).mp hq).trans (List.dropLast_prefix place))
  have hplace : tree.blocked [place]=false := by
    rw [blocked_eq_false,List.forall_mem_singleton]
    exact h place List.prefix_rfl
  rw [createDirAll,hway,hplace]
  rfl

/-- Creating a directory that is there changes nothing. -/
theorem createDirAll_existing {tree : Tree κ α} {place : List κ}
    (h : tree.node place=some .directory) :
    ∃ next, tree.createDirAll place=.ok next ∧ next.node=tree.node := by
  have hnone : ∀ q, q <+: place → tree.content? q=none := by
    intro q hq
    unfold content?
    rw [tree.ancestors h hq]
  refine ⟨tree.withDirectory place,createDirAll_free hnone,?_⟩
  funext q
  unfold withDirectory
  dsimp only
  split
  · rename_i hq
    exact (tree.ancestors h hq).symm
  · rfl

omit [DecidableEq κ] in
/-- Where a file stands it can be replaced. -/
theorem writable_of_content {tree : Tree κ α} {place : List κ} {content : α}
    (h : tree.content? place=some content) : tree.Writable place := by
  have hnode := content_eq_some.mp h
  have hroot : place≠[] := by
    rintro rfl
    rw [tree.root] at hnode
    cases hnode
  refine ⟨hroot,?_,by rw [hnode]; exact fun hdir => by cases hdir⟩
  apply tree.parent place.dropLast (place.getLast hroot)
  rw [List.dropLast_append_getLast hroot,hnode]
  exact Option.some_ne_none _

/-- A file is written wherever that is possible. -/
theorem write_writable [DecidableEq α] {tree : Tree κ α} {place : List κ} (content : α)
    (h : tree.Writable place) : tree.write place content=.ok (tree.withFile place content h) :=
  dif_pos h

/-- A written file stands at its place and nothing else changes. -/
theorem write_ok [DecidableEq α] {tree next : Tree κ α} {place : List κ} {content : α}
    (h : tree.write place content=.ok next) :
    tree.Writable place ∧ next.node place=some (.file content) ∧
      ∀ q, q≠place → next.node q=tree.node q := by
  unfold write at h
  split at h
  · rename_i hw
    obtain rfl := Except.ok.inj h
    exact ⟨hw,if_pos rfl,fun q hq => if_neg hq⟩
  · split at h
    · cases h
    · cases h

end Tree

section Changes

variable {κ α : Type} [DecidableEq κ]

/-- A change of the contents of files. -/
inductive Change (κ α : Type) where
  /-- A file is written. -/
  | wrote (place : List κ) (content : α)
  /-- A directory is removed with everything below it. -/
  | erased (place : List κ)

/-- What a change leaves at a place, if it decides about it. -/
def Change.effect : Change κ α → List κ → Option (Option α)
  | .wrote place content,q => if q=place then some (some content) else none
  | .erased place,q => if place <+: q then some none else none

/-- The contents of a tree are those of another one after some changes. -/
def Tree.Follows (tree : Tree κ α) (changes : List (Change κ α)) (after : Tree κ α) : Prop :=
  after.content?=settled Change.effect tree.content? changes

/-- Trees that follow one another. -/
theorem Tree.Follows.append {tree mid last : Tree κ α} {first second : List (Change κ α)}
    (hfirst : tree.Follows first mid) (hsecond : mid.Follows second last) :
    tree.Follows (first++second) last := by
  unfold Tree.Follows at *
  rw [settled_append,← hfirst,hsecond]

/-- A tree with a written file. -/
theorem Tree.write_follows [DecidableEq α] {tree next : Tree κ α} {place : List κ} {content : α}
    (h : tree.write place content=.ok next) : tree.Follows [.wrote place content] next := by
  obtain ⟨-,hfile,hothers⟩ := write_ok h
  funext q
  rw [settled_single,Change.effect]
  by_cases hq : q=place
  · rw [if_pos hq,hq]
    exact content_eq_some.mpr hfile
  · rw [if_neg hq]
    exact content_eq (hothers q hq)

/-- A tree without a removed directory. -/
theorem Tree.removeDirAll_follows [DecidableEq α] {tree next : Tree κ α} {place : List κ}
    (h : tree.removeDirAll place=.ok next) : tree.Follows [.erased place] next := by
  unfold removeDirAll at h
  split at h
  · obtain rfl := Except.ok.inj h
    funext q
    rw [settled_single,Change.effect]
    by_cases hq : place <+: q
    · rw [if_pos hq]
      unfold content? without
      dsimp only
      by_cases hroot : q=[]
      · rw [if_neg fun hboth => hboth.2 hroot,hroot,tree.root]
        rfl
      · rw [if_pos ⟨hq,hroot⟩]
        rfl
    · rw [if_neg hq]
      exact content_eq (if_neg fun hboth => hq hboth.1)
  · cases h
  · cases h

end Changes

end LiteDroid.FileTree
