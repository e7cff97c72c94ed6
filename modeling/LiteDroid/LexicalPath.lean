import Mathlib.Data.Nat.Notation
import Mathlib.Data.List.Basic

/-!
# Paths as texts and as places

A path is a text of parts between slashes. It is read part by part from the
root or from a current directory: empty parts and single dots stay, double
dots go up, and the root is its own parent. Joining a path to another replaces
it when the second one is absolute. Read on its own, a path climbs some levels
and then descends through names; where it leads from a directory follows from
these two alone.
-/

namespace LiteDroid.LexicalPath

/-- The text between two slashes. -/
abbrev Part := List Char

/-- The parts of a path. -/
def parts (path : List Char) : List Part := path.splitOn '/'

/-- Whether a path starts at the root. -/
def isAbsolute (path : List Char) : Bool := path.head?=some '/'

/-- A path appended to another one; an absolute path replaces it. -/
def join (base path : List Char) : List Char :=
  if isAbsolute path then path
  else if base=[] ∨ base.getLast?=some '/' then base++path
  else base++ '/'::path

/-- The place reached from another one by one part. -/
def walk (place : List Part) (part : Part) : List Part :=
  if part=[] ∨ part=['.'] then place
  else if part=['.','.'] then place.dropLast
  else place++[part]

/-- The place a path stands for. -/
def resolve (cwd : List Part) (path : List Char) : List Part :=
  (parts path).foldl walk (if isAbsolute path then [] else cwd)

/-- How far a path climbs and through which names it then descends. -/
structure Course where
  /-- Levels it climbs first. -/
  ups : ℕ
  /-- Names it descends through. -/
  names : List Part
  deriving DecidableEq, Repr

/-- A course followed by one more part. -/
def Course.extend (c : Course) (part : Part) : Course :=
  if part=[] ∨ part=['.'] then c
  else if part=['.','.'] then
    if c.names=[] then ⟨c.ups+1,[]⟩ else ⟨c.ups,c.names.dropLast⟩
  else ⟨c.ups,c.names++[part]⟩

/-- The course of a path. -/
def course (path : List Char) : Course := (parts path).foldl Course.extend ⟨0,[]⟩

/-- Where a course leads from a place. -/
def Course.lead (c : Course) (place : List Part) : List Part :=
  place.take (place.length-c.ups)++c.names

/-- One part leads on from wherever the course leads. -/
theorem walk_lead (place : List Part) (c : Course) (part : Part) :
    walk (c.lead place) part=(c.extend part).lead place := by
  unfold walk Course.extend
  by_cases hstay : part=[] ∨ part=['.']
  · rw [if_pos hstay,if_pos hstay]
  · rw [if_neg hstay,if_neg hstay]
    by_cases hup : part=['.','.']
    · rw [if_pos hup,if_pos hup]
      by_cases hnames : c.names=[]
      · rw [if_pos hnames]
        unfold Course.lead
        have hlength : min (min (place.length-c.ups) place.length-1) (place.length-c.ups)=
            place.length-(c.ups+1) := by omega
        rw [hnames,List.append_nil,List.append_nil,List.dropLast_eq_take,List.length_take,
          List.take_take,hlength]
      · rw [if_neg hnames]
        unfold Course.lead
        exact List.dropLast_append_of_ne_nil hnames
    · rw [if_neg hup,if_neg hup]
      unfold Course.lead
      exact List.append_assoc _ _ _

/-- Parts lead on from wherever the course leads. -/
theorem foldl_walk_lead (place : List Part) (path : List Part) (c : Course) :
    path.foldl walk (c.lead place)=(path.foldl Course.extend c).lead place := by
  induction path generalizing c with
  | nil => rfl
  | cons part rest ih =>
    rw [List.foldl_cons,List.foldl_cons,walk_lead]
    exact ih (c.extend part)

/-- The parts of a path lead from a place where its course leads. -/
theorem foldl_walk_course (place : List Part) (path : List Char) :
    (parts path).foldl walk place=(course path).lead place := by
  have hstart : (⟨0,[]⟩ : Course).lead place=place := by
    unfold Course.lead
    rw [Nat.sub_zero,List.take_length,List.append_nil]
  have hlead := foldl_walk_lead place (parts path) ⟨0,[]⟩
  rw [hstart] at hlead
  exact hlead

/-- The parts of two paths with a slash between them. -/
theorem parts_slash (first second : List Char) :
    parts (first++ '/'::second)=parts first++parts second :=
  List.splitOn_append_cons_self first second

/-- A slash after a path leads nowhere else. -/
theorem resolve_slash (cwd : List Part) (path : List Char) (hpath : path≠[]) :
    resolve cwd (path++['/'])=resolve cwd path := by
  have habsolute : isAbsolute (path++['/'])=isAbsolute path := by
    unfold isAbsolute
    rw [List.head?_append_of_ne_nil path hpath]
  have hend : parts (path++['/'])=parts path++[[]] := parts_slash path []
  unfold resolve
  rw [habsolute,hend,List.foldl_append]
  rfl

/-- Behind a slash a path is read from where the first one leads. -/
theorem resolve_behind_slash (cwd : List Part) {first : List Char} (hfirst : first≠[])
    (second : List Char) :
    resolve cwd (first++ '/'::second)=(parts second).foldl walk (resolve cwd first) := by
  have habsolute : isAbsolute (first++ '/'::second)=isAbsolute first := by
    unfold isAbsolute
    rw [List.head?_append_of_ne_nil first hfirst]
  unfold resolve
  rw [habsolute,parts_slash,List.foldl_append]

/-- A joined relative path is read from where the base leads. -/
theorem resolve_join_relative (cwd : List Part) (base : List Char) {path : List Char}
    (h : isAbsolute path=false) :
    resolve cwd (join base path)=(parts path).foldl walk (resolve cwd base) := by
  have hrelative : ¬isAbsolute path=true := by
    rw [h]
    exact Bool.false_ne_true
  rw [join,if_neg hrelative]
  by_cases hbase : base=[]
  · rw [if_pos (Or.inl hbase),hbase,List.nil_append,resolve,h]
    rfl
  · by_cases hlast : base.getLast?=some '/'
    · obtain ⟨front,hfront⟩ := List.getLast?_eq_some_iff.mp hlast
      rw [if_pos (Or.inr hlast),hfront,List.append_assoc,List.singleton_append]
      cases front with
      | nil =>
        -- The base is the root itself.
        have hroot : parts ('/'::path)=[]::parts path := parts_slash [] path
        unfold resolve
        rw [List.nil_append,List.nil_append,hroot]
        rfl
      | cons c rest =>
        have hne : (c::rest)≠[] := List.cons_ne_nil c rest
        rw [resolve_behind_slash cwd hne,resolve_slash cwd (c::rest) hne]
    · have hneither : ¬(base=[] ∨ base.getLast?=some '/') := by
        rintro (hnil | hslash)
        · exact hbase hnil
        · exact hlast hslash
      rw [if_neg hneither,resolve_behind_slash cwd hbase]

/-- A path that is one name, which is neither of the two dot names. -/
def PlainName (path : List Char) : Prop :=
  isAbsolute path=false ∧ parts path=[path] ∧ path≠[] ∧ path≠['.'] ∧ path≠['.','.']

instance (path : List Char) : Decidable (PlainName path) := inferInstanceAs (Decidable (_ ∧ _))

/-- A joined name leads directly below the base. -/
theorem resolve_join_plain (cwd : List Part) (base : List Char) {path : List Char}
    (h : PlainName path) : resolve cwd (join base path)=resolve cwd base++[path] := by
  obtain ⟨hrelative,hparts,hempty,hdot,hdots⟩ := h
  rw [resolve_join_relative cwd base hrelative,hparts,List.foldl_cons,List.foldl_nil,walk,
    if_neg (not_or.mpr ⟨hempty,hdot⟩),if_neg hdots]

/-- Where a joined path leads follows from its course. -/
theorem resolve_join (cwd : List Part) (base path : List Char) :
    resolve cwd (join base path)=
      (course path).lead (if isAbsolute path then [] else resolve cwd base) := by
  cases h : isAbsolute path with
  | true =>
    rw [join,if_pos h,resolve,if_pos h,if_pos rfl,foldl_walk_course]
  | false =>
    rw [resolve_join_relative cwd base h,foldl_walk_course]
    rfl

end LiteDroid.LexicalPath
