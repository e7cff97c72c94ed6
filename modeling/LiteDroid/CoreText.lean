import Mathlib.Data.Nat.Notation

/-!
# Texts

The standard library's string functions that the modelled code calls, over
the characters of a decoded text.
-/

namespace LiteDroid.CoreText

/-- Unicode white space. -/
def isWhitespace (c : Char) : Bool :=
  let n := c.toNat
  (9 ≤ n && n ≤ 13) || n=0x20 || n=0x85 || n=0xa0 || n=0x1680 || (0x2000 ≤ n && n ≤ 0x200a) ||
    n=0x2028 || n=0x2029 || n=0x202f || n=0x205f || n=0x3000

/-- A text without leading and trailing white space. -/
def trim (s : String) : String :=
  String.ofList ((s.toList.dropWhile isWhitespace).reverse.dropWhile isWhitespace).reverse

/-- The maximal parts of a text without white space. -/
def splitWhitespace (s : String) : List String :=
  ((s.toList.splitOnP isWhitespace).filter fun part => !part.isEmpty).map String.ofList

/-- A terminated line without the carriage return before its end. -/
def stripReturn (line : List Char) : List Char :=
  if line.getLast?=some '\r' then line.dropLast else line

/-- The lines of a text, without their ends. A last line that is not
terminated counts if it is not empty, and keeps a final carriage return. -/
def lines (s : String) : List String :=
  let parts := s.toList.splitOn '\n'
  let terminated := parts.dropLast.map stripReturn
  let last := parts.getLast?.getD []
  (if last.isEmpty then terminated else terminated++[last]).map String.ofList

/-- The bytes of a text. -/
def asBytes (s : String) : List UInt8 := s.toUTF8.data.toList

/-- Whether a text starts with another one. -/
def startsWith (s key : String) : Bool := key.toList.isPrefixOf s.toList

/-- What stands between two separators has none itself, and only characters of
the whole. -/
theorem splitOn_part {c : Char} {text : List Char} :
    ∀ part∈text.splitOn c, c∉part ∧ ∀ x∈part, x∈text := by
  induction text with
  | nil =>
    intro part hpart
    rw [List.splitOn_nil,List.mem_singleton] at hpart
    rw [hpart]
    exact ⟨List.not_mem_nil,fun x hx => hx⟩
  | cons first rest ih =>
    intro part hpart
    rw [List.splitOn_cons_eq_if_modifyHead] at hpart
    split at hpart
    · rcases List.mem_cons.mp hpart with rfl | hlater
      · exact ⟨List.not_mem_nil,fun x hx => absurd hx List.not_mem_nil⟩
      · exact ⟨(ih part hlater).1,fun x hx => List.mem_cons_of_mem first ((ih part hlater).2 x hx)⟩
    · rename_i hfirst
      cases hsplit : rest.splitOn c with
      | nil => exact absurd hsplit (List.splitOn_ne_nil c rest)
      | cons head tail =>
        rw [hsplit] at hpart ih
        rcases List.mem_cons.mp hpart with rfl | hlater
        · obtain ⟨hnone,hall⟩ := ih head List.mem_cons_self
          refine ⟨?_,?_⟩
          · rw [List.mem_cons,not_or]
            exact ⟨fun hc => hfirst (beq_iff_eq.mpr hc.symm),hnone⟩
          · exact fun x hx => List.mem_cons.mpr ((List.mem_cons.mp hx).imp_right (hall x))
        · obtain ⟨hnone,hall⟩ := ih part (List.mem_cons_of_mem head hlater)
          exact ⟨hnone,fun x hx => List.mem_cons_of_mem first (hall x hx)⟩

/-- A line loses characters only. -/
theorem mem_stripReturn {line : List Char} {x : Char} (h : x∈stripReturn line) : x∈line := by
  unfold stripReturn at h
  split at h
  · exact List.dropLast_subset line h
  · exact h

/-- A line has no end of line, and only characters of its text. -/
theorem mem_lines {s line : String} (h : line∈lines s) :
    '\n'∉line.toList ∧ ∀ x∈line.toList, x∈s.toList := by
  have hlast : (s.toList.splitOn '\n').getLast?.getD []∈s.toList.splitOn '\n' := by
    rw [List.getLast?_eq_some_getLast (List.splitOn_ne_nil '\n' s.toList)]
    exact List.getLast_mem _
  unfold lines at h
  obtain ⟨chars,hchars,rfl⟩ := List.mem_map.mp h
  rw [String.toList_ofList]
  have hpart : ∃ part∈s.toList.splitOn '\n', ∀ x∈chars, x∈part := by
    have hterminated : chars∈(s.toList.splitOn '\n').dropLast.map stripReturn →
        ∃ part∈s.toList.splitOn '\n', ∀ x∈chars, x∈part := by
      intro hmem
      obtain ⟨part,hpart,rfl⟩ := List.mem_map.mp hmem
      exact ⟨part,List.dropLast_subset _ hpart,fun x => mem_stripReturn⟩
    split at hchars
    · exact hterminated hchars
    · rcases List.mem_append.mp hchars with hmem | hmem
      · exact hterminated hmem
      · rw [List.mem_singleton.mp hmem]
        exact ⟨_,hlast,fun x hx => hx⟩
  obtain ⟨part,hmem,hsub⟩ := hpart
  obtain ⟨hnone,hall⟩ := splitOn_part part hmem
  exact ⟨fun hc => hnone (hsub _ hc),fun x hx => hall x (hsub x hx)⟩

/-- A line without a carriage return is kept as it is. -/
theorem stripReturn_eq {line : List Char} (h : '\r'∉line) : stripReturn line=line := by
  unfold stripReturn
  rw [if_neg]
  intro hlast
  exact h (List.mem_of_getLast? hlast)

/-- Terminated lines are split where they end. -/
theorem splitOn_terminated {parts : List String} (h : ∀ line∈parts, '\n'∉line.toList) :
    (parts.flatMap fun line => line.toList++['\n']).splitOn '\n'=
      parts.map String.toList++[[]] := by
  induction parts with
  | nil => rfl
  | cons line rest ih =>
    rw [List.flatMap_cons,List.append_assoc,List.singleton_append,
      List.splitOn_append_cons_self_of_not_mem (h line List.mem_cons_self),
      ih fun other hother => h other (List.mem_cons_of_mem line hother)]
    rfl

/-- Lines that are written one after another, each with its end, are read back. -/
theorem lines_terminated {parts : List String}
    (h : ∀ line∈parts, '\n'∉line.toList ∧ '\r'∉line.toList) :
    lines (String.join (parts.map fun line => line++"\n"))=parts := by
  have htext : (String.join (parts.map fun line => line++"\n")).toList=
      parts.flatMap fun line => line.toList++['\n'] := by
    rw [String.toList_join,List.flatMap_map]
    simp only [String.toList_append]
    rfl
  have hstrip : (parts.map String.toList).map stripReturn=parts.map String.toList := by
    rw [List.map_map]
    exact List.map_congr_left fun line hline => stripReturn_eq (h line hline).2
  unfold lines
  rw [htext,splitOn_terminated fun line hline => (h line hline).1]
  simp only [List.dropLast_concat,List.getLast?_concat,Option.getD_some,List.isEmpty_nil,if_true,
    hstrip,List.map_map]
  exact (List.map_congr_left fun line _ => String.ofList_toList).trans (List.map_id _)

end LiteDroid.CoreText
