import LiteDroid.DaemonDispatch
import Mathlib.Data.List.Forall2

/-!
# Names of virtual devices

The virtual device of a profile is named after the profile, with every
character that is not an ASCII letter or digit replaced by an underscore, and
after the API level. Names that differ only in such characters share their
virtual device.
-/

namespace LiteDroid.DaemonAvdNames

open DaemonDispatch

/-- Two characters that a virtual device's name does not tell apart. -/
def Alike (a b : Char) : Prop := a=b ∨ (a.isAlphanum=false ∧ b.isAlphanum=false)

/-- Two names of the same length that differ at most where both have a character
that is not an ASCII letter or digit. -/
def Confusable (first second : String) : Prop := List.Forall₂ Alike first.toList second.toList

/-- The character that stands for a character of the profile's name. -/
def safeChar (c : Char) : Char := if c.isAlphanum then c else '_'

/-- A letter or digit is no other character. -/
theorem ne_of_isAlphanum {a b : Char} (ha : a.isAlphanum=true) (hb : b.isAlphanum=false) :
    a≠b := by
  intro heq
  rw [heq,hb] at ha
  cases ha

/-- An underscore stands for no letter and no digit. -/
theorem safeChar_eq_iff (a b : Char) : safeChar a=safeChar b ↔ Alike a b := by
  have hplain : ('_' : Char).isAlphanum=false := by decide
  unfold safeChar Alike
  cases ha : a.isAlphanum with
  | true =>
    cases hb : b.isAlphanum with
    | true => simp
    | false => simp [ne_of_isAlphanum ha hplain,ne_of_isAlphanum ha hb]
  | false =>
    cases hb : b.isAlphanum with
    | true => simp [(ne_of_isAlphanum hb hplain).symm,(ne_of_isAlphanum hb ha).symm]
    | false => simp

/-- The sanitised names agree exactly when the names are confusable. -/
theorem safe_eq_iff (first second : List Char) :
    first.map safeChar=second.map safeChar ↔ List.Forall₂ Alike first second := by
  induction first generalizing second with
  | nil =>
    cases second with
    | nil => exact ⟨fun _ => .nil,fun _ => rfl⟩
    | cons b later =>
      constructor
      · intro h
        cases h
      · intro h
        cases h
  | cons a rest ih =>
    cases second with
    | nil =>
      constructor
      · intro h
        cases h
      · intro h
        cases h
    | cons b later =>
      rw [List.map_cons,List.map_cons,List.cons_eq_cons,List.forall₂_cons,safeChar_eq_iff,ih]

/-- No character stands for a hyphen. -/
theorem safeChar_ne_hyphen (c : Char) : safeChar c≠ '-' := by
  have hplain : ('-' : Char).isAlphanum=false := by decide
  unfold safeChar
  split
  · rename_i halnum
    exact ne_of_isAlphanum halnum hplain
  · decide

/-- The characters of a virtual device's name. -/
theorem avdName_toList (name : String) (level : ℕ) :
    (avdName name level).toList="LiteDroid-".toList++
      (name.toList.map safeChar++ '-'::("API".toList++(toString level).toList)) := by
  have hhyphen : "-API".toList= '-'::"API".toList := rfl
  simp only [avdName,String.toList_append,String.toList_ofList,toString,hhyphen,
    List.append_assoc,List.cons_append]
  rfl

/-- The sanitised name is what stands before the first hyphen. -/
theorem safe_takeWhile (name rest : List Char) :
    (name.map safeChar++ '-'::rest).takeWhile (fun c => c≠ '-')=name.map safeChar := by
  have hall : ∀ c∈name.map safeChar, decide (c≠ '-')=true := by
    intro c hc
    obtain ⟨original,-,rfl⟩ := List.mem_map.mp hc
    exact decide_eq_true (safeChar_ne_hyphen original)
  rw [List.takeWhile_append_of_pos hall,List.takeWhile_cons_of_neg (by simp),List.append_nil]

/-- Two profiles have different virtual devices at all API levels exactly when
their names are not confusable. -/
theorem avd_names_differ_iff (first second : String) :
    (∀ level level' : UInt32, avdName first level.toNat≠avdName second level'.toNat) ↔
      ¬Confusable first second := by
  unfold Confusable
  rw [←safe_eq_iff]
  constructor
  · intro h hsafe
    refine h 0 0 (String.toList_injective ?_)
    rw [avdName_toList,avdName_toList,hsafe]
  · intro h level level' heq
    have hlist := congrArg String.toList heq
    rw [avdName_toList,avdName_toList,List.append_right_inj] at hlist
    have hsafe := congrArg (List.takeWhile fun c => c≠ '-') hlist
    rw [safe_takeWhile,safe_takeWhile] at hsafe
    exact h hsafe

/-- A space and an underscore are not told apart. -/
theorem space_and_underscore :
    "a b"≠"a_b" ∧ avdName "a b" (34 : UInt32).toNat=avdName "a_b" (34 : UInt32).toNat := by
  have hsafe : "a b".toList.map safeChar="a_b".toList.map safeChar := by decide
  refine ⟨by decide,String.toList_injective ?_⟩
  rw [avdName_toList,avdName_toList,hsafe]

end LiteDroid.DaemonAvdNames
