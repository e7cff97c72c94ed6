import Mathlib.Tactic.Ring
import Mathlib.Data.List.Basic

/-!
# Little-endian byte words

A word of a given number of bytes and the natural number it stands for. Both
directions are total; the value of a word fits its width, and a value that
fits its width is recovered from its bytes.
-/

namespace LiteDroid.LittleEndian

/-- The natural number of a little-endian byte word. -/
def leNat : List UInt8 → ℕ
  | [] => 0
  | byte::rest => byte.toNat+256*leNat rest

/-- The lowest bytes of a natural number, least significant first. -/
def leBytes : ℕ → ℕ → List UInt8
  | 0,_ => []
  | width+1,n => UInt8.ofNat n::leBytes width (n/256)

/-- The encoding has exactly the requested width. -/
@[simp] theorem leBytes_length (width n : ℕ) : (leBytes width n).length=width := by
  induction width generalizing n with
  | zero => rfl
  | succ width ih => simp only [leBytes,List.length_cons,ih]

/-- Decoding an encoding keeps the value modulo the width. -/
theorem leNat_leBytes (width n : ℕ) : leNat (leBytes width n)=n%256^width := by
  induction width generalizing n with
  | zero => simp [leBytes,leNat,Nat.mod_one]
  | succ width ih =>
    have hb : (UInt8.ofNat n).toNat=n%256 := by simp
    simp only [leBytes,leNat,ih,hb]
    rw [pow_succ,Nat.mul_comm (256^width) 256,Nat.mod_mul]

/-- A word's value fits its width. -/
theorem leNat_lt (bytes : List UInt8) : leNat bytes < 256^bytes.length := by
  induction bytes with
  | nil => simp [leNat]
  | cons byte rest ih =>
    have hb := byte.toNat_lt
    simp only [leNat,List.length_cons,pow_succ]
    omega

/-- Encoding a word's value at the word's own width gives the word back. -/
theorem leBytes_leNat (bytes : List UInt8) : leBytes bytes.length (leNat bytes)=bytes := by
  induction bytes with
  | nil => rfl
  | cons byte rest ih =>
    have hb := byte.toNat_lt
    have hd : (byte.toNat+256*leNat rest)/256=leNat rest := by omega
    have hm : UInt8.ofNat (byte.toNat+256*leNat rest)=byte := by
      apply UInt8.toNat_inj.mp
      simp only [UInt8.toNat_ofNat']
      omega
    simp only [List.length_cons,leNat,leBytes,hd,hm,ih]

/-- Two words one behind the other. -/
theorem leNat_append (low high : List UInt8) :
    leNat (low++high)=leNat low+256^low.length*leNat high := by
  induction low with
  | nil => simp [leNat]
  | cons byte rest ih =>
    simp only [List.cons_append,leNat,ih,List.length_cons,pow_succ]
    ring

/-- The lowest bytes of an encoding are the narrower encoding. -/
theorem leBytes_take {width count : ℕ} (n : ℕ) (h : count ≤ width) :
    (leBytes width n).take count=leBytes count n := by
  induction count generalizing width n with
  | zero => rfl
  | succ count ih =>
    obtain ⟨width,rfl⟩ : ∃ w, width=w+1 := ⟨width-1,by omega⟩
    simp only [leBytes,List.take_succ_cons]
    rw [ih (n/256) (by omega)]

/-- Behind its lowest bytes an encoding continues with those of the quotient. -/
theorem leBytes_drop (width count n : ℕ) :
    (leBytes width n).drop count=leBytes (width-count) (n/256^count) := by
  induction count generalizing width n with
  | zero => simp
  | succ count ih =>
    cases width with
    | zero => simp [leBytes]
    | succ width =>
      have hsub : width+1-(count+1)=width-count := by omega
      simp only [leBytes,List.drop_succ_cons]
      rw [ih,hsub,Nat.div_div_eq_div_mul,pow_succ,Nat.mul_comm]

/-- The value of a window of an encoding. -/
theorem leNat_window {width start count : ℕ} (n : ℕ) (h : start+count ≤ width) :
    leNat (((leBytes width n).drop start).take count)=n/256^start%256^count := by
  rw [leBytes_drop,leBytes_take _ (by omega),leNat_leBytes]

/-- The natural number of a byte word whose most significant byte comes first. -/
def beNat (bytes : List UInt8) : ℕ := leNat bytes.reverse

/-- A byte at the end of such a word is its least significant one. -/
theorem beNat_snoc (bytes : List UInt8) (byte : UInt8) :
    beNat (bytes++[byte])=byte.toNat+256*beNat bytes := by
  rw [beNat,List.reverse_append,List.reverse_singleton,List.singleton_append,leNat,beNat]

/-- Such a word fits its width. -/
theorem beNat_lt (bytes : List UInt8) : beNat bytes < 256^bytes.length := by
  have hlt := leNat_lt bytes.reverse
  rwa [List.length_reverse] at hlt

/-- Its value has the bytes of the word the other way round. -/
theorem leBytes_beNat (bytes : List UInt8) :
    leBytes bytes.length (beNat bytes)=bytes.reverse := by
  have hback := leBytes_leNat bytes.reverse
  rwa [List.length_reverse] at hback

/-- The four bytes of a 32-bit word, least significant first. -/
def leWord (word : UInt32) : List UInt8 := leBytes 4 word.toNat

/-- The 32-bit word of four bytes, least significant first. -/
def wordLe (bytes : List UInt8) : UInt32 := UInt32.ofNat (leNat bytes)

/-- A 32-bit word has four bytes. -/
@[simp] theorem leWord_length (word : UInt32) : (leWord word).length=4 := leBytes_length 4 word.toNat

/-- Reading the bytes of a word gives the word. -/
@[simp] theorem wordLe_leWord (word : UInt32) : wordLe (leWord word)=word := by
  have hlt := word.toNat_lt
  apply UInt32.toNat_inj.mp
  rw [wordLe,leWord,leNat_leBytes,UInt32.toNat_ofNat']
  omega

/-- Writing the word of four bytes gives the bytes. -/
theorem leWord_wordLe {bytes : List UInt8} (h : bytes.length=4) : leWord (wordLe bytes)=bytes := by
  have hlt := leNat_lt bytes
  rw [h] at hlt
  have hvalue : (wordLe bytes).toNat=leNat bytes := by
    rw [wordLe,UInt32.toNat_ofNat']
    omega
  have hback := leBytes_leNat bytes
  rw [h] at hback
  rw [leWord,hvalue,hback]

end LiteDroid.LittleEndian
