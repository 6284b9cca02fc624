import Mathlib.Data.List.Basic
import Mathlib.Data.Nat.NthRoot.Defs
import Mathlib.Data.Nat.Prime.Defs

/-! The Secure Hash Standard for 256 bits, as FIPS 180-4 defines it on messages of bytes. -/

namespace NdtSlam.SecureHash

abbrev Byte := BitVec 8

abbrev Word := BitVec 32

def firstPrimes : List Nat := (List.range 312).filter fun number => decide (Nat.Prime number)

def roundConstant (round : Nat) : Word :=
  BitVec.ofNat 32 (Nat.nthRoot 3 (firstPrimes.getD round 0 * 2 ^ 96))

def initialWord (place : Nat) : Word :=
  BitVec.ofNat 32 (Nat.sqrt (firstPrimes.getD place 0 * 2 ^ 64))

structure WorkingVariables where
  a : Word
  b : Word
  c : Word
  d : Word
  e : Word
  f : Word
  g : Word
  h : Word
  deriving DecidableEq

def initialValue : WorkingVariables :=
  ⟨initialWord 0, initialWord 1, initialWord 2, initialWord 3, initialWord 4, initialWord 5,
    initialWord 6, initialWord 7⟩

/-! ### The functions on words -/

def choose (x y z : Word) : Word := (x &&& y) ^^^ (~~~x &&& z)

def majority (x y z : Word) : Word := (x &&& y) ^^^ (x &&& z) ^^^ (y &&& z)

def bigSigma0 (x : Word) : Word := x.rotateRight 2 ^^^ x.rotateRight 13 ^^^ x.rotateRight 22

def bigSigma1 (x : Word) : Word := x.rotateRight 6 ^^^ x.rotateRight 11 ^^^ x.rotateRight 25

def smallSigma0 (x : Word) : Word := x.rotateRight 7 ^^^ x.rotateRight 18 ^^^ x >>> 3

def smallSigma1 (x : Word) : Word := x.rotateRight 17 ^^^ x.rotateRight 19 ^^^ x >>> 10

/-! ### One block -/

def wordOf (first second third fourth : Byte) : Word := first ++ second ++ third ++ fourth

def blockWord (block : List Byte) (place : Nat) : Word :=
  wordOf (block.getD (4 * place) 0) (block.getD (4 * place + 1) 0) (block.getD (4 * place + 2) 0)
    (block.getD (4 * place + 3) 0)

def messageSchedule (block : List Byte) (round : Nat) : Word :=
  if round < 16 then blockWord block round
  else smallSigma1 (messageSchedule block (round - 2)) + messageSchedule block (round - 7) +
    smallSigma0 (messageSchedule block (round - 15)) + messageSchedule block (round - 16)
termination_by round

def step (schedule : Nat → Word) (values : WorkingVariables) (round : Nat) : WorkingVariables :=
  let first := values.h + bigSigma1 values.e + choose values.e values.f values.g +
    roundConstant round + schedule round
  let second := bigSigma0 values.a + majority values.a values.b values.c
  ⟨first + second, values.a, values.b, values.c, values.d + first, values.e, values.f, values.g⟩

def compress (value : WorkingVariables) (block : List Byte) : WorkingVariables :=
  let last := (List.range 64).foldl (step (messageSchedule block)) value
  ⟨value.a + last.a, value.b + last.b, value.c + last.c, value.d + last.d, value.e + last.e,
    value.f + last.f, value.g + last.g, value.h + last.h⟩

/-! ### Whole messages -/

def zeroFill (length : Nat) : Nat := (119 - length % 64) % 64

def lengthBytes (length : Nat) : List Byte :=
  [56, 48, 40, 32, 24, 16, 8, 0].map fun shift => BitVec.ofNat 8 (8 * length / 2 ^ shift)

def pad (message : List Byte) : List Byte :=
  message ++ 0x80 :: List.replicate (zeroFill message.length) 0 ++ lengthBytes message.length

def hashBlocks (value : WorkingVariables) (text : List Byte) : WorkingVariables :=
  if 64 ≤ text.length then hashBlocks (compress value (text.take 64)) (text.drop 64) else value
termination_by text.length
decreasing_by simp only [List.length_drop]; omega

def wordDigits (word : Word) : List Char :=
  [7, 6, 5, 4, 3, 2, 1, 0].map fun place => Nat.digitChar (word.toNat / 16 ^ place % 16)

def WorkingVariables.words (value : WorkingVariables) : List Word :=
  [value.a, value.b, value.c, value.d, value.e, value.f, value.g, value.h]

def digest (message : List Byte) : String :=
  String.ofList ((hashBlocks initialValue (pad message)).words.flatMap wordDigits)

/-! ### Rules -/

theorem getLsbD_wordOf (first second third fourth : Byte) (place : Nat) :
    (wordOf first second third fourth).getLsbD place =
      if place < 8 then fourth.getLsbD place
      else if place < 16 then third.getLsbD (place - 8)
      else if place < 24 then second.getLsbD (place - 16)
      else first.getLsbD (place - 24) := by
  -- Each byte behind the first one moves the others up by eight places.
  show (first ++ second ++ third ++ fourth).getLsbD place = _
  simp only [BitVec.getLsbD_append]
  grind

theorem foldl_range'_from {α : Type} {Holds : Nat → α → Prop} {step : α → Nat → α} {start : Nat}
    {value : α} (count : Nat) (first : Holds start value)
    (next : ∀ {place value}, start ≤ place → place < start + count → Holds place value →
      Holds (place + 1) (step value place)) :
    Holds (start + count) ((List.range' start count).foldl step value) := by
  -- The induction is on how many places there are, and the last one is the last step.
  induction count with
  | zero => exact first
  | succ count ih =>
    have before : Holds (start + count) ((List.range' start count).foldl step value) :=
      ih fun low high => next low (by omega)
    rw [List.range'_1_concat, List.foldl_append]
    exact next (Nat.le_add_right start count) (Nat.lt_succ_self _) before

@[simp] theorem lengthBytes_length (length : Nat) : (lengthBytes length).length = 8 := rfl

variable {value : WorkingVariables}

theorem hashBlocks_short {text : List Byte} (short : text.length < 64) :
    hashBlocks value text = value := by
  rw [hashBlocks, if_neg (by omega)]

theorem hashBlocks_append_block {block rest : List Byte} (whole : block.length = 64) :
    hashBlocks value (block ++ rest) = hashBlocks (compress value block) rest := by
  rw [hashBlocks, if_pos (by rw [List.length_append]; omega), List.take_left' whole,
    List.drop_left' whole]

theorem hashBlocks_append {front rest : List Byte} (whole : front.length % 64 = 0) :
    hashBlocks value (front ++ rest) = hashBlocks (hashBlocks value front) rest := by
  induction value, front using hashBlocks.induct with
  | case1 value front long ih =>
    have split : front ++ rest = front.take 64 ++ (front.drop 64 ++ rest) := by
      rw [← List.append_assoc, List.take_append_drop]
    have first : (front.take 64).length = 64 := by rw [List.length_take]; omega
    have value' : hashBlocks value front =
        hashBlocks (compress value (front.take 64)) (front.drop 64) := by
      rw [hashBlocks, if_pos long]
    rw [split, hashBlocks_append_block first, ih (by rw [List.length_drop]; omega), value']
  | case2 value front short =>
    -- Less than a block that is made of whole blocks is nothing.
    have empty : front = [] := List.eq_nil_of_length_eq_zero (by omega)
    have nothing : hashBlocks value [] = value := hashBlocks_short (by decide)
    rw [empty, List.nil_append, nothing]

theorem hashBlocks_concat_block {front block : List Byte} (whole : front.length % 64 = 0)
    (last : block.length = 64) :
    hashBlocks value (front ++ block) = compress (hashBlocks value front) block := by
  rw [hashBlocks_append whole, ← List.append_nil block, hashBlocks_append_block last,
    hashBlocks_short (by decide), List.append_nil]

end NdtSlam.SecureHash
