import NdtSlam.Foundation.SecureHash

/-! The digest of the files of a map session, which is the one of the Secure Hash Standard. -/

namespace NdtSlam

open SecureHash

def kSha256Round : Array Word := #[
  0x428a2f98, 0x71374491, 0xb5c0fbcf, 0xe9b5dba5,
  0x3956c25b, 0x59f111f1, 0x923f82a4, 0xab1c5ed5,
  0xd807aa98, 0x12835b01, 0x243185be, 0x550c7dc3,
  0x72be5d74, 0x80deb1fe, 0x9bdc06a7, 0xc19bf174,
  0xe49b69c1, 0xefbe4786, 0x0fc19dc6, 0x240ca1cc,
  0x2de92c6f, 0x4a7484aa, 0x5cb0a9dc, 0x76f988da,
  0x983e5152, 0xa831c66d, 0xb00327c8, 0xbf597fc7,
  0xc6e00bf3, 0xd5a79147, 0x06ca6351, 0x14292967,
  0x27b70a85, 0x2e1b2138, 0x4d2c6dfc, 0x53380d13,
  0x650a7354, 0x766a0abb, 0x81c2c92e, 0x92722c85,
  0xa2bfe8a1, 0xa81a664b, 0xc24b8b70, 0xc76c51a3,
  0xd192e819, 0xd6990624, 0xf40e3585, 0x106aa070,
  0x19a4c116, 0x1e376c08, 0x2748774c, 0x34b0bcb5,
  0x391c0cb3, 0x4ed8aa4a, 0x5b9cca4f, 0x682e6ff3,
  0x748f82ee, 0x78a5636f, 0x84c87814, 0x8cc70208,
  0x90befffa, 0xa4506ceb, 0xbef9a3f7, 0xc67178f2]

def rotateRight (value : Word) (amount : Nat) : Word :=
  value >>> amount ||| value <<< (32 - amount)

structure Sha256 where
  state : WorkingVariables :=
    ⟨0x6a09e667, 0xbb67ae85, 0x3c6ef372, 0xa54ff53a,
      0x510e527f, 0x9b05688c, 0x1f83d9ab, 0x5be0cd19⟩
  buffer : Vector Byte 64 := Vector.replicate 64 0
  bufferSize : Nat := 0
  bitCount : BitVec 64 := 0

namespace Sha256

def scheduleStep (words : Array Word) (i : Nat) : Array Word :=
  let s0 := rotateRight words[i - 15]! 7 ^^^ rotateRight words[i - 15]! 18 ^^^ words[i - 15]! >>> 3
  let s1 := rotateRight words[i - 2]! 17 ^^^ rotateRight words[i - 2]! 19 ^^^ words[i - 2]! >>> 10
  words.set! i (words[i - 16]! + s0 + words[i - 7]! + s1)

def loadStep (block : Vector Byte 64) (words : Array Word) (i : Nat) : Array Word :=
  words.set! i
    (block[4 * i]!.setWidth 32 <<< 24 ||| block[4 * i + 1]!.setWidth 32 <<< 16 |||
      block[4 * i + 2]!.setWidth 32 <<< 8 ||| block[4 * i + 3]!.setWidth 32)

def schedule (block : Vector Byte 64) : Array Word :=
  let words := (List.range 16).foldl (loadStep block) (Array.replicate 64 0)
  (List.range' 16 48).foldl scheduleStep words

def round (words : Array Word) (values : WorkingVariables) (i : Nat) : WorkingVariables :=
  let s1 := rotateRight values.e 6 ^^^ rotateRight values.e 11 ^^^ rotateRight values.e 25
  let choice := values.e &&& values.f ^^^ ~~~values.e &&& values.g
  let t1 := values.h + s1 + choice + kSha256Round[i]! + words[i]!
  let s0 := rotateRight values.a 2 ^^^ rotateRight values.a 13 ^^^ rotateRight values.a 22
  let majority := values.a &&& values.b ^^^ values.a &&& values.c ^^^ values.b &&& values.c
  let t2 := s0 + majority
  ⟨t1 + t2, values.a, values.b, values.c, values.d + t1, values.e, values.f, values.g⟩

def transform (state : WorkingVariables) (block : Vector Byte 64) : WorkingVariables :=
  let words := schedule block
  let last := (List.range 64).foldl (round words) state
  ⟨state.a + last.a, state.b + last.b, state.c + last.c, state.d + last.d, state.e + last.e,
    state.f + last.f, state.g + last.g, state.h + last.h⟩

variable (self : Sha256)

def put (byte : Byte) : Sha256 :=
  { self with
    buffer := self.buffer.set! self.bufferSize byte, bufferSize := self.bufferSize + 1 }

def flushBuffer : Sha256 :=
  { self with state := transform self.state self.buffer, bufferSize := 0 }

def absorb (byte : Byte) : Sha256 := { self.put byte with bitCount := self.bitCount + 8 }

def updateByte (byte : Byte) : Sha256 :=
  let self := self.absorb byte
  if self.bufferSize = 64 then self.flushBuffer else self

def update (data : List Byte) : Sha256 := data.foldl updateByte self

def fillTo (size : Nat) : Sha256 := (List.replicate (size - self.bufferSize) 0).foldl put self

def lengthByte (shift : Nat) : Byte := (self.bitCount >>> shift &&& 0xff).setWidth 8

def putLength : Sha256 :=
  [56, 48, 40, 32, 24, 16, 8, 0].foldl (fun self shift => self.put (self.lengthByte shift)) self

def closeMessage : Sha256 :=
  let self := self.put 0x80
  if 56 < self.bufferSize then ((self.fillTo 64).flushBuffer).fillTo 56 else self.fillTo 56

def hexWord (value : Word) : List Char := (Nat.toDigits 16 value.toNat).leftpad 8 '0'

def finish : String :=
  String.ofList (self.closeMessage.putLength.flushBuffer.state.words.flatMap hexWord)

end Sha256

end NdtSlam
