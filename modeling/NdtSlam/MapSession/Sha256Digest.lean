import NdtSlam.MapSession.Sha256

/-! Every digest of the files of a map session is the one of the Secure Hash Standard. -/

namespace NdtSlam

open SecureHash

namespace Sha256

/-! ### One block -/

variable {words : Array Word}

theorem getElem_set_words {place other : Nat} {value : Word} (inside : place < words.size) :
    (words.set! place value)[other]! = if other = place then value else words[other]! := by
  -- A word is read where there is one, and both arrays have the same places.
  grind

structure Scheduled (block : Vector Byte 64) (count : Nat) (words : Array Word) : Prop where
  size : words.size = 64
  word : ∀ place < count, words[place]! = messageSchedule block.toList place

variable {block : Vector Byte 64}

theorem Scheduled.set {count : Nat} {value : Word} (before : Scheduled block count words)
    (inside : count < 64) (next : value = messageSchedule block.toList count) :
    Scheduled block (count + 1) (words.set! count value) := by
  refine ⟨by simp [before.size], ?_⟩
  intro place low
  rw [getElem_set_words (by rw [before.size]; exact inside)]
  -- The new word is the last one, and the others were there before.
  split
  next same => rw [same, next]
  next other => exact before.word place (by omega)

theorem wordOf_eq (first second third fourth : Byte) :
    first.setWidth 32 <<< 24 ||| second.setWidth 32 <<< 16 ||| third.setWidth 32 <<< 8 |||
      fourth.setWidth 32 = wordOf first second third fourth := by
  -- The shifted bytes do not overlap, so each bit comes from one of them.
  apply BitVec.eq_of_getLsbD_eq
  intro place inside
  rw [getLsbD_wordOf]
  simp only [BitVec.getLsbD_or, BitVec.getLsbD_shiftLeft, BitVec.getLsbD_setWidth]
  grind

theorem getElem_block (block : Vector Byte 64) (place : Nat) :
    block[place]! = block.toList.getD place 0 := by
  -- Both read nothing but zeros outside.
  have zero : (default : Byte) = 0 := rfl
  rw [List.getD_eq_getElem?_getD, Vector.getElem?_toList]
  grind

variable {i : Nat}

theorem loadStep_scheduled (inside : i < 16) (before : Scheduled block i words) :
    Scheduled block (i + 1) (loadStep block words i) := by
  -- The recurrence starts behind the words of the block.
  unfold loadStep
  refine before.set (by omega) ?_
  rw [messageSchedule, if_pos inside, wordOf_eq]
  simp only [blockWord, getElem_block]

theorem scheduleStep_scheduled
    (later : 16 ≤ i) (inside : i < 64) (before : Scheduled block i words) :
    Scheduled block (i + 1) (scheduleStep words i) := by
  unfold scheduleStep
  refine before.set inside ?_
  rw [messageSchedule, if_neg (by omega), before.word (i - 15) (by omega),
    before.word (i - 2) (by omega), before.word (i - 16) (by omega), before.word (i - 7) (by omega)]
  -- A rotation is a pair of shifts, and the four summands stand in another order.
  show _ + smallSigma0 _ + _ + smallSigma1 _ = _
  ac_rfl

theorem schedule_scheduled (block : Vector Byte 64) : Scheduled block 64 (schedule block) := by
  -- One loop fills the words of the block, and the other one goes on behind them.
  have nothing : Scheduled block 0 (Array.replicate 64 0) := ⟨by simp, by omega⟩
  have loaded : Scheduled block (0 + 16) ((List.range' 0 16).foldl (loadStep block)
      (Array.replicate 64 0)) :=
    foldl_range'_from 16 nothing fun _ high => loadStep_scheduled (by omega)
  rw [schedule, List.range_eq_range']
  exact foldl_range'_from 48 loaded fun low high => scheduleStep_scheduled low (by omega)

theorem firstPrimes_eq : firstPrimes =
    [2, 3, 5, 7, 11, 13, 17, 19, 23, 29, 31, 37, 41, 43, 47, 53, 59, 61, 67, 71, 73, 79, 83, 89,
      97, 101, 103, 107, 109, 113, 127, 131, 137, 139, 149, 151, 157, 163, 167, 173, 179, 181, 191,
      193, 197, 199, 211, 223, 227, 229, 233, 239, 241, 251, 257, 263, 269, 271, 277, 281, 283, 293,
      307, 311] := by
  -- A number without a factor up to its root is prime.
  have indivisible : firstPrimes = (List.range 312).filter fun number => decide (2 ≤ number ∧
      ∀ factor ≤ Nat.sqrt number, 2 ≤ factor → ¬factor ∣ number) := by
    refine List.filter_congr fun _ _ => decide_eq_decide.2 ?_
    rw [Nat.prime_def_le_sqrt]
    simp only [@forall_comm (2 ≤ _)]
  rw [indivisible]
  with_unfolding_all decide

theorem kSha256Round_eq (inside : i < 64) : kSha256Round[i]! = roundConstant i := by
  -- The table is compared with the roots of the primes, one after the other.
  have each : ∀ i ∈ List.range 64, kSha256Round[i]! = roundConstant i := by
    unfold roundConstant
    rw [firstPrimes_eq]
    decide +kernel
  exact each i (List.mem_range.2 inside)

theorem round_eq {values : WorkingVariables} (inside : i < 64) :
    round (schedule block) values i = step (messageSchedule block.toList) values i := by
  -- What is left but the word and the constant is written in the same way.
  unfold round
  rw [(schedule_scheduled block).word i inside, kSha256Round_eq inside]
  rfl

theorem transform_eq (state : WorkingVariables) (block : Vector Byte 64) :
    transform state block = compress state block.toList := by
  -- Both go through the same rounds.
  have rounds : (List.range 64).foldl (round (schedule block)) state =
      (List.range 64).foldl (step (messageSchedule block.toList)) state :=
    List.foldl_ext _ _ _ fun values i inside => round_eq (List.mem_range.1 inside)
  unfold transform compress
  simp only [rounds]

/-! ### The buffer -/

variable (hash : Sha256)

def waiting : List Byte := hash.buffer.toList.take hash.bufferSize

structure Took (text : List Byte) : Prop where
  size : hash.bufferSize ≤ 64
  blocks : ∃ front, text = front ++ hash.waiting ∧ front.length % 64 = 0 ∧
    hash.state = hashBlocks initialValue front

@[simp] theorem put_bufferSize (byte : Byte) :
    (hash.put byte).bufferSize = hash.bufferSize + 1 := rfl

@[simp] theorem flushBuffer_bufferSize : hash.flushBuffer.bufferSize = 0 := by
  rw [flushBuffer]

@[simp] theorem flushBuffer_bitCount : hash.flushBuffer.bitCount = hash.bitCount := by
  rw [flushBuffer]

variable {hash} {text : List Byte}

theorem Took.length_mod (took : Took hash text) : text.length % 64 = hash.bufferSize % 64 := by
  -- The whole blocks in front leave no remainder.
  obtain ⟨front, rfl, whole, -⟩ := took.blocks
  have size := took.size
  rw [List.length_append, waiting, List.length_take, Vector.length_toList]
  omega

theorem Took.put (took : Took hash text) (room : hash.bufferSize < 64) (byte : Byte) :
    Took (hash.put byte) (text ++ [byte]) := by
  -- Neither the state nor the bytes that wait already are changed.
  obtain ⟨front, rfl, whole, state⟩ := took.blocks
  have behind : (hash.put byte).waiting = hash.waiting ++ [byte] := by
    have inside : hash.bufferSize < hash.buffer.toList.length := by
      rwa [Vector.length_toList]
    have put : (hash.put byte).buffer.toList = hash.buffer.toList.set hash.bufferSize byte := by
      unfold Sha256.put
      simp
    rw [waiting, waiting, put, put_bufferSize, List.take_add_one, List.getElem?_set_self inside,
      List.take_set_of_le (Nat.le_refl _)]
    rfl
  exact ⟨room, front, by rw [behind, List.append_assoc], whole, state⟩

theorem Took.flush (took : Took hash text) (full : hash.bufferSize = 64) :
    Took hash.flushBuffer text := by
  -- The block goes over to the ones in front, and nothing waits any longer.
  obtain ⟨front, rfl, whole, state⟩ := took.blocks
  have block : hash.waiting = hash.buffer.toList := by
    rw [waiting, full]
    exact List.take_of_length_le (by rw [Vector.length_toList])
  have size : hash.waiting.length = 64 := by rw [block, Vector.length_toList]
  refine ⟨Nat.zero_le _, front ++ hash.waiting, (List.append_nil _).symm, ?_, ?_⟩
  · rw [List.length_append]
    omega
  · rw [hashBlocks_concat_block whole size, block, ← state]
    exact transform_eq _ _

theorem Took.state_eq (took : Took hash text) (empty : hash.bufferSize = 0) :
    hash.state = hashBlocks initialValue text := by
  -- An empty buffer holds nothing back.
  obtain ⟨front, rfl, -, state⟩ := took.blocks
  rw [waiting, empty, List.take_zero, List.append_nil, state]

theorem took_nil : Took {} [] := by
  -- The words that a digest starts with are the roots of the first primes.
  have constants : ({} : Sha256).state = initialValue := by with_unfolding_all decide
  exact ⟨Nat.zero_le _, [], rfl, rfl, by rw [constants, hashBlocks_short (by decide)]⟩

/-! ### A message -/

structure Absorbed (hash : Sha256) (message : List Byte) : Prop extends Took hash message where
  room : hash.bufferSize < 64
  bits : hash.bitCount = BitVec.ofNat 64 (8 * message.length)

variable {message : List Byte}

theorem updateByte_absorbed (absorbed : Absorbed hash message) (byte : Byte) :
    Absorbed (hash.updateByte byte) (message ++ [byte]) := by
  have put : Took (hash.put byte) (message ++ [byte]) := absorbed.put absorbed.room byte
  have took : Took (hash.absorb byte) (message ++ [byte]) := ⟨put.size, put.blocks⟩
  have bits : (hash.absorb byte).bitCount = BitVec.ofNat 64 (8 * (message ++ [byte]).length) := by
    rw [absorb, absorbed.bits, List.length_append, List.length_singleton, Nat.mul_add,
      BitVec.ofNat_add]
    rfl
  -- A byte that fills the buffer sends it into the state.
  unfold updateByte
  by_cases full : (hash.absorb byte).bufferSize = 64
  · rw [if_pos full]
    exact ⟨took.flush full, by rw [flushBuffer_bufferSize]; decide, bits⟩
  · rw [if_neg full]
    exact ⟨took, lt_of_le_of_ne took.size full, bits⟩

theorem update_absorbed (absorbed : Absorbed hash message) (data : List Byte) :
    Absorbed (hash.update data) (message ++ data) := by
  -- The induction is on the row, and each of its bytes goes behind the message so far.
  unfold update
  induction data generalizing hash message with
  | nil => rwa [List.append_nil]
  | cons byte data ih =>
    have one := ih (updateByte_absorbed absorbed byte)
    rwa [List.append_assoc] at one

theorem updates_absorbed (absorbed : Absorbed hash message) (chunks : List (List Byte)) :
    Absorbed (chunks.foldl update hash) (message ++ chunks.flatten) := by
  -- Where one row ends and the next one starts leaves no trace.
  induction chunks generalizing hash message with
  | nil => rwa [List.flatten_nil, List.append_nil]
  | cons chunk chunks ih =>
    have one := ih (update_absorbed absorbed chunk)
    rwa [List.append_assoc] at one

/-! ### The end of a message -/

theorem foldl_put (took : Took hash text) (bytes : List Byte)
    (room : hash.bufferSize + bytes.length ≤ 64) :
    Took (bytes.foldl Sha256.put hash) (text ++ bytes) ∧
      (bytes.foldl put hash).bufferSize = hash.bufferSize + bytes.length ∧
      (bytes.foldl put hash).bitCount = hash.bitCount := by
  induction bytes generalizing hash text with
  | nil => exact ⟨by rwa [List.append_nil], rfl, rfl⟩
  | cons byte bytes ih =>
    rw [List.length_cons] at room
    obtain ⟨all, size, bits⟩ := ih (took.put (by omega) byte) (by rw [put_bufferSize]; omega)
    rw [List.append_assoc] at all
    refine ⟨all, ?_, bits⟩
    rw [List.foldl_cons, size, put_bufferSize, List.length_cons]
    omega

theorem Took.fillTo (took : Took hash text) {size : Nat} (below : hash.bufferSize ≤ size)
    (room : size ≤ 64) :
    Took (hash.fillTo size) (text ++ List.replicate (size - hash.bufferSize) 0) ∧
      (hash.fillTo size).bufferSize = size ∧ (hash.fillTo size).bitCount = hash.bitCount := by
  obtain ⟨filled, reached, bits⟩ := foldl_put took (List.replicate (size - hash.bufferSize) 0)
    (by rw [List.length_replicate]; omega)
  refine ⟨filled, ?_, bits⟩
  rw [Sha256.fillTo, reached, List.length_replicate]
  omega

theorem lengthByte_eq {length : Nat} (bits : hash.bitCount = BitVec.ofNat 64 (8 * length))
    (short : length < 2 ^ 61) (shift : Nat) :
    hash.lengthByte shift = BitVec.ofNat 8 (8 * length / 2 ^ shift) := by
  -- Below the limit the counter has not wrapped around.
  have fits : 8 * length % 2 ^ 64 = 8 * length := Nat.mod_eq_of_lt (by omega)
  have mask : ∀ number : Nat, number &&& 255 = number % 2 ^ 8 := fun number =>
    Nat.and_two_pow_sub_one_eq_mod number 8
  apply BitVec.eq_of_toNat_eq
  rw [lengthByte, bits, BitVec.toNat_setWidth, BitVec.toNat_and, BitVec.toNat_ushiftRight,
    BitVec.toNat_ofNat, fits, Nat.shiftRight_eq_div_pow, BitVec.toNat_ofNat]
  show (8 * length / 2 ^ shift &&& 255) % 2 ^ 8 = _
  rw [mask, Nat.mod_mod]

theorem foldl_put_lengthByte (shifts : List Nat) :
    shifts.foldl (fun hash shift => hash.put (hash.lengthByte shift)) hash =
      (shifts.map hash.lengthByte).foldl Sha256.put hash := by
  -- A byte of the length is not counted.
  induction shifts generalizing hash with
  | nil => rfl
  | cons shift shifts ih =>
    rw [List.foldl_cons, ih, List.map_cons, List.foldl_cons]
    rfl

theorem Took.putLength (took : Took hash text) {length : Nat} (short : length < 2 ^ 61)
    (bits : hash.bitCount = BitVec.ofNat 64 (8 * length)) (size : hash.bufferSize = 56) :
    Took hash.putLength (text ++ lengthBytes length) ∧ hash.putLength.bufferSize = 64 := by
  -- The eight bytes are those of the padding.
  have bytes : hash.putLength = (lengthBytes length).foldl Sha256.put hash := by
    rw [Sha256.putLength, foldl_put_lengthByte, funext (lengthByte_eq bits short)]
    rfl
  obtain ⟨all, full, -⟩ := foldl_put took (lengthBytes length)
    (by rw [size, lengthBytes_length])
  rw [bytes]
  exact ⟨all, by rw [full, size, lengthBytes_length]⟩

theorem closeMessage_took (absorbed : Absorbed hash message) :
    Took hash.closeMessage (message ++ 0x80 :: List.replicate (zeroFill message.length) 0) ∧
      hash.closeMessage.bufferSize = 56 ∧ hash.closeMessage.bitCount = hash.bitCount := by
  have room := absorbed.room
  have place : message.length % 64 = hash.bufferSize := by
    rw [absorbed.length_mod, Nat.mod_eq_of_lt room]
  have bit : Took (hash.put 0x80) (message ++ [0x80]) := absorbed.put room 0x80
  have zeros : ∀ {text}, text = List.replicate (zeroFill message.length) 0 → message ++ [0x80] ++
      text = message ++ 0x80 :: List.replicate (zeroFill message.length) 0 := by
    intro text same
    rw [same, List.append_assoc, List.singleton_append]
  by_cases long : 56 < hash.bufferSize + 1
  · -- The length does not fit, so zeros fill this block, and the next one up to the length.
    obtain ⟨filled, full, counted⟩ := bit.fillTo bit.size (Nat.le_refl 64)
    obtain ⟨next, size, same⟩ := (filled.flush full).fillTo (Nat.zero_le 56) (by decide)
    rw [flushBuffer_bufferSize, List.append_assoc, List.replicate_append_replicate, zeros] at next
    · have branch : hash.closeMessage = ((hash.put 0x80).fillTo 64).flushBuffer.fillTo 56 :=
        if_pos long
      rw [branch]
      exact ⟨next, size, by rw [same, flushBuffer_bitCount, counted]; rfl⟩
    · rw [put_bufferSize, zeroFill, place]
      congr 1
      omega
  · obtain ⟨filled, size, same⟩ := bit.fillTo (Nat.le_of_not_lt long) (by decide)
    rw [zeros] at filled
    · have branch : hash.closeMessage = (hash.put 0x80).fillTo 56 := if_neg long
      rw [branch]
      exact ⟨filled, size, same⟩
    · rw [put_bufferSize, zeroFill, place]
      congr 1
      omega

theorem closed_state (absorbed : Absorbed hash message) (short : message.length < 2 ^ 61) :
    hash.closeMessage.putLength.flushBuffer.state = hashBlocks initialValue (pad message) := by
  -- The length completes the last block, and with it everything is in the state.
  obtain ⟨closed, size, same⟩ := closeMessage_took absorbed
  obtain ⟨all, full⟩ := closed.putLength short (same.trans absorbed.bits) size
  have flushed := all.flush full
  rw [flushed.state_eq (flushBuffer_bufferSize _), pad, List.append_assoc]

/-! ### Hexadecimal digits -/

theorem leftpad_toDigits_succ (number count : Nat) :
    (Nat.toDigits 16 number).leftpad (count + 2) '0' =
      (Nat.toDigits 16 (number / 16)).leftpad (count + 1) '0' ++
        [Nat.digitChar (number % 16)] := by
  by_cases small : number < 16
  · -- There is one digit, and a quotient of zero is written like a leading zero.
    rw [Nat.toDigits_of_lt_base small, Nat.div_eq_of_lt small, Nat.mod_eq_of_lt small,
      Nat.toDigits_zero]
    simp [List.leftpad, List.replicate_succ']
  · rw [Nat.toDigits_of_base_le (by decide) (Nat.le_of_not_lt small)]
    simp [List.leftpad]

theorem leftpad_toDigits {number count : Nat} (fits : number < 16 ^ (count + 1)) :
    (Nat.toDigits 16 number).leftpad (count + 1) '0' =
      (List.range (count + 1)).reverse.map fun place =>
        Nat.digitChar (number / 16 ^ place % 16) := by
  -- The induction is on the places, and the quotient has one less.
  induction count generalizing number with
  | zero =>
    rw [Nat.toDigits_of_lt_base (by omega)]
    simp [List.leftpad, Nat.mod_eq_of_lt (show number < 16 by omega)]
  | succ count ih =>
    have quotient : number / 16 < 16 ^ (count + 1) := by
      rw [Nat.pow_succ] at fits
      omega
    rw [leftpad_toDigits_succ, ih quotient]
    conv => rhs; rw [List.range_succ_eq_map]
    simp [List.map_reverse, Nat.div_div_eq_div_mul, Nat.pow_succ']

theorem hexWord_eq (value : Word) : hexWord value = wordDigits value :=
  leftpad_toDigits value.isLt

/-- The text of a message, in however many rows it comes, has the digest of the standard. -/
theorem finish_eq_digest (chunks : List (List Byte)) (short : chunks.flatten.length < 2 ^ 61) :
    (chunks.foldl update {}).finish = digest chunks.flatten := by
  -- The rows are one message, and its padding is a matter of its length alone.
  have absorbed : Absorbed (chunks.foldl update {}) chunks.flatten :=
    updates_absorbed ⟨took_nil, by decide, rfl⟩ chunks
  rw [finish, closed_state absorbed short, funext hexWord_eq, digest]

theorem two_rows_digest :
    let rows : List (List Byte) :=
      ["abcdbcdecdefdefgefghfghighij".toList, "hijkijkljklmklmnlmnomnopnopq".toList].map fun row =>
        row.map fun letter => BitVec.ofNat 8 letter.toNat
    rows.flatten.length < 2 ^ 61 ∧
      digest rows.flatten = "248d6a61d20638b8e5c026930c3e6039a33ce45964ff2167f6ecedd419db06c1" := by
  intro rows
  have short : rows.flatten.length < 2 ^ 61 := by decide
  refine ⟨short, ?_⟩
  rw [← finish_eq_digest rows short]
  decide +kernel

end Sha256

end NdtSlam
