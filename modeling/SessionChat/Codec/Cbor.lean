import Mathlib.Data.List.Basic
import Mathlib.Tactic.Ring

/-!
# The restricted CBOR subset (`crates/session-protocol/src/lib.rs`, ADR 0005)

Unsigned integers, byte strings and arrays, which is all that bounded wire objects use. The
encoder writes every head in its shortest form. The reader accepts any head length, so that a
format with one representation per value has to compare with the re-encoding.
-/

set_option autoImplicit false

/-- `u64::MAX`; `usize` is taken to be as wide. -/
def SessionChat.u64Max : Nat := 2 ^ 64 - 1

namespace SessionChat.Codec

/-- The last `count` base-256 digits of `n`, most significant first. -/
def bigEndian : Nat → Nat → List UInt8
  | 0, _ => []
  | count + 1, n => UInt8.ofNat (n / 256 ^ count) :: bigEndian count n

/-- The number a digit string denotes. -/
def ofBigEndian (digits : List UInt8) : Nat :=
  digits.foldl (fun value digit => value * 256 + digit.toNat) 0

/-- Bytes of a fixed-width array, in order. -/
def fixedBytes (count : Nat) (x : BitVec (8 * count)) : List UInt8 :=
  bigEndian count x.toNat

@[simp] theorem length_bigEndian (count n : Nat) : (bigEndian count n).length = count := by
  induction count with
  | zero => rfl
  | succ count ih => simp [bigEndian, ih]

theorem foldl_bigEndian (count n value : Nat) :
    (bigEndian count n).foldl (fun value digit => value * 256 + digit.toNat) value =
      value * 256 ^ count + n % 256 ^ count := by
  induction count generalizing value with
  | zero => simp [bigEndian, Nat.mod_one]
  | succ count ih =>
    have hdigit : (UInt8.ofNat (n / 256 ^ count)).toNat = n / 256 ^ count % 256 := by simp
    rw [bigEndian, List.foldl_cons, ih, hdigit, Nat.pow_succ, Nat.mod_mul]
    ring

/-- Digits read back as the number, as far as they go. -/
theorem ofBigEndian_bigEndian (count n : Nat) :
    ofBigEndian (bigEndian count n) = n % 256 ^ count := by
  rw [ofBigEndian, foldl_bigEndian, Nat.zero_mul, Nat.zero_add]

@[simp] theorem length_fixedBytes (count : Nat) (x : BitVec (8 * count)) :
    (fixedBytes count x).length = count :=
  length_bigEndian count x.toNat

/-- A byte string of exactly `count` bytes as a fixed-width array. -/
def toFixed (count : Nat) (bytes : List UInt8) : Option (BitVec (8 * count)) :=
  if bytes.length = count then some (BitVec.ofNat _ (ofBigEndian bytes)) else none

theorem toFixed_fixedBytes (count : Nat) (x : BitVec (8 * count)) :
    toFixed count (fixedBytes count x) = some x := by
  have hwidth : x.toNat < 256 ^ count := by
    have hlt := x.isLt
    rwa [Nat.pow_mul] at hlt
  rw [toFixed, if_pos (length_fixedBytes count x), fixedBytes, ofBigEndian_bigEndian,
    Nat.mod_eq_of_lt hwidth, BitVec.ofNat_toNat, BitVec.setWidth_eq]

theorem fixedBytes_injective {count : Nat} {x y : BitVec (8 * count)}
    (h : fixedBytes count x = fixedBytes count y) : x = y := by
  have hread := congrArg (toFixed count) h
  rw [toFixed_fixedBytes, toFixed_fixedBytes] at hread
  exact Option.some.inj hread

/-- The digits read last are the low ones. -/
theorem foldl_div (digits : List UInt8) (value : Nat) :
    digits.foldl (fun value digit => value * 256 + digit.toNat) value / 256 ^ digits.length =
      value := by
  induction digits generalizing value with
  | nil => simp
  | cons digit digits ih =>
    have hdigit := digit.toNat_lt
    rw [List.foldl_cons, List.length_cons, Nat.pow_succ, ← Nat.div_div_eq_div_mul, ih]
    omega

theorem bigEndian_foldl (digits : List UInt8) (value : Nat) :
    bigEndian digits.length
      (digits.foldl (fun value digit => value * 256 + digit.toNat) value) = digits := by
  induction digits generalizing value with
  | nil => rfl
  | cons digit digits ih =>
    have hhead : UInt8.ofNat (value * 256 + digit.toNat) = digit := by
      apply UInt8.toNat_inj.mp
      have hdigit := digit.toNat_lt
      simp only [UInt8.toNat_ofNat']
      omega
    rw [List.length_cons, List.foldl_cons, bigEndian, foldl_div, hhead, ih]

/-- Every byte string of the right length is that of an array. -/
theorem exists_fixedBytes {count : Nat} {bytes : List UInt8} (h : bytes.length = count) :
    ∃ x, fixedBytes count x = bytes := by
  subst h
  have hlt : ofBigEndian bytes < 256 ^ bytes.length := by
    have hzero : ofBigEndian bytes / 256 ^ bytes.length = 0 := foldl_div bytes 0
    exact (Nat.div_eq_zero_iff.mp hzero).resolve_left (Nat.pow_pos (by decide)).ne'
  refine ⟨BitVec.ofNat _ (ofBigEndian bytes), ?_⟩
  rw [fixedBytes, BitVec.toNat_ofNat, Nat.pow_mul, Nat.mod_eq_of_lt hlt]
  exact bigEndian_foldl bytes 0

namespace Cbor

/-! ## Encoding -/

/-- Initial byte and argument, in the shortest form. -/
def head (major n : Nat) : List UInt8 :=
  if n < 24 then [UInt8.ofNat (major * 32 + n)]
  else if n < 2 ^ 8 then UInt8.ofNat (major * 32 + 24) :: bigEndian 1 n
  else if n < 2 ^ 16 then UInt8.ofNat (major * 32 + 25) :: bigEndian 2 n
  else if n < 2 ^ 32 then UInt8.ofNat (major * 32 + 26) :: bigEndian 4 n
  else UInt8.ofNat (major * 32 + 27) :: bigEndian 8 n

def unsigned (n : Nat) : List UInt8 := head 0 n

def byteString (bytes : List UInt8) : List UInt8 := head 2 bytes.length ++ bytes

def array (fields : Nat) : List UInt8 := head 4 fields

def headLength (n : Nat) : Nat :=
  if n < 24 then 1
  else if n < 2 ^ 8 then 2
  else if n < 2 ^ 16 then 3
  else if n < 2 ^ 32 then 5
  else 9

@[simp] theorem length_head (major n : Nat) : (head major n).length = headLength n := by
  unfold head headLength
  split_ifs <;> simp

theorem headLength_le (n : Nat) : headLength n ≤ 9 := by
  unfold headLength
  split_ifs <;> omega

theorem headLength_le_of_lt {n : Nat} (hn : n < 2 ^ 16) : headLength n ≤ 3 := by
  unfold headLength
  split_ifs <;> omega

/-! ## Decoding

A reader consumes the front of its input; `none` is a decoding error. -/

abbrev Reader (α : Type) := StateT (List UInt8) Option α

def take (count : Nat) : Reader (List UInt8) := fun input =>
  if count ≤ input.length then some (input.take count, input.drop count) else none

/-- Initial byte and argument of any length; the argument of an indefinite-length
item is `none`. -/
def readHead : Reader (Nat × Option Nat) := do
  let initial ← take 1
  let major := ofBigEndian initial / 32
  let info := ofBigEndian initial % 32
  if info < 24 then return (major, some info)
  else if info = 24 then return (major, some (ofBigEndian (← take 1)))
  else if info = 25 then return (major, some (ofBigEndian (← take 2)))
  else if info = 26 then return (major, some (ofBigEndian (← take 4)))
  else if info = 27 then return (major, some (ofBigEndian (← take 8)))
  else if info = 31 then return (major, none)
  else failure

/-- An unsigned integer below `2 ^ width`. -/
def readUnsigned (width : Nat) : Reader Nat := do
  match ← readHead with
  | (0, some n) => if n < 2 ^ width then return n else failure
  | _ => failure

/-- A definite-length byte string. -/
def readBytes : Reader (List UInt8) := do
  match ← readHead with
  | (2, some n) => take n
  | _ => failure

/-- An array head; `none` is the indefinite-length form. -/
def readArray : Reader (Option Nat) := do
  match ← readHead with
  | (4, length) => return length
  | _ => failure

variable {width n count major info : Nat}

theorem lt_of_readUnsigned {input rest : List UInt8} (h : readUnsigned width input =
      some (n, rest)) : n < 2 ^ width := by
  unfold readUnsigned at h
  simp only [bind, StateT.bind, Option.bind_eq_some_iff] at h
  obtain ⟨⟨⟨major, argument⟩, next⟩, -, h⟩ := h
  rcases major with _ | major
  · rcases argument with _ | value
    · cases h
    · change (if value < 2 ^ width then pure value else failure : Reader Nat) next = _ at h
      split_ifs at h with hlt
      · cases h
        exact hlt
      · cases h
  · cases h

/-! ## Reading back what was written -/

theorem take_append (front rest : List UInt8) (h : front.length = count) :
    take count (front ++ rest) = some (front, rest) := by
  subst h
  simp [take]

/-- The argument that follows an initial byte is read back as it was written. -/
theorem take_bigEndian (count n : Nat) (rest : List UInt8) :
    take count (bigEndian count n ++ rest) = some (bigEndian count n, rest) :=
  take_append _ _ (length_bigEndian count n)

theorem take_initial (byte : UInt8) (rest : List UInt8) :
    take 1 (byte :: rest) = some ([byte], rest) :=
  take_append [byte] rest rfl

theorem ofBigEndian_initial (hmajor : major < 8) (hinfo : info < 32) :
    ofBigEndian [UInt8.ofNat (major * 32 + info)] = major * 32 + info := by
  simp only [ofBigEndian, List.foldl_cons, List.foldl_nil, UInt8.toNat_ofNat']
  omega

/-- An initial byte is split into its major type and its additional information. -/
theorem readHead_cons (hmajor : major < 8) (hinfo : info < 32) (rest : List UInt8) :
    readHead (UInt8.ofNat (major * 32 + info) :: rest) = (if info < 24 then pure (major, some info)
      else if info = 24 then return (major, some (ofBigEndian (← take 1)))
      else if info = 25 then return (major, some (ofBigEndian (← take 2)))
      else if info = 26 then return (major, some (ofBigEndian (← take 4)))
      else if info = 27 then return (major, some (ofBigEndian (← take 8)))
      else if info = 31 then pure (major, none) else failure : Reader (Nat × Option Nat)) rest := by
  have hmajor_eq : (major * 32 + info) / 32 = major := by omega
  have hinfo_eq : (major * 32 + info) % 32 = info := by omega
  unfold readHead
  simp only [bind, StateT.bind, Option.bind_some, take_initial,
    ofBigEndian_initial hmajor hinfo, hmajor_eq,
    hinfo_eq]

/-- A number that fits the argument is read back from it. -/
theorem read_argument (hn : n < 256 ^ count) (rest : List UInt8) :
    (do return (major, some (ofBigEndian (← take count))) : Reader (Nat × Option Nat))
      (bigEndian count n ++ rest) = some ((major, some n), rest) := by
  simp only [bind, StateT.bind, Option.bind_some, take_bigEndian, ofBigEndian_bigEndian,
    Nat.mod_eq_of_lt hn]
  rfl

theorem readHead_head (hmajor : major < 8) (hn : n < 2 ^ 64) (rest : List UInt8) :
    readHead (head major n ++ rest) = some ((major, some n), rest) := by
  unfold head
  split_ifs with h24 h8 h16 h32
  · rw [List.singleton_append, readHead_cons hmajor (by omega), if_pos h24]
    rfl
  · exact (readHead_cons hmajor (by decide) _).trans (read_argument h8 rest)
  · exact (readHead_cons hmajor (by decide) _).trans (read_argument (by omega) rest)
  · exact (readHead_cons hmajor (by decide) _).trans (read_argument (by omega) rest)
  · exact (readHead_cons hmajor (by decide) _).trans (read_argument (by omega) rest)

theorem readUnsigned_unsigned (hwidth : width ≤ 64) (hn : n < 2 ^ width) (rest : List UInt8) :
    readUnsigned width (unsigned n ++ rest) = some (n, rest) := by
  have hhead : readHead (unsigned n ++ rest) = some ((0, some n), rest) :=
    readHead_head (by decide) (Nat.lt_of_lt_of_le hn (Nat.pow_le_pow_right (by decide) hwidth)) rest
  unfold readUnsigned
  simp only [bind, StateT.bind, Option.bind_some, hhead, if_pos hn]
  rfl

theorem readBytes_byteString {bytes : List UInt8} (hlength : bytes.length < 2 ^ 64)
    (rest : List UInt8) : readBytes (byteString bytes ++ rest) = some (bytes, rest) := by
  have hhead : readHead (byteString bytes ++ rest) =
      some ((2, some bytes.length), bytes ++ rest) := by
    rw [byteString, List.append_assoc]
    exact readHead_head (by decide) hlength _
  unfold readBytes
  simp only [bind, StateT.bind, hhead]
  exact take_append bytes rest rfl

theorem readArray_array {fields : Nat} (hfields : fields < 2 ^ 64) (rest : List UInt8) :
    readArray (array fields ++ rest) = some (some fields, rest) := by
  have hhead : readHead (array fields ++ rest) = some ((4, some fields), rest) :=
    readHead_head (by decide) hfields rest
  unfold readArray
  simp only [bind, StateT.bind, hhead]
  rfl

end Cbor

end SessionChat.Codec
