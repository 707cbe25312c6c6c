/-!
Little-endian numbers.  `encode width n` writes the low `width` bytes of `n`, lowest first, and
`decode` reads any byte list back; `decode_encode` and `encode_decode` make them inverse on numbers
that fit the width.
-/

namespace IssuanceClient

/-- An unsigned integer of 128 bits. -/
abbrev UInt128 := BitVec 128

namespace LittleEndian

/-- The low `width` bytes of a number, lowest first. -/
def encode : (width : Nat) → Nat → List UInt8
  | 0, _ => []
  | width + 1, n => UInt8.ofNat n :: encode width (n / 256)

/-- How many numbers fit into `width` bytes. -/
def capacity : (width : Nat) → Nat
  | 0 => 1
  | width + 1 => 256 * capacity width

/-- The number that a list of bytes denotes, lowest byte first. -/
def decode : List UInt8 → Nat
  | [] => 0
  | byte :: rest => byte.toNat + 256 * decode rest

@[simp] theorem length_encode (width n : Nat) : (encode width n).length = width := by
  induction width generalizing n with
  | zero => rfl
  | succ width ih => simp [encode, ih]

theorem decode_encode (width n : Nat) : decode (encode width n) = n % capacity width := by
  induction width generalizing n with
  | zero => simp [encode, decode, capacity, Nat.mod_one]
  | succ width ih =>
      rw [encode, decode, ih, capacity, Nat.mod_mul, UInt8.toNat_ofNat']

theorem decode_lt (bytes : List UInt8) : decode bytes < capacity bytes.length := by
  induction bytes with
  | nil => simp [decode, capacity]
  | cons byte rest ih =>
      have hbyte : byte.toNat < 256 := byte.toNat_lt
      simp only [decode, List.length_cons, capacity]
      omega

theorem encode_decode (bytes : List UInt8) : encode bytes.length (decode bytes) = bytes := by
  induction bytes with
  | nil => rfl
  | cons byte rest ih =>
      have hbyte : byte.toNat < 256 := byte.toNat_lt
      have hlow : UInt8.ofNat (byte.toNat + 256 * decode rest) = byte := by
        apply UInt8.toNat_inj.mp
        rw [UInt8.toNat_ofNat']
        omega
      have hhigh : (byte.toNat + 256 * decode rest) / 256 = decode rest := by omega
      simp only [List.length_cons, decode, encode, hlow, hhigh, ih]

/-- Eight bytes of an unsigned word. -/
def ofUInt64 (x : UInt64) : List UInt8 := encode 8 x.toNat

/-- Eight bytes of a signed word, in two's complement. -/
def ofInt64 (x : Int64) : List UInt8 := encode 8 x.toUInt64.toNat

/-- Sixteen bytes of an unsigned double word. -/
def ofUInt128 (x : UInt128) : List UInt8 := encode 16 x.toNat

/-- The unsigned word that eight bytes denote. -/
def toUInt64 (bytes : List UInt8) : UInt64 := UInt64.ofNat (decode bytes)

/-- The signed word that eight bytes denote, in two's complement. -/
def toInt64 (bytes : List UInt8) : Int64 := (toUInt64 bytes).toInt64

/-- The unsigned double word that sixteen bytes denote. -/
def toUInt128 (bytes : List UInt8) : UInt128 := BitVec.ofNat 128 (decode bytes)

@[simp] theorem length_ofUInt64 (x : UInt64) : (ofUInt64 x).length = 8 := length_encode _ _

@[simp] theorem length_ofInt64 (x : Int64) : (ofInt64 x).length = 8 := length_encode _ _

@[simp] theorem length_ofUInt128 (x : UInt128) : (ofUInt128 x).length = 16 := length_encode _ _

theorem encode_decode_of_length {width : Nat} {bytes : List UInt8}
    (hlength : bytes.length = width) : encode width (decode bytes) = bytes := by
  subst hlength
  exact encode_decode bytes

@[simp] theorem toUInt64_ofUInt64 (x : UInt64) : toUInt64 (ofUInt64 x) = x := by
  have hfits : x.toNat < capacity 8 := x.toNat_lt
  rw [toUInt64, ofUInt64, decode_encode, Nat.mod_eq_of_lt hfits, UInt64.ofNat_toNat]

@[simp] theorem toInt64_ofInt64 (x : Int64) : toInt64 (ofInt64 x) = x := by
  have hword : toUInt64 (ofInt64 x) = x.toUInt64 := toUInt64_ofUInt64 x.toUInt64
  rw [toInt64, hword]
  rfl

@[simp] theorem toUInt128_ofUInt128 (x : UInt128) : toUInt128 (ofUInt128 x) = x := by
  have hfits : x.toNat < capacity 16 := x.isLt
  rw [toUInt128, ofUInt128, decode_encode, Nat.mod_eq_of_lt hfits, BitVec.ofNat_toNat]
  exact BitVec.setWidth_eq x

theorem ofUInt64_toUInt64 {bytes : List UInt8} (hlength : bytes.length = 8) :
    ofUInt64 (toUInt64 bytes) = bytes := by
  have hfits : decode bytes < 2 ^ 64 := by
    have hlt := decode_lt bytes
    rwa [hlength] at hlt
  rw [ofUInt64, toUInt64, UInt64.toNat_ofNat', Nat.mod_eq_of_lt hfits,
    encode_decode_of_length hlength]

theorem ofInt64_toInt64 {bytes : List UInt8} (hlength : bytes.length = 8) :
    ofInt64 (toInt64 bytes) = bytes := by
  rw [ofInt64, toInt64, UInt64.toUInt64_toInt64]
  exact ofUInt64_toUInt64 hlength

theorem ofUInt128_toUInt128 {bytes : List UInt8} (hlength : bytes.length = 16) :
    ofUInt128 (toUInt128 bytes) = bytes := by
  have hfits : decode bytes < 2 ^ 128 := by
    have hlt := decode_lt bytes
    rwa [hlength] at hlt
  rw [ofUInt128, toUInt128, BitVec.toNat_ofNat, Nat.mod_eq_of_lt hfits,
    encode_decode_of_length hlength]

/-- Values that take `width` bytes each, and lose nothing by being written or read. -/
structure Codec {α : Type} (width : Nat) (write : α → List UInt8) (read : List UInt8 → α) :
    Prop where
  length_write (value : α) : (write value).length = width
  read_write (value : α) : read (write value) = value
  write_read {bytes : List UInt8} (hlength : bytes.length = width) : write (read bytes) = bytes

theorem codec_uint64 : Codec 8 ofUInt64 toUInt64 :=
  ⟨length_ofUInt64, toUInt64_ofUInt64, ofUInt64_toUInt64⟩

theorem codec_int64 : Codec 8 ofInt64 toInt64 :=
  ⟨length_ofInt64, toInt64_ofInt64, ofInt64_toInt64⟩

theorem codec_uint128 : Codec 16 ofUInt128 toUInt128 :=
  ⟨length_ofUInt128, toUInt128_ofUInt128, ofUInt128_toUInt128⟩

namespace Codec

variable {α : Type} {width : Nat} {write : α → List UInt8} {read : List UInt8 → α}

/-- What is written can be told from what follows it. -/
theorem write_append_inj (hcodec : Codec width write read) {x y : α} {rest left : List UInt8}
    (h : write x ++ rest = write y ++ left) : x = y ∧ rest = left := by
  have hlength : (write x).length = (write y).length := by
    rw [hcodec.length_write, hcodec.length_write]
  obtain ⟨hwrite, hrest⟩ := List.append_inj h hlength
  refine ⟨?_, hrest⟩
  rw [← hcodec.read_write x, hwrite, hcodec.read_write]

/-- Bytes enough for a value begin with one. -/
theorem exists_write_append (hcodec : Codec width write read) (bytes : List UInt8)
    (hlength : width ≤ bytes.length) :
    ∃ value rest, bytes = write value ++ rest ∧ width + rest.length = bytes.length := by
  refine ⟨read (bytes.take width), bytes.drop width, ?_, ?_⟩
  · rw [hcodec.write_read (List.length_take_of_le hlength), List.take_append_drop]
  · rw [List.length_drop]
    omega

end Codec

end LittleEndian

end IssuanceClient
