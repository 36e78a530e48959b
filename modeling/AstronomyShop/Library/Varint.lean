import AstronomyShop.Library.TaggedFields

/-!
# Varints

The binary format of protocol buffers for the values of `BinaryFormat`. A varint holds seven bits of
a number in each byte, the lowest ones first, and the top bit of all bytes but the last is set. A
negative number is written as its two's complement of 64 bits.
-/

namespace TaggedFields

/-- `n` in at most `groups + 1` bytes. -/
def writeVarint : Nat → Nat → Bytes
  | 0, n => [.ofNat n]
  | groups + 1, n =>
    if n < 128 then [.ofNat n] else .ofNat (n % 128 + 128) :: writeVarint groups (n / 128)

def readVarint : Nat → Bytes → Except String (Nat × Bytes)
  | _, [] => .error "premature EOF"
  | 0, b :: bs => if b.toNat < 128 then .ok (b.toNat, bs) else .error "invalid varint"
  | groups + 1, b :: bs =>
    if b.toNat < 128 then .ok (b.toNat, bs)
    else
      match readVarint groups bs with
      | .error err => .error err
      | .ok (n, bs) => .ok (b.toNat - 128 + 128 * n, bs)

theorem writeVarint_ne_nil (groups n : Nat) : writeVarint groups n ≠ [] := by
  cases groups with
  | zero => exact List.cons_ne_nil _ _
  | succ groups =>
    rw [writeVarint]
    split
    · exact List.cons_ne_nil _ _
    · exact List.cons_ne_nil _ _

theorem toNat_ofNat_byte {b : Nat} (h : b < 256) : (UInt8.ofNat b).toNat = b := Nat.mod_eq_of_lt h

theorem readVarint_last {n : Nat} (h : n < 128) (groups : Nat) (rest : Bytes) :
    readVarint groups (.ofNat n :: rest) = .ok (n, rest) := by
  have hbyte : (UInt8.ofNat n).toNat = n := toNat_ofNat_byte (by omega)
  cases groups with
  | zero => rw [readVarint, hbyte, if_pos h]
  | succ groups => rw [readVarint, hbyte, if_pos h]

theorem readVarint_writeVarint {groups n : Nat} (h : n < 128 ^ (groups + 1)) (rest : Bytes) :
    readVarint groups (writeVarint groups n ++ rest) = .ok (n, rest) := by
  induction groups generalizing n with
  | zero => exact readVarint_last (by omega) 0 rest
  | succ groups ih =>
    rw [writeVarint]
    split
    · rename_i hn
      exact readVarint_last hn _ rest
    · have hdiv : n / 128 < 128 ^ (groups + 1) := by
        rw [Nat.pow_succ] at h
        exact Nat.div_lt_of_lt_mul (by omega)
      have hgroup : (UInt8.ofNat (n % 128 + 128)).toNat = n % 128 + 128 :=
        toNat_ofNat_byte (by omega)
      rw [List.cons_append, readVarint, hgroup, if_neg (by omega), ih hdiv]
      simp only [Except.ok.injEq, Prod.mk.injEq, and_true]
      omega

/-- The two's complement of 64 bits. -/
def complement (n : Int) : Nat := (n % 2 ^ 64).toNat

theorem complement_lt (n : Int) : complement n < 128 ^ 10 := by
  unfold complement
  omega

theorem ofInt_complement (n : Int32) : Int32.ofInt (complement n.toInt) = n := by
  have hlt := n.toInt_lt
  have hle := n.le_toInt
  rw [Int32.ofInt_eq_iff_bmod_eq_toInt, complement, Int.bmod_def]
  omega

theorem ofInt_complement64 (n : Int64) : Int64.ofInt (complement n.toInt) = n := by
  have hlt := n.toInt_lt
  have hle := n.le_toInt
  rw [Int64.ofInt_eq_iff_bmod_eq_toInt, complement, Int.bmod_def]
  omega

def writeString (s : String) : Bytes :=
  let bytes := s.toUTF8.data.toList
  writeVarint 9 bytes.length ++ bytes

def readString (bs : Bytes) : Except String (String × Bytes) :=
  match readVarint 9 bs with
  | .error err => .error err
  | .ok (length, bs) =>
    if bs.length < length then .error "premature EOF"
    else
      match String.fromUTF8? ⟨(bs.take length).toArray⟩ with
      | none => .error "invalid UTF-8"
      | some s => .ok (s, bs.drop length)

theorem readString_writeString {s : String} (h : (writeString s).length < 2 ^ 32) (rest : Bytes) :
    readString (writeString s ++ rest) = .ok (s, rest) := by
  have hlength : s.toUTF8.data.toList.length < 128 ^ 10 := by
    unfold writeString at h
    rw [List.length_append] at h
    omega
  have hutf8 : String.fromUTF8? ⟨s.toUTF8.data.toList.toArray⟩ = some s := dif_pos s.isValidUTF8
  unfold readString writeString
  rw [List.append_assoc, readVarint_writeVarint hlength]
  dsimp only
  rw [if_neg (by rw [List.length_append]; omega), List.take_left, List.drop_left, hutf8]

/-- Skips a value of the wire types that are in use. -/
def skip (wireType : Nat) (bs : Bytes) : Except String Bytes :=
  let dropBytes (n : Nat) (bs : Bytes) : Except String Bytes :=
    if bs.length < n then .error "premature EOF" else .ok (bs.drop n)
  match wireType with
  | 0 => (readVarint 9 bs).map Prod.snd
  | 1 => dropBytes 8 bs
  | 2 =>
    match readVarint 9 bs with
    | .error err => .error err
    | .ok (length, bs) => dropBytes length bs
  | 5 => dropBytes 4 bs
  | _ => .error "cant skip wire type"

/-- The format of protocol buffers. -/
def protobuf : BinaryFormat where
  uint32 n := writeVarint 9 n
  int32 n := writeVarint 9 (complement n.toInt)
  int64 n := writeVarint 9 (complement n.toInt)
  bool b := writeVarint 9 b.toNat
  string := writeString
  readUint32 bs := (readVarint 9 bs).map fun (n, bs) => (n % 2 ^ 32, bs)
  readInt32 bs := (readVarint 9 bs).map fun (n, bs) => (Int32.ofInt n, bs)
  readInt64 bs := (readVarint 9 bs).map fun (n, bs) => (Int64.ofInt n, bs)
  readBool bs := (readVarint 9 bs).map fun (n, bs) => (n != 0, bs)
  readString := readString
  skip := skip
  uint32_ne_nil n := writeVarint_ne_nil 9 n
  readUint32_uint32 n h rest := by
    rw [readVarint_writeVarint (by omega)]
    simp only [Except.map, Nat.mod_eq_of_lt h]
  readInt32_int32 n rest := by
    rw [readVarint_writeVarint (complement_lt _)]
    simp only [Except.map, ofInt_complement]
  readInt64_int64 n rest := by
    rw [readVarint_writeVarint (complement_lt _)]
    simp only [Except.map, ofInt_complement64]
  readBool_bool b rest := by
    rw [readVarint_writeVarint (by cases b <;> decide)]
    cases b <;> rfl
  readString_string _ h := readString_writeString h

end TaggedFields
