import Mathlib.Algebra.Ring.Int.Defs
import Mathlib.Algebra.Ring.Nat
import Mathlib.Data.List.Nodup
import Mathlib.Tactic.Common

/-!
# Messages of tagged fields

A message is written as a sequence of records, a tag and a value each. The tag is made of the
number of a field and of a wire type, from which a reader that does not know the field can tell
where its value ends. How single values are written is left to a `BinaryFormat`.

* `Codec`: values with the condition under which they are read back.
* `MessageType`: the fields of a message. Its decoder reads records in any order, and skips those
  that it does not know.
* `MessageType.decode_of_records`: what is written is read back, with any unknown records in
  between, if and only if each of its values is.
-/

namespace TaggedFields

abbrev Bytes := List UInt8

/-- How single values are written and read. A reader returns the bytes after the value. -/
structure BinaryFormat where
  uint32 : Nat → Bytes
  int32 : Int32 → Bytes
  int64 : Int64 → Bytes
  bool : Bool → Bytes
  string : String → Bytes
  readUint32 : Bytes → Except String (Nat × Bytes)
  readInt32 : Bytes → Except String (Int32 × Bytes)
  readInt64 : Bytes → Except String (Int64 × Bytes)
  readBool : Bytes → Except String (Bool × Bytes)
  readString : Bytes → Except String (String × Bytes)
  /-- Skips a value of a wire type. -/
  skip : Nat → Bytes → Except String Bytes
  uint32_ne_nil : ∀ n, uint32 n ≠ []
  readUint32_uint32 : ∀ n, n < 2 ^ 32 → ∀ rest, readUint32 (uint32 n ++ rest) = .ok (n, rest)
  readInt32_int32 : ∀ n rest, readInt32 (int32 n ++ rest) = .ok (n, rest)
  readInt64_int64 : ∀ n rest, readInt64 (int64 n ++ rest) = .ok (n, rest)
  readBool_bool : ∀ b rest, readBool (bool b ++ rest) = .ok (b, rest)
  readString_string : ∀ s, (string s).length < 2 ^ 32 → ∀ rest,
    readString (string s ++ rest) = .ok (s, rest)

/-! ## Values -/

/-- A way to write values of a type. Those that are not `Readable` are refused with an error that
satisfies `Refusal`. -/
structure Codec (Refusal : String → Prop) (α : Type) where
  write : α → Bytes
  read : Bytes → Except String (α × Bytes)
  Readable : α → Prop
  reads : ∀ a, Readable a → (write a).length < 2 ^ 32 → ∀ rest,
    read (write a ++ rest) = .ok (a, rest)
  refuses : ∀ a, ¬ Readable a → (write a).length < 2 ^ 32 → ∀ rest,
    ∃ err, Refusal err ∧ read (write a ++ rest) = .error err

variable {Refusal : String → Prop}

def BinaryFormat.int32Codec (F : BinaryFormat) : Codec Refusal Int32 where
  write := F.int32
  read := F.readInt32
  Readable _ := True
  reads a _ _ := F.readInt32_int32 a
  refuses _ h := absurd trivial h

def BinaryFormat.boolCodec (F : BinaryFormat) : Codec Refusal Bool where
  write := F.bool
  read := F.readBool
  Readable _ := True
  reads a _ _ := F.readBool_bool a
  refuses _ h := absurd trivial h

def BinaryFormat.stringCodec (F : BinaryFormat) : Codec Refusal String where
  write := F.string
  read := F.readString
  Readable _ := True
  reads a _ := F.readString_string a
  refuses _ h := absurd trivial h

/-! ## Fields -/

/-- A field of a message: the values that are written for it, and what a value that is read does to
the message. -/
structure Field (Refusal : String → Prop) (M : Type) where
  {α : Type}
  number : Nat
  wireType : Nat
  codec : Codec Refusal α
  values : M → List α
  add : α → M → M

namespace Field

variable {M α : Type}

def tag (f : Field Refusal M) : Nat := f.number * 8 + f.wireType

/-- The number and the wire type can be told from the tag. -/
@[mk_iff] structure Tagged (f : Field Refusal M) : Prop where
  number_pos : 0 < f.number
  number_lt : f.number < 2 ^ 29
  wireType_lt : f.wireType < 8

theorem Tagged.tag_lt {f : Field Refusal M} (h : f.Tagged) : f.tag < 2 ^ 32 := by
  have := h.number_lt
  have := h.wireType_lt
  unfold tag
  omega

theorem Tagged.tag_div {f : Field Refusal M} (h : f.Tagged) : f.tag / 8 = f.number := by
  have := h.wireType_lt
  unfold tag
  omega

/-- A field that is left out when it has its default value. -/
def scalar [DecidableEq α] (number wireType : Nat) (codec : Codec Refusal α) (default : α)
    (get : M → α) (set : α → M → M) : Field Refusal M where
  number := number
  wireType := wireType
  codec := codec
  values m := if get m = default then [] else [get m]
  add := set

/-- A field that may be unset. -/
def optional (number wireType : Nat) (codec : Codec Refusal α) (get : M → Option α)
    (set : Option α → M → M) : Field Refusal M where
  number := number
  wireType := wireType
  codec := codec
  values m := (get m).toList
  add a := set (some a)

/-- A field with any number of values. -/
def repeated (number wireType : Nat) (codec : Codec Refusal α) (get : M → List α)
    (set : List α → M → M) : Field Refusal M where
  number := number
  wireType := wireType
  codec := codec
  values := get
  add a m := set (get m ++ [a]) m

/-- All values of a field of `m`, read into `m₀`. -/
def load (f : Field Refusal M) (m m₀ : M) : M := (f.values m).foldl (fun m₀ a => f.add a m₀) m₀

end Field

/-- `m` is read into `m₀` field by field, which makes `m₁`. -/
inductive Loads {M : Type} (m : M) : List (Field Refusal M) → M → M → Prop
  | nil (m₀ : M) : Loads m [] m₀ m₀
  | cons {f : Field Refusal M} {fs : List (Field Refusal M)} {m₀ m₁ : M}
      (rest : Loads m fs (f.load m m₀) m₁) : Loads m (f :: fs) m₀ m₁

namespace Loads

variable {M α : Type} {m m₀ m₁ : M} {fs : List (Field Refusal M)} {number wireType : Nat}
  {codec : Codec Refusal α}

theorem scalar [DecidableEq α] {default : α} {get : M → α} {set : α → M → M}
    (hdefault : set default m₀ = m₀) (rest : Loads m fs (set (get m) m₀) m₁) :
    Loads m (.scalar number wireType codec default get set :: fs) m₀ m₁ := by
  apply Loads.cons
  unfold Field.load Field.scalar
  dsimp only
  split
  · rename_i heq
    rw [heq, hdefault] at rest
    exact rest
  · exact rest

theorem optional {get : M → Option α} {set : Option α → M → M} (hunset : set none m₀ = m₀)
    (rest : Loads m fs (set (get m) m₀) m₁) :
    Loads m (.optional number wireType codec get set :: fs) m₀ m₁ := by
  apply Loads.cons
  unfold Field.load Field.optional
  dsimp only
  cases hget : get m with
  | none =>
    rw [hget, hunset] at rest
    exact rest
  | some a =>
    rw [hget] at rest
    exact rest

theorem repeated {get : M → List α} {set : List α → M → M} (hself : set [] m₀ = m₀)
    (get_set : ∀ as m, get (set as m) = as)
    (set_set : ∀ as as' m, set as (set as' m) = set as m) (rest : Loads m fs (set (get m) m₀) m₁) :
    Loads m (.repeated number wireType codec get set :: fs) m₀ m₁ := by
  have hfold : ∀ as before, as.foldl (fun m₀ a => set (get m₀ ++ [a]) m₀) (set before m₀) =
      set (before ++ as) m₀ := by
    intro as
    induction as with
    | nil =>
      intro before
      rw [List.append_nil]
      rfl
    | cons a as ih =>
      intro before
      rw [List.foldl_cons, get_set, set_set, ih, List.append_assoc]
      rfl
  apply Loads.cons
  have hload : (Field.repeated number wireType codec get set).load m m₀ = set (get m) m₀ := by
    have hall := hfold (get m) []
    rw [hself, List.nil_append] at hall
    exact hall
  rw [hload]
  exact rest

end Loads

/-! ## Messages -/

/-- The fields of a message, in the order in which they are written. -/
structure MessageType (Refusal : String → Prop) (M : Type) where
  base : M
  fields : List (Field Refusal M)
  tagged : ∀ f ∈ fields, f.Tagged := by
    simp [Field.scalar, Field.optional, Field.repeated, Field.tagged_iff]
  numbers : (fields.map Field.number).Nodup := by exact of_decide_eq_true rfl
  restored : ∀ m, Loads m fields base m

variable {M : Type}

/-- A tag with its value. -/
inductive Record (Refusal : String → Prop) (M : Type) where
  | known (f : Field Refusal M) (a : f.α)
  | unknown (tag : Nat) (payload : Bytes)

namespace Record

def write (F : BinaryFormat) : Record Refusal M → Bytes
  | known f a => F.uint32 f.tag ++ f.codec.write a
  | unknown tag payload => F.uint32 tag ++ payload

/-- What the record does to a message. -/
def apply (m : M) : Record Refusal M → M
  | known f a => f.add a m
  | unknown _ _ => m

def isKnown : Record Refusal M → Bool
  | known _ _ => true
  | unknown _ _ => false

def Readable : Record Refusal M → Prop
  | known f a => f.codec.Readable a
  | unknown _ _ => True

/-- A record that a decoder of the message type can be given: a field of the type with a value that
is not too long, or a record of no field that can be skipped. -/
def Fits (F : BinaryFormat) (T : MessageType Refusal M) : Record Refusal M → Prop
  | known f a => f ∈ T.fields ∧ (f.codec.write a).length < 2 ^ 32
  | unknown tag payload => tag < 2 ^ 32 ∧ tag ≠ 0 ∧ tag % 8 ≠ 4 ∧ (∀ f ∈ T.fields, f.tag ≠ tag) ∧
      ∀ rest, F.skip (tag % 8) (payload ++ rest) = .ok rest

theorem write_ne_nil {F : BinaryFormat} (r : Record Refusal M) : r.write F ≠ [] := by
  cases r with
  | known f a => exact List.append_ne_nil_of_left_ne_nil (F.uint32_ne_nil _) _
  | unknown tag payload => exact List.append_ne_nil_of_left_ne_nil (F.uint32_ne_nil _) _

end Record

namespace MessageType

/-- The records of a message. -/
def records (T : MessageType Refusal M) (m : M) : List (Record Refusal M) :=
  T.fields.flatMap fun f => (f.values m).map (.known f)

def encode (F : BinaryFormat) (T : MessageType Refusal M) (m : M) : Bytes :=
  (T.records m).flatMap (Record.write F)

/-- The loop of a decoder, until no more than `stop` bytes are left, or at the end of a group. Each
turn reads a tag, so that the number of bytes is fuel enough. -/
def decodeLoop (F : BinaryFormat) (T : MessageType Refusal M) (stop : Int) :
    Nat → M → Bytes → Except String (M × Bytes)
  | 0, _, _ => .error "out of fuel"
  | fuel + 1, m, bs =>
    if bs.length ≤ stop then .ok (m, bs)
    else
      match F.readUint32 bs with
      | .error err => .error err
      | .ok (tag, bs) =>
        match T.fields.find? fun f => f.number = tag / 8 ∧ f.tag = tag with
        | some f =>
          match f.codec.read bs with
          | .error err => .error err
          | .ok (a, bs) => decodeLoop F T stop fuel (f.add a m) bs
        | none =>
          if tag % 8 = 4 ∨ tag = 0 then .ok (m, bs)
          else
            match F.skip (tag % 8) bs with
            | .error err => .error err
            | .ok bs => decodeLoop F T stop fuel m bs

def decode (F : BinaryFormat) (T : MessageType Refusal M) (bs : Bytes) : Except String M :=
  (T.decodeLoop F 0 (bs.length + 1) T.base bs).map Prod.fst

/-- Each value of the message can be read. -/
def Readable (T : MessageType Refusal M) (m : M) : Prop :=
  ∀ f ∈ T.fields, ∀ a ∈ f.values m, f.codec.Readable a

/-- Exactly the readable messages have only readable records. -/
theorem readable_iff {T : MessageType Refusal M} {m : M} :
    T.Readable m ↔ ∀ r ∈ T.records m, r.Readable := by
  unfold Readable records
  constructor
  · intro h r hr
    obtain ⟨f, hf, hr⟩ := List.mem_flatMap.mp hr
    obtain ⟨a, ha, rfl⟩ := List.mem_map.mp hr
    exact h f hf a ha
  · intro h f hf a ha
    exact h (.known f a) (List.mem_flatMap.mpr ⟨f, hf, List.mem_map_of_mem ha⟩)

theorem fits_of_mem_records {F : BinaryFormat} {T : MessageType Refusal M} {m : M}
    (hsize : (T.encode F m).length < 2 ^ 32) {r : Record Refusal M} (hr : r ∈ T.records m) :
    r.Fits F T := by
  have hle : (r.write F).length ≤ (T.encode F m).length := by
    rw [encode, List.flatMap_def]
    exact (List.sublist_flatten_of_mem (List.mem_map_of_mem hr)).length_le
  unfold records at hr
  obtain ⟨f, hf, hr⟩ := List.mem_flatMap.mp hr
  obtain ⟨a, ha, rfl⟩ := List.mem_map.mp hr
  refine ⟨hf, ?_⟩
  rw [Record.write, List.length_append] at hle
  omega

/-- The records of a message, read one after the other. -/
theorem foldl_records {T : MessageType Refusal M} (m : M) :
    (T.records m).foldl Record.apply T.base = m := by
  have hloads : ∀ (fs : List (Field Refusal M)) m₀ m₁, Loads m fs m₀ m₁ →
      (fs.flatMap fun f => (f.values m).map (.known f)).foldl Record.apply m₀ = m₁ := by
    intro fs m₀ m₁ h
    induction h with
    | nil m₀ => rfl
    | cons rest ih =>
      rw [List.flatMap_cons, List.foldl_append, List.foldl_map]
      exact ih
  exact hloads T.fields T.base m (T.restored m)

section

variable {F : BinaryFormat} {T : MessageType Refusal M} {r : Record Refusal M} {m : M}
  {rest : Bytes} {stop : Int} {fuel : Nat}

/-- The switch over the tags finds each field. -/
theorem find?_tag {f : Field Refusal M} (hf : f ∈ T.fields) :
    T.fields.find? (fun g => g.number = f.tag / 8 ∧ g.tag = f.tag) = some f := by
  have hsome : (T.fields.find? fun g => g.number = f.tag / 8 ∧ g.tag = f.tag).isSome := by
    rw [List.find?_isSome]
    exact ⟨f, hf, by simp [(T.tagged f hf).tag_div]⟩
  obtain ⟨g, hg⟩ := Option.isSome_iff_exists.mp hsome
  have hmatch : g.number = f.tag / 8 ∧ g.tag = f.tag := by simpa using List.find?_some hg
  rw [(T.tagged f hf).tag_div] at hmatch
  rw [hg, List.inj_on_of_nodup_map T.numbers (List.mem_of_find?_eq_some hg) hf hmatch.1]

/-- **One turn of the loop**: a record that fits is read, or is the refusal. -/
theorem decodeLoop_record (hr : r.Fits F T) (hstop : stop ≤ rest.length) :
    (r.Readable → T.decodeLoop F stop (fuel + 1) m (r.write F ++ rest) =
        T.decodeLoop F stop fuel (r.apply m) rest) ∧
      (¬ r.Readable → ∃ err, Refusal err ∧
        T.decodeLoop F stop (fuel + 1) m (r.write F ++ rest) = .error err) := by
  have hmore : ¬ ((r.write F ++ rest).length : Int) ≤ stop := by
    have hpos := List.length_pos_iff.mpr (r.write_ne_nil (F := F))
    rw [List.length_append]
    omega
  cases r with
  | known f a =>
    obtain ⟨hf, hsize⟩ := hr
    have htag : F.readUint32 ((Record.known f a).write F ++ rest) =
        .ok (f.tag, f.codec.write a ++ rest) := by
      rw [Record.write, List.append_assoc]
      exact F.readUint32_uint32 _ (T.tagged f hf).tag_lt _
    constructor
    · intro hread
      rw [decodeLoop, if_neg hmore, htag]
      simp only [find?_tag hf, f.codec.reads a hread hsize rest]
      rfl
    · intro hread
      obtain ⟨err, herr, hrefused⟩ := f.codec.refuses a hread hsize rest
      refine ⟨err, herr, ?_⟩
      rw [decodeLoop, if_neg hmore, htag]
      simp only [find?_tag hf, hrefused]
  | unknown tag payload =>
    obtain ⟨hlt, hzero, hgroup, hno, hskip⟩ := hr
    have htag : F.readUint32 ((Record.unknown tag payload : Record Refusal M).write F ++ rest) =
        .ok (tag, payload ++ rest) := by
      rw [Record.write, List.append_assoc]
      exact F.readUint32_uint32 _ hlt _
    have hfind : T.fields.find? (fun f => f.number = tag / 8 ∧ f.tag = tag) = none := by
      rw [List.find?_eq_none]
      intro f hf
      simp [hno f hf]
    refine ⟨fun _ => ?_, fun h => absurd trivial h⟩
    rw [decodeLoop, if_neg hmore, htag]
    simp only [hfind, if_neg (not_or.mpr ⟨hgroup, hzero⟩), hskip]
    rfl

/-- **The whole loop**: the records are read one after the other, or one of them is refused. -/
theorem decodeLoop_records {rs : List (Record Refusal M)} (hfits : ∀ r ∈ rs, r.Fits F T)
    (hfuel : rs.length < fuel) :
    ((∀ r ∈ rs, r.Readable) → T.decodeLoop F rest.length fuel m
        (rs.flatMap (Record.write F) ++ rest) = .ok (rs.foldl Record.apply m, rest)) ∧
      (¬ (∀ r ∈ rs, r.Readable) → ∃ err, Refusal err ∧
        T.decodeLoop F rest.length fuel m (rs.flatMap (Record.write F) ++ rest) = .error err) := by
  induction rs generalizing m fuel with
  | nil =>
    refine ⟨fun _ => ?_, fun h => absurd (by simp) h⟩
    cases fuel with
    | zero => cases hfuel
    | succ fuel =>
      rw [List.flatMap_nil, List.nil_append, decodeLoop, if_pos (Int.le_refl _)]
      rfl
  | cons r rs ih =>
    obtain ⟨hr, hrs⟩ := List.forall_mem_cons.mp hfits
    cases fuel with
    | zero => cases hfuel
    | succ fuel =>
      have hstop : (rest.length : Int) ≤ (rs.flatMap (Record.write F) ++ rest).length := by
        rw [List.length_append]
        omega
      have hturn := @decodeLoop_record _ _ F T r m _ _ fuel hr hstop
      have hlater := @ih (r.apply m) fuel hrs (Nat.lt_of_succ_lt_succ hfuel)
      rw [List.flatMap_cons, List.append_assoc]
      constructor
      · intro hread
        rw [hturn.1 (hread r List.mem_cons_self)]
        exact hlater.1 fun r' hr' => hread r' (List.mem_cons_of_mem _ hr')
      · intro hread
        by_cases hfirst : r.Readable
        · rw [hturn.1 hfirst]
          exact hlater.2 fun hall => hread (List.forall_mem_cons.mpr ⟨hfirst, hall⟩)
        · exact hturn.2 hfirst

theorem length_le_flatMap (rs : List (Record Refusal M)) :
    rs.length ≤ (rs.flatMap (Record.write F)).length := by
  induction rs with
  | nil => exact Nat.zero_le _
  | cons r rs ih =>
    have hpos := List.length_pos_iff.mpr (r.write_ne_nil (F := F))
    rw [List.flatMap_cons, List.length_append, List.length_cons]
    omega

/-- The loop over the records of a message, with the length of the message read before. -/
theorem decodeLoop_encode (hsize : (T.encode F m).length < 2 ^ 32) :
    let bs := T.encode F m ++ rest
    (T.Readable m → T.decodeLoop F (bs.length - (T.encode F m).length) (bs.length + 1) T.base bs =
        .ok (m, rest)) ∧
      (¬ T.Readable m → ∃ err, Refusal err ∧ T.decodeLoop F (bs.length - (T.encode F m).length)
        (bs.length + 1) T.base bs = .error err) := by
  intro bs
  have hlength : bs.length = (T.encode F m).length + rest.length := List.length_append
  have hfuel : (T.records m).length < bs.length + 1 := by
    have hle : (T.records m).length ≤ (T.encode F m).length := length_le_flatMap (T.records m)
    omega
  have hstop : (bs.length : Int) - (T.encode F m).length = rest.length := by omega
  have hloop := @decodeLoop_records _ _ F T T.base rest _ _
    (fun r hr => fits_of_mem_records hsize hr) hfuel
  rw [foldl_records, ← readable_iff] at hloop
  rw [hstop]
  exact hloop

/-- **A message is read back**, also with records in between that its type does not know, if and
only if all its values can be read. -/
theorem decode_of_records {rs : List (Record Refusal M)} (hfits : ∀ r ∈ rs, r.Fits F T)
    (hrecords : rs.filter Record.isKnown = T.records m) :
    (T.Readable m → T.decode F (rs.flatMap (Record.write F)) = .ok m) ∧
      (¬ T.Readable m → ∃ err, Refusal err ∧
        T.decode F (rs.flatMap (Record.write F)) = .error err) := by
  have hreadable : T.Readable m ↔ ∀ r ∈ rs, r.Readable := by
    rw [readable_iff, ← hrecords]
    constructor
    · intro h r hr
      cases r with
      | known f a => exact h _ (List.mem_filter.mpr ⟨hr, rfl⟩)
      | unknown tag payload => trivial
    · intro h r hr
      exact h r (List.mem_of_mem_filter hr)
  have hfold : ∀ (rs : List (Record Refusal M)) m₀,
      rs.foldl Record.apply m₀ = (rs.filter Record.isKnown).foldl Record.apply m₀ := by
    intro rs
    induction rs with
    | nil => intro m₀; rfl
    | cons r rs ih =>
      intro m₀
      cases r with
      | known f a => exact ih _
      | unknown tag payload => exact ih m₀
  have hfuel : rs.length < (rs.flatMap (Record.write F)).length + 1 :=
    Nat.lt_succ_of_le (length_le_flatMap rs)
  have hloop := @decodeLoop_records _ _ F T T.base [] _ _ hfits hfuel
  rw [List.append_nil, hfold, hrecords, foldl_records, ← hreadable] at hloop
  unfold decode
  constructor
  · intro hread
    rw [show (0 : Int) = ([] : Bytes).length from rfl, hloop.1 hread]
    rfl
  · intro hread
    obtain ⟨err, herr, hrefused⟩ := hloop.2 hread
    refine ⟨err, herr, ?_⟩
    rw [show (0 : Int) = ([] : Bytes).length from rfl, hrefused]
    rfl

end

/-- A message as a value of a field: its length, and its records. -/
def codec (F : BinaryFormat) (T : MessageType Refusal M) : Codec Refusal M where
  write m := F.uint32 (T.encode F m).length ++ T.encode F m
  read bs :=
    match F.readUint32 bs with
    | .error err => .error err
    | .ok (length, bs) => T.decodeLoop F (bs.length - length) (bs.length + 1) T.base bs
  Readable := T.Readable
  reads m hread hsize rest := by
    rw [List.length_append] at hsize
    have hlength : (T.encode F m).length < 2 ^ 32 := by omega
    rw [List.append_assoc, F.readUint32_uint32 _ hlength]
    exact (decodeLoop_encode hlength).1 hread
  refuses m hread hsize rest := by
    rw [List.length_append] at hsize
    have hlength : (T.encode F m).length < 2 ^ 32 := by omega
    rw [List.append_assoc, F.readUint32_uint32 _ hlength]
    exact (decodeLoop_encode hlength).2 hread

end MessageType

end TaggedFields
