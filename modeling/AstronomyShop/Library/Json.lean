import Mathlib.Data.Rat.Defs
import Mathlib.Tactic.Common

/-!
# JSON between a Go and a Rust program

Values are taken after parsing and before printing, so that the text of a document is left
out, except that a number keeps whether it was written as a plain integer. The file gives
the rules by which `encoding/json` (Go) and `serde_json` (Rust) map a document to a record.

* Go writes the fields of a struct in order and drops a field tagged `omitempty` that holds
  its zero value; a nil slice and a nil pointer become `null`. Reading matches the names of
  an object without regard to case, lets the last of several equal names win, leaves a field
  alone that is absent or `null`, and ignores unknown names.
* Serde wants every field that is not an `Option` to be there, once, with a value of its
  type; it ignores unknown names, and also takes an array with the fields in order.
-/

namespace Wire

/-- A JSON value. `int` is a number written without fraction and exponent, `real` any other. -/
inductive Json where
  | null
  | bool (b : Bool)
  | int (n : Int)
  | real (q : ℚ)
  | str (s : String)
  | arr (elems : List Json)
  | obj (members : List (String × Json))

/-! ## Go -/

namespace Go

/-- A field tagged `omitempty`. -/
def omitEmpty (name : String) (empty : Bool) (value : Json) : List (String × Json) :=
  if empty then [] else [(name, value)]

def omitEmptyString (name s : String) : List (String × Json) := omitEmpty name (s == "") (.str s)

def omitEmptyInt (name : String) (n : Int) : List (String × Json) :=
  omitEmpty name (n == 0) (.int n)

theorem filter_omitEmpty_of_ne {name other : String} (h : name ≠ other) (empty : Bool)
    (value : Json) : (omitEmpty name empty value).filter (fun m => m.1 == other) = [] := by
  cases empty <;> simp [omitEmpty, h]

theorem lookup_omitEmpty_of_ne {name other : String} (h : other ≠ name) (empty : Bool)
    (value : Json) : (omitEmpty name empty value).lookup other = none := by
  cases empty <;> simp [omitEmpty, h]

/-- A pointer tagged `omitempty`. -/
def omitEmptyPointer {α : Type} (name : String) (enc : α → Json) :
    Option α → List (String × Json)
  | none => []
  | some a => [(name, enc a)]

/-- A pointer; `none` is nil. -/
def pointer {α : Type} (enc : α → Json) : Option α → Json
  | none => .null
  | some a => enc a

/-- A slice; `none` is nil. -/
def slice {α : Type} (enc : α → Json) : Option (List α) → Json
  | none => .null
  | some as => .arr (as.map enc)

/-- Simple case folding, for comparison with a name of lower-case ASCII letters. The two
letters outside ASCII that fold into it are the Kelvin sign and the long s. -/
def foldChar (c : Char) : Char :=
  if c = 'K' then 'k' else if c = 'ſ' then 's' else c.toLower

def foldName (name : String) : String := name.map foldChar

/-- How a struct with the fields `σ` reads the value of one of its names. `none` is the type
error that makes `Unmarshal` fail. -/
abbrev Field (σ : Type) := Json → σ → Option σ

def intField {σ : Type} (lo hi : Int) (set : Int → σ → σ) : Field σ
  | .null, s => some s
  | .int n, s => if lo ≤ n ∧ n < hi then some (set n s) else none
  | _, _ => none

def stringField {σ : Type} (set : String → σ → σ) : Field σ
  | .null, s => some s
  | .str v, s => some (set v s)
  | _, _ => none

/-- A pointer field: `null` sets it to nil, an object is read into what it points to, which
is allocated when the pointer is nil. -/
def pointerField {σ τ : Type} (new : τ) (get : σ → Option τ) (set : Option τ → σ → σ)
    (read : Json → τ → Option τ) : Field σ
  | .null, s => some (set none s)
  | j, s => (read j ((get s).getD new)).map fun v => set (some v) s

def readMember {σ : Type} (fields : List (String × Field σ)) (s : σ)
    (member : String × Json) : Option σ :=
  match fields.lookup (foldName member.1) with
  | some field => field member.2 s
  | none => some s

/-- `Unmarshal` of `j` into a struct that holds `s`. -/
def readStruct {σ : Type} (fields : List (String × Field σ)) : Json → σ → Option σ
  | .null, s => some s
  | .obj members, s => members.foldlM (readMember fields) s
  | _, _ => none

theorem readStruct_singleton {σ : Type} (fields : List (String × Field σ)) (s : σ)
    (member : String × Json) : readStruct fields (.obj [member]) s = readMember fields s member := by
  have hfold : readStruct fields (.obj [member]) s =
      (readMember fields s member >>= fun s' => some s') := rfl
  rw [hfold]
  cases readMember fields s member <;> rfl

theorem readMember_of_lookup {σ : Type} {fields : List (String × Field σ)} {field : Field σ}
    {member : String × Json} (h : fields.lookup (foldName member.1) = some field) (s : σ) :
    readMember fields s member = field member.2 s := by
  unfold readMember
  rw [h]

end Go

/-! ## Serde -/

namespace Serde

inductive Error where
  | invalidType
  | invalidValue
  | invalidLength
  | missingField (name : String)
  | duplicateField (name : String)
  deriving DecidableEq

/-- The members a derived `Deserialize` reads its fields from. -/
def structMembers (names : List String) : Json → Except Error (List (String × Json))
  | .obj members =>
    match names.find? fun n => decide (1 < (members.filter fun m => m.1 == n).length) with
    | some n => .error (.duplicateField n)
    | none => .ok members
  | .arr elems =>
    if elems.length = names.length then .ok (names.zip elems) else .error .invalidLength
  | _ => .error .invalidType

/-- A field of a type other than `Option`. -/
def required {α : Type} (name : String) (read : Json → Except Error α)
    (members : List (String × Json)) : Except Error α :=
  match members.lookup name with
  | some j => read j
  | none => .error (.missingField name)

/-- A field of type `Option`: absent and `null` both read as `None`. -/
def optional {α : Type} (name : String) (read : Json → Except Error α)
    (members : List (String × Json)) : Except Error (Option α) :=
  match members.lookup name with
  | none => .ok none
  | some .null => .ok none
  | some j => (read j).map some

/-- An unsigned integer type with the values below `size`. -/
def readUInt (size : Nat) : Json → Except Error Nat
  | .int n => if 0 ≤ n ∧ n < size then .ok n.toNat else .error .invalidValue
  | _ => .error .invalidType

def readString : Json → Except Error String
  | .str s => .ok s
  | _ => .error .invalidType

def readVec {α : Type} (read : Json → Except Error α) : Json → Except Error (List α)
  | .arr elems => elems.mapM read
  | _ => .error .invalidType

/-- An object is read when no field of the struct occurs twice. -/
theorem structMembers_obj {names : List String} {members : List (String × Json)}
    (h : ∀ n ∈ names, (members.filter fun m => m.1 == n).length ≤ 1) :
    structMembers names (.obj members) = .ok members := by
  have hfind : names.find? (fun n => decide (1 < (members.filter fun m => m.1 == n).length)) =
      none := by
    apply List.find?_eq_none.mpr
    intro n hn
    have := h n hn
    simp only [decide_eq_true_eq]
    omega
  simp only [structMembers, hfind]

theorem required_eq_ok_iff {α : Type} {name : String} {read : Json → Except Error α}
    {members : List (String × Json)} {a : α} :
    required name read members = .ok a ↔
      ∃ j, members.lookup name = some j ∧ read j = .ok a := by
  unfold required
  constructor
  · intro h
    split at h
    · rename_i j hj
      exact ⟨j, hj, h⟩
    · cases h
  · rintro ⟨j, hj, h⟩
    rw [hj]
    exact h

theorem readUInt_int_eq_ok_iff {size : Nat} {n : Int} {k : Nat} :
    readUInt size (.int n) = .ok k ↔ (0 ≤ n ∧ n < size) ∧ n.toNat = k := by
  by_cases hrange : 0 ≤ n ∧ n < size
  · have hread : readUInt size (.int n) = .ok n.toNat := if_pos hrange
    rw [hread, Except.ok.injEq, and_iff_right hrange]
  · have hread : readUInt size (.int n) = .error .invalidValue := if_neg hrange
    simp [hread, hrange]

end Serde

/-! ## Responses over HTTP -/

/-- A response body as its receiver finds it: not readable to the end, no JSON, or a value. -/
inductive Body where
  | unreadable
  | malformed
  | json (j : Json)

structure Response where
  statusCode : Nat
  body : Body

end Wire
