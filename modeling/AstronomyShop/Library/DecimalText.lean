import AstronomyShop.Library.Digits
import AstronomyShop.Library.NearestDouble

/-!
# Decimal text

Numbers as decimal text: the number that a text is (`read`), the double nearest to it as a program
reads it, from the whole text (`parseNumber`) or from the start of a longer one (JavaScript's
`parseFloat`), and how a double is printed with a given number of places (JavaScript's `toFixed`).

`SameCents` compares two amounts to two places, rounded or cut off. Amounts with the same cents are
less than two cents apart, so an amount whose fraction is read with the wrong number of places does
not have them (`not_sameCents_digits`). A double that is printed to two places has the cents of an
amount exactly when the two have no half cent between them (`sameCents_round_iff`).
-/

namespace DecimalText

open ExactDouble

/-! ## Reading -/

/-- The value of some digits. -/
def whole (digits : List Char) : Nat := Nat.ofDigitChars 10 digits 0

/-- The value of some digits behind the point. -/
def fraction (digits : List Char) : ℚ := whole digits / 10 ^ digits.length

/-- A number without sign at the start of a text, and the rest of the text: digits with or without a
point among them. -/
def readNumber (s : List Char) : Option (ℚ × List Char) :=
  let before := s.takeWhile Char.isDigit
  match s.dropWhile Char.isDigit with
  | '.' :: rest =>
    let after := rest.takeWhile Char.isDigit
    if before = [] ∧ after = [] then none
    else some (whole before + fraction after, rest.dropWhile Char.isDigit)
  | rest => if before = [] then none else some (whole before, rest)

def readSign : List Char → Bool × List Char
  | '-' :: s => (true, s)
  | '+' :: s => (false, s)
  | s => (false, s)

/-- The number that a text is. -/
def read (s : String) : Option ℚ :=
  let (negative, s) := readSign s.toList
  match readNumber s with
  | some (q, []) => some (if negative then -q else q)
  | _ => none

/-- The double that a text is. -/
def parseNumber (s : String) : Option Double := (read s).map Binary64.ofRat

/-- An exponent at the start of a text, or zero. -/
def readExponent : List Char → Int
  | [] => 0
  | c :: s =>
    if c = 'e' ∨ c = 'E' then
      let (negative, s) := readSign s
      let digits := s.takeWhile Char.isDigit
      if negative then -whole digits else whole digits
    else 0

/-- The double nearest to the number at the start of a text. -/
def parseFloat (s : String) : Double :=
  let (negative, s) := readSign (s.toList.dropWhile Char.isWhitespace)
  if "Infinity".toList.isPrefixOf s then .infinite negative
  else
    match readNumber s with
    | none => .nan
    | some (q, rest) => Binary64.ofRat ((if negative then -q else q) * 10 ^ readExponent rest)

/-! ## Printing -/

def pad (width : Nat) (digits : List Char) : List Char :=
  List.replicate (width - digits.length) '0' ++ digits

/-- An integer with zeros after its sign up to a width (`%0*d`). -/
def padInt (width : Nat) (n : Int) : List Char :=
  if n < 0 then '-' :: pad (width - 1) (Nat.toDigits 10 n.natAbs)
  else pad width (Nat.toDigits 10 n.natAbs)

/-- Digits with a point before the last `places`. -/
def placePoint (places : Nat) (digits : List Char) : List Char :=
  digits.take (digits.length - places) ++ '.' :: digits.drop (digits.length - places)

/-- `toFixed` for a positive number of places and doubles below `10 ^ 21`. The exact value of the
double is rounded; of two numbers as near the larger one is printed. -/
def toFixed (places : Nat) : Double → String
  | .finite q =>
    let n := ⌊|q| * 10 ^ places + 1 / 2⌋.toNat
    let digits := placePoint places (pad (places + 1) (Nat.toDigits 10 n))
    .ofList (if q < 0 then '-' :: digits else digits)
  | .infinite negative => if negative then "-Infinity" else "Infinity"
  | .nan => "NaN"

/-! ## Reading what was printed -/

/-- All characters are digits. -/
def AllDigits (s : List Char) : Prop := ∀ c ∈ s, c.isDigit = true

/-- The text does not go on with a digit. -/
def EndsDigits (s : List Char) : Prop := ∀ c ∈ s.head?, c.isDigit = false

theorem allDigits_toDigits (n : Nat) : AllDigits (Nat.toDigits 10 n) :=
  fun _ hc => Nat.isDigit_of_mem_toDigits (by decide) (by decide) hc

theorem takeWhile_isDigit {digits rest : List Char} (h : AllDigits digits) (hr : EndsDigits rest) :
    (digits ++ rest).takeWhile Char.isDigit = digits := by
  rw [List.takeWhile_append_of_pos h]
  cases rest with
  | nil => exact List.append_nil _
  | cons c rest => rw [List.takeWhile_cons_of_neg (by simpa using hr c rfl), List.append_nil]

theorem dropWhile_isDigit {digits rest : List Char} (h : AllDigits digits) (hr : EndsDigits rest) :
    (digits ++ rest).dropWhile Char.isDigit = rest := by
  rw [List.dropWhile_append_of_pos h]
  cases rest with
  | nil => rfl
  | cons c rest => rw [List.dropWhile_cons_of_neg (by simpa using hr c rfl)]

/-- Digits, a point and digits. -/
theorem readNumber_point {before after rest : List Char} (hb : AllDigits before)
    (ha : AllDigits after) (hne : before ≠ [] ∨ after ≠ []) (hr : EndsDigits rest) :
    readNumber (before ++ '.' :: (after ++ rest)) = some (whole before + fraction after, rest) := by
  have hpoint : EndsDigits ('.' :: (after ++ rest)) := by
    rintro _ ⟨⟩
    rfl
  unfold readNumber
  rw [dropWhile_isDigit hb hpoint, takeWhile_isDigit hb hpoint]
  simp only [takeWhile_isDigit ha hr, dropWhile_isDigit ha hr]
  rw [if_neg (by tauto)]

/-- A text that starts with a digit or a point has no sign. -/
theorem readSign_of_digits {before after : List Char} (hb : AllDigits before) :
    readSign (before ++ '.' :: after) = (false, before ++ '.' :: after) := by
  cases before with
  | nil => rfl
  | cons c before =>
    have hc := hb c List.mem_cons_self
    unfold readSign
    split
    · rename_i heq
      cases heq
      cases hc
    · rename_i heq
      cases heq
      cases hc
    · rfl

theorem read_point {text : String} {before after : List Char}
    (htext : text.toList = before ++ '.' :: after) (hb : AllDigits before) (ha : AllDigits after)
    (hne : before ≠ [] ∨ after ≠ []) : read text = some (whole before + fraction after) := by
  have hnumber := @readNumber_point before after [] hb ha hne (by simp [EndsDigits])
  rw [List.append_nil] at hnumber
  unfold read
  rw [htext, readSign_of_digits hb]
  simp only [hnumber]
  rfl

/-- A number of which the rest of the text is no part. -/
theorem parseFloat_point {text : String} {c : Char} {before after rest : List Char}
    (htext : text.toList = c :: before ++ '.' :: (after ++ rest)) (hb : AllDigits (c :: before))
    (ha : AllDigits after) (hr : EndsDigits rest) (hexp : readExponent rest = 0) :
    parseFloat text = Binary64.ofRat (whole (c :: before) + fraction after) := by
  have hc := hb c List.mem_cons_self
  have hspace : c.isWhitespace = false := by
    by_contra hspace
    simp only [Char.isWhitespace, Bool.not_eq_false, Bool.or_eq_true, decide_eq_true_eq] at hspace
    rcases hspace with ((rfl | rfl) | rfl) | rfl <;> cases hc
  have hinfinity : "Infinity".toList.isPrefixOf (c :: before ++ '.' :: (after ++ rest)) = false := by
    have hne : 'I' ≠ c := by
      rintro rfl
      cases hc
    exact Bool.and_eq_false_imp.mpr fun h => absurd (beq_iff_eq.mp h) hne
  unfold parseFloat
  rw [htext, List.cons_append, List.dropWhile_cons_of_neg (by simpa using hspace),
    ← List.cons_append, readSign_of_digits hb]
  simp only [hinfinity, readNumber_point hb ha (.inl (List.cons_ne_nil _ _)) hr, hexp,
    Bool.false_eq_true, if_false, zpow_zero, mul_one]

@[simp] theorem whole_toDigits (n : Nat) : whole (Nat.toDigits 10 n) = n :=
  Nat.ofDigitChars_ten_toDigits

theorem length_toDigits {n : Nat} (hn : n ≠ 0) :
    (Nat.toDigits 10 n).length = digitCount 10 n := by
  have hten : 1 < 10 := by decide
  have hpos : 0 < digitCount 10 n := by
    apply (lt_digitCount_iff hten).mpr
    rw [Int.natAbs_natCast]
    omega
  apply Nat.le_antisymm
  · apply (Nat.length_toDigits_le_iff hten hpos).mpr
    exact (digitCount_le_iff hten).mp (Nat.le_refl (digitCount 10 n))
  · apply (digitCount_le_iff hten).mpr
    exact (Nat.length_toDigits_le_iff hten Nat.length_toDigits_pos).mp (Nat.le_refl _)

theorem fraction_toDigits (n : Nat) : fraction (Nat.toDigits 10 n) = digitFraction 10 n := by
  unfold fraction digitFraction
  by_cases hn : n = 0
  · rw [whole_toDigits, hn]
    simp
  · rw [whole_toDigits, length_toDigits hn, Int.cast_natCast, Nat.cast_ofNat]

theorem allDigits_pad {width : Nat} {digits : List Char} (h : AllDigits digits) :
    AllDigits (pad width digits) := by
  intro c hc
  rcases List.mem_append.mp hc with hc | hc
  · rw [List.eq_of_mem_replicate hc]
    rfl
  · exact h c hc

theorem whole_pad (width : Nat) (digits : List Char) : whole (pad width digits) = whole digits := by
  unfold whole pad
  rw [Nat.ofDigitChars_append, Nat.ofDigitChars_replicate_zero, Nat.mul_zero]

theorem le_length_pad (width : Nat) (digits : List Char) : width ≤ (pad width digits).length := by
  unfold pad
  rw [List.length_append, List.length_replicate]
  omega

/-- Placing a point divides. -/
theorem read_placePoint {places : Nat} {digits : List Char} (h : AllDigits digits)
    (hlength : places < digits.length) :
    read (.ofList (placePoint places digits)) = some (whole digits / 10 ^ places : ℚ) := by
  have hbefore : AllDigits (digits.take (digits.length - places)) :=
    fun c hc => h c (List.mem_of_mem_take hc)
  have hafter : AllDigits (digits.drop (digits.length - places)) :=
    fun c hc => h c (List.mem_of_mem_drop hc)
  have hplaces : (digits.drop (digits.length - places)).length = places := by
    rw [List.length_drop]
    omega
  have hne : digits.take (digits.length - places) ≠ [] := by
    apply List.ne_nil_of_length_pos
    rw [List.length_take]
    omega
  have hwhole : whole digits = 10 ^ places * whole (digits.take (digits.length - places)) +
      whole (digits.drop (digits.length - places)) := by
    conv_lhs => rw [← List.take_append_drop (digits.length - places) digits]
    unfold whole
    rw [Nat.ofDigitChars_append, Nat.ofDigitChars_eq_ofDigitChars_zero, hplaces]
  unfold placePoint
  rw [read_point String.toList_ofList hbefore hafter (.inl hne), fraction, hplaces, hwhole]
  push_cast
  field_simp

theorem read_toFixed {places : Nat} {q : ℚ} (h : 0 ≤ q) :
    read (toFixed places (.finite q)) = some (⌊q * 10 ^ places + 1 / 2⌋ / 10 ^ places : ℚ) := by
  have hnonneg : 0 ≤ ⌊q * 10 ^ places + 1 / 2⌋ := Int.floor_nonneg.mpr (by positivity)
  have hlt : ¬ q < 0 := not_lt.mpr h
  simp only [toFixed, abs_of_nonneg h, if_neg hlt]
  rw [read_placePoint (allDigits_pad (allDigits_toDigits _)) (le_length_pad _ _), whole_pad,
    whole_toDigits]
  have hcast : ((⌊q * 10 ^ places + 1 / 2⌋.toNat : Nat) : ℚ) = ⌊q * 10 ^ places + 1 / 2⌋ := by
    exact_mod_cast Int.toNat_of_nonneg hnonneg
  rw [hcast]

/-! ## Two places -/

/-- `n` hundredths are the number to two places, cut off or rounded. -/
def IsCents (q : ℚ) (n : Int) : Prop := n = ⌊q * 100⌋ ∨ n = ⌊q * 100 + 1 / 2⌋

/-- The numbers are the same to two places. -/
def SameCents (p q : ℚ) : Prop := ∃ n, IsCents p n ∧ IsCents q n

theorem SameCents.refl (q : ℚ) : SameCents q q := ⟨_, .inl rfl, .inl rfl⟩

theorem IsCents.bounds {q : ℚ} {n : Int} (h : IsCents q n) :
    (n : ℚ) - 1 / 2 ≤ q * 100 ∧ q * 100 < n + 1 := by
  rcases h with rfl | rfl
  · have h₁ := Int.floor_le (q * 100)
    have h₂ := Int.lt_floor_add_one (q * 100)
    constructor <;> linarith
  · have h₁ := Int.floor_le (q * 100 + 1 / 2)
    have h₂ := Int.lt_floor_add_one (q * 100 + 1 / 2)
    constructor <;> linarith

theorem SameCents.abs_sub_lt {p q : ℚ} (h : SameCents p q) : |p - q| < 3 / 200 := by
  obtain ⟨n, hp, hq⟩ := h
  obtain ⟨hp₁, hp₂⟩ := hp.bounds
  obtain ⟨hq₁, hq₂⟩ := hq.bounds
  rw [abs_lt]
  constructor <;> linarith

/-- A number of whole cents is that many cents. -/
theorem isCents_div_iff {c n : Int} : IsCents (c / 100) n ↔ n = c := by
  have hfloor : ⌊((c : ℚ) + 1 / 2)⌋ = c := by
    rw [Int.floor_eq_iff]
    constructor <;> linarith
  unfold IsCents
  rw [div_mul_cancel₀ _ (by norm_num), Int.floor_intCast, hfloor, or_self]

/-- No half cent above the amount is passed on the way to the other number, and none below it that
is half a cent away. -/
def KeepsCents (amount q : ℚ) : Prop :=
  ∀ c : Int, (amount < c / 100 + 1 / 200 → q < c / 100 + 1 / 200) ∧
    (c / 100 + 1 / 100 ≤ amount → c / 100 + 1 / 200 ≤ q)

/-- What rounding a number to two places makes of it. -/
theorem sameCents_round_iff {q amount : ℚ} :
    SameCents (⌊q * 100 + 1 / 2⌋ / 100) amount ↔ KeepsCents amount q := by
  have hcents : SameCents (⌊q * 100 + 1 / 2⌋ / 100) amount ↔
      IsCents amount ⌊q * 100 + 1 / 2⌋ := by
    simp only [SameCents, isCents_div_iff, exists_eq_left]
  rw [hcents]
  constructor
  · intro h c
    obtain ⟨hlower, hupper⟩ := h.bounds
    constructor
    · intro hbelow
      have hlt : ⌊q * 100 + 1 / 2⌋ < c + 1 := by
        have : (⌊q * 100 + 1 / 2⌋ : ℚ) < c + 1 := by linarith
        exact_mod_cast this
      rw [Int.floor_lt] at hlt
      push_cast at hlt
      linarith
    · intro habove
      have hle : c + 1 ≤ ⌊q * 100 + 1 / 2⌋ := by
        have : (c : ℚ) < ⌊q * 100 + 1 / 2⌋ := by linarith
        exact_mod_cast this
      rw [Int.le_floor] at hle
      push_cast at hle
      linarith
  · intro h
    have hdown := (h (⌊amount * 100⌋ - 1)).2 (by
      have := Int.floor_le (amount * 100)
      push_cast
      linarith)
    have hup := (h ⌊amount * 100 + 1 / 2⌋).1 (by
      have := Int.lt_floor_add_one (amount * 100 + 1 / 2)
      linarith)
    have hlower : ⌊amount * 100⌋ ≤ ⌊q * 100 + 1 / 2⌋ := by
      rw [Int.le_floor]
      push_cast at hdown
      linarith
    have hupper : ⌊q * 100 + 1 / 2⌋ < ⌊amount * 100 + 1 / 2⌋ + 1 := by
      rw [Int.floor_lt]
      push_cast
      linarith
    have hone : ⌊amount * 100 + 1 / 2⌋ ≤ ⌊amount * 100⌋ + 1 := by
      have := Int.floor_le_floor (by linarith : amount * 100 + 1 / 2 ≤ amount * 100 + 1)
      rwa [Int.floor_add_one] at this
    unfold IsCents
    omega

/-- A number that is near keeps the cents, when the half cents are not as near. -/
theorem KeepsCents.of_near {amount q d : ℚ} (hnear : |q - amount| < d) (hd : d ≤ 1 / 200)
    (hhalf : ∀ c : Int, amount < c / 100 + 1 / 200 → d ≤ c / 100 + 1 / 200 - amount) :
    KeepsCents amount q := by
  obtain ⟨hlower, hupper⟩ := abs_lt.mp hnear
  intro c
  constructor
  · intro hbelow
    have := hhalf c hbelow
    linarith
  · intro habove
    linarith

/-- A number that is more than a cent away does not. -/
theorem KeepsCents.sub_le {amount q : ℚ} (h : KeepsCents amount q) : q - amount < 1 / 100 := by
  have hup := (h ⌊amount * 100 + 1 / 2⌋).1 (by
    have := Int.lt_floor_add_one (amount * 100 + 1 / 2)
    linarith)
  have := Int.floor_le (amount * 100 + 1 / 2)
  linarith

/-- The digits of a number behind a point are the number with `k + 1` places when it has as many
digits, or is zero. -/
theorem digitFraction_of_full {n k : Nat} (hn : n < 10 ^ (k + 1)) (h : n = 0 ∨ 10 ^ k ≤ n) :
    digitFraction 10 n = n / 10 ^ (k + 1) := by
  rcases h with rfl | h
  · simp
  · have hten : 1 < 10 := by decide
    have hle : digitCount 10 n ≤ k + 1 := (digitCount_le_iff hten).mpr hn
    have hlt : k < digitCount 10 n := (lt_digitCount_iff hten).mpr h
    obtain hcount : digitCount 10 n = k + 1 := by omega
    unfold digitFraction
    rw [hcount, Int.cast_natCast, Nat.cast_ofNat]

/-- Otherwise they are far more. -/
theorem le_digitFraction_sub {n k : Nat} (hne : n ≠ 0) (hlt : n < 10 ^ k) :
    9 / 100 ≤ digitFraction 10 n - n / 10 ^ (k + 1) := by
  have hten : 1 < 10 := by decide
  have hne' : (n : Int) ≠ 0 := by exact_mod_cast hne
  have hcount : digitCount 10 n < k + 1 :=
    Nat.lt_succ_of_le ((digitCount_le_iff hten).mpr hlt)
  have hgap := digitFraction_gap hten hne' hcount
  have hmore : (n : ℚ) / 10 ^ (k + 1) ≤ n / 10 ^ digitCount 10 n := by
    apply div_le_div_of_nonneg_left (Nat.cast_nonneg n) (by positivity)
    exact pow_le_pow_right₀ (by norm_num) hcount.le
  unfold digitFraction at hgap ⊢
  rw [Int.cast_natCast, Nat.cast_ofNat] at hgap ⊢
  rw [abs_of_nonneg (by linarith)] at hgap
  linarith

/-- So they have other cents. -/
theorem not_sameCents_digits {n k : Nat} (hne : n ≠ 0) (hlt : n < 10 ^ k) {u : ℚ} :
    ¬ SameCents (u + digitFraction 10 n) (u + n / 10 ^ (k + 1)) := by
  intro h
  have hmore := le_digitFraction_sub hne hlt
  have hclose := abs_lt.mp h.abs_sub_lt
  linarith [hclose.2]

end DecimalText
