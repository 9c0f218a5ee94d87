import TableSchema.Number.FloatText
import TableSchema.Proofs.Number.IntegerText
import TableSchema.Proofs.Number.Nearest
import TableSchema.Proofs.Text.Unambiguous

/-!
# Numerals read back

A numeral is spelled by digits with perhaps a point among them and perhaps an exponent after them.
Both notations of a number, with zeros up to the point and with an exponent, spell a numeral of the
value that the digits and the place of the point give, so what is written of a finite number reads
back as the number.
-/

namespace TableSchema.Number

/-- The characters are decimal digits. -/
def AreDigits (cs : List Char) : Prop :=
  ∀ c ∈ cs, c.isDigit = true

/-- The number that digits spell. -/
def digitsNumber (cs : List Char) : Nat :=
  Nat.ofDigitChars 10 cs 0

/-- The digits after a point, and what follows them. -/
def splitFraction : List Char → List Char × List Char
  | '.' :: cs => (cs.takeWhile Char.isDigit, cs.dropWhile Char.isDigit)
  | cs => ([], cs)

/-- The exponent that follows the digits of a numeral; it is zero if nothing follows. -/
def readExponent : List Char → Option Int
  | [] => some 0
  | c :: cs => if c = 'e' ∨ c = 'E' then exponentOf? cs else none

/-- The numeral that the characters spell from end to end. -/
def readNumeral (cs : List Char) : Option Numeral :=
  let whole := cs.takeWhile Char.isDigit
  let r := splitFraction (cs.dropWhile Char.isDigit)
  if (whole ++ r.1).isEmpty then none
  else (readExponent r.2).map fun e => ⟨digitsNumber (whole ++ r.1), e - r.1.length⟩

/-- The characters spell a numeral of this value. -/
def Spells (cs : List Char) (q : ℚ) : Prop :=
  ∃ n, readNumeral cs = some n ∧ n.value = q

section Digits

variable {cs ds : List Char}

theorem areDigits_append : AreDigits (cs ++ ds) ↔ AreDigits cs ∧ AreDigits ds :=
  List.forall_mem_append

theorem areDigits_zeros (n : Nat) : AreDigits (zeros n) := by
  intro c hc
  rw [List.eq_of_mem_replicate hc]
  rfl

theorem areDigits_toDigits (n : Nat) : AreDigits (Nat.toDigits 10 n) :=
  fun _ => Nat.isDigit_of_mem_toDigits (by decide) (by decide)

theorem digitsNumber_append :
    digitsNumber (cs ++ ds) = 10 ^ ds.length * digitsNumber cs + digitsNumber ds := by
  rw [digitsNumber, Nat.ofDigitChars_append, Nat.ofDigitChars_eq_ofDigitChars_zero]
  rfl

theorem digitsNumber_zeros (n : Nat) : digitsNumber (zeros n) = 0 := by
  rw [digitsNumber, zeros, Nat.ofDigitChars_replicate_zero, Nat.mul_zero]

theorem digitsNumber_zeros_append (n : Nat) (cs : List Char) :
    digitsNumber (zeros n ++ cs) = digitsNumber cs := by
  rw [digitsNumber_append, digitsNumber_zeros, Nat.mul_zero, Nat.zero_add]

/-- Zeros at the end of the digits are worth as many powers of ten. -/
theorem digitsNumber_append_zeros_mul (cs : List Char) (n : Nat) (scale : Int) :
    (digitsNumber (cs ++ zeros n) : ℚ) * 10 ^ scale = digitsNumber cs * 10 ^ (n + scale) := by
  rw [digitsNumber_append, digitsNumber_zeros, zeros, List.length_replicate, Nat.add_zero,
    zpow_add₀ (by norm_num), zpow_natCast]
  push_cast
  ring

theorem digitsNumber_toDigits (n : Nat) : digitsNumber (Nat.toDigits 10 n) = n :=
  Nat.ofDigitChars_ten_toDigits

end Digits

section Reading

variable {ds fs x : List Char}

/-- Digits with a point among them spell a numeral. -/
theorem readNumeral_point (hds : AreDigits ds) (hfs : AreDigits fs) (hne : ds ++ fs ≠ [])
    (hx : ∀ c ∈ x.head?, c.isDigit = false) :
    readNumeral (ds ++ '.' :: (fs ++ x)) =
      (readExponent x).map fun e => ⟨digitsNumber (ds ++ fs), e - fs.length⟩ := by
  obtain ⟨htake, hdrop⟩ := Text.takeWhile_run_append (x := '.' :: (fs ++ x)) hds (by simp)
  obtain ⟨htake', hdrop'⟩ := Text.takeWhile_run_append hfs hx
  simp only [readNumeral, htake, hdrop, splitFraction, htake', hdrop', List.isEmpty_iff, if_neg hne]

/-- Digits without a point spell a numeral. -/
theorem readNumeral_whole (hds : AreDigits ds) (hne : ds ≠ [])
    (hx : ∀ c ∈ x.head?, c.isDigit = false ∧ c ≠ '.') :
    readNumeral (ds ++ x) = (readExponent x).map fun e => ⟨digitsNumber ds, e⟩ := by
  obtain ⟨htake, hdrop⟩ := Text.takeWhile_run_append hds fun c hc => (hx c hc).1
  have hsplit : splitFraction x = ([], x) := by
    cases x with
    | nil => rfl
    | cons c x =>
        have hc : c ≠ '.' := (hx c rfl).2
        simp [splitFraction, hc]
  simp only [readNumeral, htake, hdrop, hsplit, List.append_nil, List.isEmpty_iff, if_neg hne,
    List.length_nil, Nat.cast_zero, sub_zero]

/-- An exponent is read back. -/
theorem readExponent_exponentText (n : Int) : readExponent (exponentText 'e' n) = some n := by
  obtain ⟨ds, hds⟩ : ∃ ds, zeros (2 - (Nat.toDigits 10 n.natAbs).length) ++
      Nat.toDigits 10 n.natAbs = ds := ⟨_, rfl⟩
  have hdigits : AreDigits ds :=
    hds ▸ areDigits_append.mpr ⟨areDigits_zeros _, areDigits_toDigits _⟩
  have hne : ds ≠ [] := hds ▸ List.append_ne_nil_of_right_ne_nil _ Nat.toDigits_ne_nil
  have hnumber : digitsValue 10 ds = n.natAbs := by
    rw [digitsValue_of_isDigit hdigits, ← digitsNumber, ← hds, digitsNumber_zeros_append,
      digitsNumber_toDigits]
  have hall : ds.all Char.isDigit = true := List.all_eq_true.mpr hdigits
  have hread (sign : Char) (negative : Bool) (hsign : splitSign (sign :: ds) = (negative, ds)) :
      readExponent ('e' :: sign :: ds) = some (signed negative n.natAbs) := by
    simp [readExponent, exponentOf?, hsign, hne, hall, hnumber]
  rw [exponentText, hds]
  split
  · rename_i hn
    rw [hread '-' true rfl, signed, if_pos rfl]
    congr 1
    omega
  · rename_i hn
    rw [hread '+' false rfl, signed, if_neg Bool.false_ne_true]
    congr 1
    omega

end Reading

section Notations

variable {ds : List Char}

theorem spells_positional (hds : AreDigits ds) (hne : ds ≠ []) (point : Int) :
    Spells (positional ds point) (digitsNumber ds * 10 ^ (point - ds.length)) := by
  have hread {whole fraction : List Char} (hwhole : AreDigits whole)
      (hfraction : AreDigits fraction) (hparts : whole ++ fraction ≠ []) :
      Spells (whole ++ '.' :: fraction)
        (digitsNumber (whole ++ fraction) * 10 ^ (-(fraction.length : Int))) := by
    have hnumeral := readNumeral_point (x := []) hwhole hfraction hparts (by simp)
    rw [List.append_nil] at hnumeral
    exact ⟨_, hnumeral, by simp [Numeral.value]⟩
  rw [positional]
  -- The point stands before the digits, after all of them, or between them.
  split
  · rename_i hpoint
    have hfraction : AreDigits (zeros (-point).toNat ++ ds) :=
      areDigits_append.mpr ⟨areDigits_zeros _, hds⟩
    have hspelled := hread (areDigits_zeros 1) hfraction (by simp [zeros])
    have hlength : -((zeros (-point).toNat ++ ds).length : Int) = point - ds.length := by
      simp only [zeros, List.length_append, List.length_replicate]
      omega
    rw [digitsNumber_zeros_append, digitsNumber_zeros_append, hlength] at hspelled
    exact hspelled
  · obtain ⟨n, rfl⟩ : ∃ n : Nat, point = n := ⟨point.toNat, by omega⟩
    rw [Int.toNat_natCast]
    dsimp only
    split
    · rename_i hlength
      obtain ⟨k, rfl⟩ := Nat.exists_eq_add_of_le hlength
      have hspelled := hread (areDigits_append.mpr ⟨hds, areDigits_zeros k⟩) (areDigits_zeros 1)
        (by simp [hne])
      rw [Nat.add_sub_cancel_left]
      have hvalue : (digitsNumber (ds ++ zeros k ++ zeros 1) : ℚ) *
          10 ^ (-((zeros 1).length : Int)) =
            digitsNumber ds * 10 ^ (((ds.length + k : Nat) : Int) - ds.length) := by
        rw [digitsNumber_append_zeros_mul, digitsNumber_append_zeros_mul]
        congr 2
        simp only [zeros, List.length_replicate]
        omega
      exact hvalue ▸ hspelled
    · rename_i hlength
      have hparts := List.take_append_drop n ds
      have hdigits := areDigits_append.mp (hparts.symm ▸ hds)
      have hspelled := hread hdigits.1 hdigits.2 (by rwa [hparts])
      have hpoint : -((ds.drop n).length : Int) = n - ds.length := by
        rw [List.length_drop]
        omega
      rw [hparts, hpoint] at hspelled
      exact hspelled

theorem spells_scientific (hds : AreDigits ds) (hne : ds ≠ []) (point : Int) :
    Spells (scientific ds point) (digitsNumber ds * 10 ^ (point - ds.length)) := by
  have hmark : ∀ c ∈ (exponentText 'e' (point - 1)).head?, c.isDigit = false ∧ c ≠ '.' := by
    simp [exponentText]
  match ds, hne with
  | [d], _ =>
      have hnumeral := readNumeral_whole hds (List.cons_ne_nil d []) hmark
      rw [readExponent_exponentText] at hnumeral
      exact ⟨_, hnumeral, by simp [Numeral.value]⟩
  | d :: e :: ds, _ =>
      have hparts : AreDigits ([d] ++ e :: ds) := hds
      obtain ⟨hd, hrest⟩ := areDigits_append.mp hparts
      have hnumeral := readNumeral_point hd hrest (List.cons_ne_nil d _) fun c hc => (hmark c hc).1
      rw [readExponent_exponentText] at hnumeral
      refine ⟨_, hnumeral, ?_⟩
      have hscale :
          point - 1 - ((e :: ds).length : Int) = point - ((d :: e :: ds).length : Int) := by
        simp only [List.length_cons]
        omega
      rw [← hscale]
      rfl

/-- Digits with a place for the point spell their value in the notation that suits the size. -/
theorem spells_notated (hds : AreDigits ds) (hne : ds ≠ []) (point : Int) :
    Spells (notated ds point) (digitsNumber ds * 10 ^ (point - ds.length)) := by
  rw [notated]
  split
  · exact spells_positional hds hne point
  · exact spells_scientific hds hne point

/-- Zeros at the end are all that is cut off. -/
theorem exists_zeros_append (cs : List Char) :
    ∃ k, cs = (cs.reverse.dropWhile (· == '0')).reverse ++ zeros k := by
  refine ⟨(cs.reverse.takeWhile (· == '0')).length, ?_⟩
  have hzeros : cs.reverse.takeWhile (· == '0') =
      zeros (cs.reverse.takeWhile (· == '0')).length :=
    List.eq_replicate_of_mem fun c hc => by simpa using List.mem_takeWhile_imp hc
  have hparts := List.takeWhile_append_dropWhile (p := (· == '0')) (l := cs.reverse)
  rw [hzeros] at hparts
  rw [← List.reverse_inj, List.reverse_append, List.reverse_reverse, zeros, List.reverse_replicate]
  exact hparts.symm

/-- The significant digits of a numeral spell its value. -/
theorem spells_significant (n : Numeral) :
    Spells (notated n.significant.1 n.significant.2) n.value := by
  obtain ⟨k, hk⟩ := exists_zeros_append (Nat.toDigits 10 n.digits)
  rw [Numeral.significant]
  generalize ((Nat.toDigits 10 n.digits).reverse.dropWhile (· == '0')).reverse = cut at hk ⊢
  have hdigits : AreDigits (cut ++ zeros k) := hk ▸ areDigits_toDigits n.digits
  have hvalue : n.value = digitsNumber cut * 10 ^ (k + n.scale) := by
    rw [Numeral.value, ← digitsNumber_append_zeros_mul, ← hk, digitsNumber_toDigits]
  have hscale : ((Nat.toDigits 10 n.digits).length : Int) + n.scale - cut.length =
      k + n.scale := by
    rw [hk, List.length_append, zeros, List.length_replicate]
    omega
  rw [hvalue]
  -- Of zero no digit is left, and a single one is written.
  by_cases hcut : cut = []
  · subst hcut
    have hspelled := spells_notated (areDigits_zeros 1) (by simp [zeros])
      ((Nat.toDigits 10 n.digits).length + n.scale)
    rw [digitsNumber_zeros, Nat.cast_zero, zero_mul] at hspelled
    simpa [digitsNumber, zeros] using hspelled
  · have hspelled := spells_notated (areDigits_append.mp hdigits).1 hcut
      ((Nat.toDigits 10 n.digits).length + n.scale)
    rw [hscale] at hspelled
    simpa [hcut] using hspelled

end Notations

section Signs

/-- A numeral with perhaps a sign in front: whether the sign is a minus, and the numeral. -/
def readSigned (cs : List Char) : Option (Bool × Numeral) :=
  (readNumeral (splitSign cs).2).map fun n => ((splitSign cs).1, n)

/-- A minus sign in front, if there is one, is read. -/
theorem readSigned_append {cs : List Char} {n : Numeral} (negative : Bool)
    (h : readNumeral cs = some n) :
    readSigned ((if negative then ['-'] else []) ++ cs) = some (negative, n) := by
  cases negative with
  | true => simp [readSigned, splitSign, h]
  | false =>
      have hsign : splitSign cs = (false, cs) := by
        unfold splitSign
        split
        · cases h
        · cases h
        · rfl
      simp [readSigned, hsign, h]

/-- A natural number is read back from its decimal digits. -/
theorem readNumeral_toDigits (n : Nat) : readNumeral (Nat.toDigits 10 n) = some ⟨n, 0⟩ := by
  have hread := readNumeral_whole (x := []) (areDigits_toDigits n) Nat.toDigits_ne_nil (by simp)
  rw [List.append_nil, digitsNumber_toDigits] at hread
  exact hread

/-- A finite number is read back from its text. -/
theorem exists_readSigned_chars (negative : Bool) {m : Nat} {e : Int} (h : Canonical m e) :
    ∃ n, readSigned (Binary64.finite negative m e h).chars = some (negative, n) ∧
      n.ReadsAs negative (.finite negative m e h) := by
  rcases Nat.eq_zero_or_pos m with rfl | hm
  · obtain rfl : e = -1074 := h.2.2.2.resolve_left (by decide)
    exact ⟨⟨0, -1⟩, readSigned_append negative rfl, rfl⟩
  · obtain ⟨n, hn, hvalue⟩ := spells_significant (Numeral.shortest negative m e h)
    have hread := readSigned_append negative hn
    rw [Binary64.chars, if_neg hm.ne']
    refine ⟨n, hread, ?_⟩
    rw [Numeral.readsAs_iff, hvalue, ← Numeral.readsAs_iff]
    exact Numeral.readsAs_shortest h

end Signs

end TableSchema.Number
