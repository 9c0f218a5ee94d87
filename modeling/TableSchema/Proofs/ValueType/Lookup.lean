import TableSchema.Proofs.Number.IntegerText
import TableSchema.Proofs.Occurrences
import TableSchema.Proofs.Text.Blank
import TableSchema.ValueType.Lookup

/-!
# What texts name a type

A text names a type if its normal form is a name of a scalar type, or a name of a character type
with a numeral in parentheses that gives the length. All other texts name none: the numeral has at
least one digit and not too many, nothing but spaces stands beside it, and its value is a length
that a character type can have.
-/

namespace TableSchema

open Text

namespace Lookup

/-- The characters are a name of the kind and the numeral in parentheses. Spaces may stand around
each parenthesis. -/
def IsSized (kind : CharacterKind) (numeral cs : List Char) : Prop :=
  ∃ name s₁ s₂ s₃, (String.ofList name, kind) ∈ characterNames ∧
    (∀ c ∈ s₁, c = ' ') ∧ (∀ c ∈ s₂, c = ' ') ∧ (∀ c ∈ s₃, c = ' ') ∧
    cs = name ++ (s₁ ++ '(' :: (s₂ ++ (numeral ++ (s₃ ++ [')']))))

/-- The numeral consists of decimal digits, not too many, and has the value. -/
structure IsNumeral (numeral : List Char) (n : Nat) : Prop where
  ne_nil : numeral ≠ []
  digits : ∀ c ∈ numeral, isDigit c = true
  length_le : numeral.length ≤ Number.maxDigits
  value : Number.decimalValue numeral = n

/-- The characters in normal form name the type. -/
inductive Names : List Char → ValueType → Prop
  | scalar {cs : List Char} {kind : ScalarKind} :
      (String.ofList cs, kind) ∈ scalarNames → Names cs (.scalar kind)
  | character {cs numeral : List Char} {t : CharacterType} :
      IsSized t.kind numeral cs → IsNumeral numeral t.length → Names cs (.character t)

section Spans

theorem drop_length_takeWhile (p : Char → Bool) (cs : List Char) :
    cs.drop (cs.takeWhile p).length = cs.dropWhile p := by
  calc
    cs.drop (cs.takeWhile p).length
      = (cs.takeWhile p ++ cs.dropWhile p).drop (cs.takeWhile p).length := by
        rw [List.takeWhile_append_dropWhile]
    _ = cs.dropWhile p := List.drop_left

theorem exists_spaces (cs : List Char) :
    ∃ s, (∀ c ∈ s, c = ' ') ∧ cs = s ++ cs.dropWhile (· == ' ') :=
  ⟨cs.takeWhile (· == ' '), fun _ hc => by simpa using List.mem_takeWhile_imp hc,
    List.takeWhile_append_dropWhile.symm⟩

theorem dropWhile_spaces {s cs : List Char} (hs : ∀ c ∈ s, c = ' ') (hcs : cs.head? ≠ some ' ') :
    (s ++ cs).dropWhile (· == ' ') = cs := by
  rw [List.dropWhile_append_of_pos (by simpa using hs)]
  cases cs with
  | nil => rfl
  | cons c cs => exact List.dropWhile_cons_of_neg (by simpa using hcs)

/-- What is left before an opening parenthesis begins with it. -/
theorem dropWhile_eq_cons_of_ne_nil {cs : List Char} (h : cs.dropWhile (· != '(') ≠ []) :
    ∃ rest, cs.dropWhile (· != '(') = '(' :: rest := by
  obtain ⟨c, rest, hrest⟩ := List.exists_cons_of_ne_nil h
  have hc := List.head?_dropWhile_not (· != '(') cs
  rw [hrest] at hc
  obtain rfl : c = '(' := by simpa using hc
  exact ⟨rest, hrest⟩

end Spans

section Sized

variable {kind : CharacterKind} {numeral cs : List Char}

/-- A name of a character type begins and ends with letters and holds no parenthesis. -/
theorem characterNames_spelling {name : List Char}
    (h : (String.ofList name, kind) ∈ characterNames) :
    name ≠ [] ∧ (∀ c ∈ name.head?, (c == ' ') = false) ∧
      (∀ c ∈ name.getLast?, (c == ' ') = false) ∧ '(' ∉ name := by
  have hall : ∀ e ∈ characterNames, e.1.toList ≠ [] ∧
      e.1.toList.head?.all (· != ' ') = true ∧ e.1.toList.getLast?.all (· != ' ') = true ∧
      '(' ∉ e.1.toList := by
    decide
  simpa [Option.all_eq_true] using hall _ h

theorem lookupFirst_characterNames {name : String} (h : (name, kind) ∈ characterNames) :
    lookupFirst name characterNames = some kind := by
  have hall : ∀ e ∈ characterNames, lookupFirst e.1 characterNames = some e.2 := by decide
  exact hall _ h

theorem character?_of_isSized (h : IsSized kind numeral cs) (hne : numeral ≠ [])
    (hdigits : ∀ c ∈ numeral, isDigit c = true) : character? cs = some (kind, numeral) := by
  obtain ⟨name, s₁, s₂, s₃, hname, h₁, h₂, h₃, rfl⟩ := h
  obtain ⟨hnonempty, hhead, hlast, hparen⟩ := characterNames_spelling hname
  have hbefore : ∀ c ∈ name ++ s₁, (c != '(') = true := by
    rw [List.forall_mem_append]
    refine ⟨fun c hc => ?_, fun c hc => ?_⟩
    · rw [bne_iff_ne]
      rintro rfl
      exact hparen hc
    · rw [h₁ c hc]
      rfl
  have hclose : isDigit ')' = false := by decide
  have hspace : isDigit ' ' = false := by decide
  have hbase : (name ++ (s₁ ++ '(' :: (s₂ ++ (numeral ++ (s₃ ++ [')']))))).takeWhile (· != '(') =
      name ++ s₁ := by
    rw [← List.append_assoc, List.takeWhile_append_of_pos hbefore]
    simp
  have hinner : (((name ++ (s₁ ++ '(' :: (s₂ ++ (numeral ++ (s₃ ++ [')']))))).drop
      (name ++ s₁).length).drop 1).dropWhile (· == ' ') = numeral ++ (s₃ ++ [')']) := by
    rw [← List.append_assoc, List.drop_left, List.drop_one, List.tail_cons]
    refine dropWhile_spaces h₂ ?_
    obtain ⟨d, ds, rfl⟩ := List.exists_cons_of_ne_nil hne
    intro hd
    obtain rfl : d = ' ' := Option.some.inj hd
    rw [hdigits ' ' List.mem_cons_self] at hspace
    cases hspace
  have hnumeral : (numeral ++ (s₃ ++ [')'])).takeWhile isDigit = numeral := by
    rw [List.takeWhile_append_of_pos hdigits]
    cases s₃ with
    | nil => simp [hclose]
    | cons c s₃ => simp [h₃ c List.mem_cons_self, hspace]
  have hrest : ((numeral ++ (s₃ ++ [')'])).drop numeral.length).dropWhile (· == ' ') = [')'] := by
    rw [List.drop_left]
    exact dropWhile_spaces h₃ (by simp)
  have htrim : trimBy (· == ' ') (name ++ s₁) = name :=
    trimBy_append hhead hlast (by simpa using h₁) hnonempty
  unfold character?
  simp only [hbase, hinner, hnumeral, hrest, htrim, lookupFirst_characterNames hname]
  simp [hne]

theorem isSized_of_character? (hcs : cs.head? ≠ some ' ')
    (h : character? cs = some (kind, numeral)) :
    IsSized kind numeral cs ∧ numeral ≠ [] ∧ ∀ c ∈ numeral, isDigit c = true := by
  unfold character? at h
  simp only [drop_length_takeWhile] at h
  split at h
  · cases h
  rename_i hform
  obtain ⟨found, hkind, hpair⟩ := Option.map_eq_some_iff.mp h
  obtain ⟨rfl, rfl⟩ := Prod.mk.injEq .. ▸ hpair
  simp only [Bool.or_eq_true, List.isEmpty_iff, bne_iff_ne, not_or, not_not] at hform
  obtain ⟨hne, hrest⟩ := hform
  refine ⟨?_, hne, fun c hc => List.mem_takeWhile_imp hc⟩
  obtain ⟨tail, htail⟩ : ∃ tail, cs.dropWhile (· != '(') = '(' :: tail := by
    apply dropWhile_eq_cons_of_ne_nil
    intro hnil
    simp [hnil] at hne
  rw [htail, List.drop_one, List.tail_cons] at hrest hne ⊢
  obtain ⟨s₂, h₂, hs₂⟩ := exists_spaces tail
  obtain ⟨s₃, h₃, hs₃⟩ := exists_spaces ((tail.dropWhile (· == ' ')).dropWhile isDigit)
  rw [hrest] at hs₃
  obtain ⟨front, s₁, hbase, hfront, hs₁⟩ :=
    exists_eq_append_trimBy (· == ' ') (cs.takeWhile (· != '('))
  have hcut : cs = cs.takeWhile (· != '(') ++ '(' :: tail := by
    rw [← htail, List.takeWhile_append_dropWhile]
  -- Nothing is trimmed off in front, as no space stands there.
  obtain rfl : front = [] := by
    cases front with
    | nil => rfl
    | cons c front =>
        have hc : c = ' ' := by simpa using hfront c List.mem_cons_self
        rw [hcut, hbase, hc] at hcs
        exact absurd rfl hcs
  refine ⟨_, s₁, s₂, s₃, mem_of_lookupFirst hkind, by simpa using hs₁, h₂, h₃, ?_⟩
  calc
    cs = cs.takeWhile (· != '(') ++ '(' :: tail := hcut
    _ = trimBy (· == ' ') (cs.takeWhile (· != '(')) ++ (s₁ ++ '(' :: tail) := by
      rw [← List.append_assoc, ← List.nil_append (trimBy _ _ ++ s₁), ← hbase]
    _ = _ := by
      rw [← hs₃, List.takeWhile_append_dropWhile, ← hs₂]

end Sized

/-- The length that a numeral gives is the one of the type. -/
theorem character_eq_ok_iff {kind : CharacterKind} {numeral : List Char} (hne : numeral ≠ [])
    (hdigits : ∀ c ∈ numeral, isDigit c = true) {t : ValueType} :
    character kind numeral = .ok t ↔
      ∃ type : CharacterType, t = .character type ∧ type.kind = kind ∧
        IsNumeral numeral type.length := by
  rw [character, Number.readInteger_of_textIsDigit hne hdigits]
  by_cases hlong : Number.maxDigits < numeral.length
  · rw [if_pos hlong]
    simp only [reduceCtorEq, false_iff]
    rintro ⟨type, -, -, hnumeral⟩
    have := hnumeral.length_le
    omega
  · rw [if_neg hlong]
    constructor
    · intro h
      simp only at h
      split at h
      · rename_i hleast
        split at h
        · rename_i hgreatest
          exact ⟨⟨kind, _, hleast, hgreatest⟩, (Except.ok.inj h).symm, rfl, hne, hdigits,
            by omega, rfl⟩
        · cases h
      · cases h
    · rintro ⟨⟨kind, length, hleast, hgreatest⟩, rfl, rfl, hnumeral⟩
      have hvalue : Number.decimalValue numeral = length := hnumeral.value
      subst hvalue
      simp [hleast, hgreatest]

/-- No name of a scalar type holds a parenthesis. -/
theorem lookupFirst_scalarNames_eq_none {cs : List Char} (h : '(' ∈ cs) :
    lookupFirst (String.ofList cs) scalarNames = none := by
  rw [lookupFirst_eq_none_iff]
  intro hmem
  have hnames : ∀ n ∈ scalarNames.map (·.1), '(' ∉ n.toList := by decide
  exact hnames _ hmem (by simpa using h)

theorem lookupFirst_scalarNames {name : String} {kind : ScalarKind}
    (h : (name, kind) ∈ scalarNames) : lookupFirst name scalarNames = some kind := by
  have hall : ∀ e ∈ scalarNames, lookupFirst e.1 scalarNames = some e.2 := by decide
  exact hall _ h

end Lookup

open Lookup

/-- A text is found as a type exactly if its normal form names the type. -/
theorem lookupType_eq_ok_iff_names {spec : String} {t : ValueType} :
    lookupType spec = .ok t ↔ Names (normalized spec) t := by
  have hhead : (normalized spec).head? ≠ some ' ' := head?_collapse_ne_space _
  rw [lookupType]
  constructor
  · intro h
    cases hscalar : lookupFirst (String.ofList (normalized spec)) scalarNames with
    | some kind =>
        simp only [hscalar] at h
        obtain rfl := Except.ok.inj h
        exact .scalar (mem_of_lookupFirst hscalar)
    | none =>
        simp only [hscalar] at h
        split at h
        · rename_i kind numeral hcharacter
          obtain ⟨hsized, hne, hdigits⟩ := isSized_of_character? hhead hcharacter
          obtain ⟨type, rfl, rfl, hnumeral⟩ := (character_eq_ok_iff hne hdigits).mp h
          exact .character hsized hnumeral
        · cases h
  · intro h
    cases h with
    | scalar hmem => simp only [lookupFirst_scalarNames hmem]
    | @character numeral type hsized hnumeral =>
        have hparen : '(' ∈ normalized spec := by
          obtain ⟨name, s₁, s₂, s₃, -, -, -, -, hcs⟩ := hsized
          simp [hcs]
        have hcharacter := character?_of_isSized hsized hnumeral.ne_nil hnumeral.digits
        simp only [lookupFirst_scalarNames_eq_none hparen, hcharacter]
        exact (character_eq_ok_iff hnumeral.ne_nil hnumeral.digits).mpr ⟨type, rfl, rfl, hnumeral⟩

end TableSchema
