import TableSchema.Proofs.Document.Parts
import TableSchema.Proofs.Occurrences

/-!
# Declared and constructed enumerations

An enumeration is declared by a name and a datum that is walked through, or constructed from its two
fields. Both take the first occurrences of the values, and both refuse the same data for the same
reasons. A text is where they part: as a field it is one value, and a declaration walks through its
characters. The enumerations of a document are declared, so there a text stands for its characters.
-/

namespace TableSchema

open Datum (text)

/-- The texts of one character that a text is made of. -/
def characters (s : String) : List String :=
  s.toList.map Char.toString

/-- A text is the only one of its characters if it is a character itself. -/
theorem firsts_characters_eq_singleton_iff {s : String} :
    firsts (characters s) = [s] ↔ s.length = 1 := by
  constructor
  · intro h
    have hs : s ∈ characters s := mem_firsts.mp (h ▸ List.mem_singleton_self s)
    obtain ⟨c, -, hc⟩ := List.mem_map.mp hs
    rw [← hc, Char.toString, String.length_singleton]
  · intro h
    obtain ⟨c, hc⟩ := List.length_eq_one_iff.mp (String.length_toList.trans h)
    have hs : s = c.toString := String.toList_inj.mp (by rw [hc, Char.toString_eq_singleton]; simp)
    rw [characters, hc, hs]
    rfl

namespace Datum

theorem unhashableIn?_texts (ss : List String) : unhashableIn? (ss.map text) = none := by
  induction ss with
  | nil => rfl
  | cons s ss ih => simpa [unhashableIn?, unhashable?, text] using ih

theorem distinct_texts (ss : List String) : distinct (ss.map text) = (firsts ss).map text := by
  induction ss with
  | nil => rfl
  | cons s ss ih =>
      have hsame (j : String) : (text s).same (text j) = (j == s) := by
        rw [Bool.eq_iff_iff, same_text_iff, text_inj, beq_iff_eq, eq_comm]
      rw [List.map_cons, distinct, ih, List.filter_map, firsts, List.map_cons]
      simp only [Function.comp_def, hsame]

/-- What holds of all data but texts is said of texts alone. -/
theorem iff_forall_text {d : Datum} {p : Prop} {q : String → Prop} (hnone : d.text? = none → p)
    (htext : ∀ s, d = text s → (p ↔ q s)) : p ↔ ∀ s, d = text s → q s := by
  constructor
  · exact fun hp s hs => (htext s hs).mp hp
  · intro hq
    cases h : d.text? with
    | none => exact hnone h
    | some s =>
        have hs : d = text s := text?_eq_some_iff.mp h
        exact (htext s hs).mpr (hq s hs)

end Datum

namespace Reading

variable {d : Datum} {ss : List String}

theorem text_ne_broken (d : Datum) (m : String) : text d ≠ .broken m := by
  unfold text fault
  split
  · simp
  · split <;> simp
  · simp

theorem name_ne_broken (d : Datum) (m : String) : name d ≠ .broken m := by
  rw [name]
  cases h : text d with
  | ok s =>
      simp only [andThen, fault]
      split <;> simp
  | faults fs => simp [andThen]
  | broken n => exact absurd h (text_ne_broken d n)

/-- The values that are read are the first occurrences of the texts in the datum. -/
theorem enumValues_texts_eq_ok_iff {vs : { vs : List String // vs ≠ [] }} :
    enumValues (.tuple (ss.map Datum.text)) = .ok vs ↔ vs.1 = firsts ss := by
  have hitems : distinctItems (.tuple (ss.map Datum.text)) =
      .ok ((firsts ss).map Datum.text) := by
    simp [distinctItems, Datum.items?, Datum.unhashableIn?_texts, Datum.distinct_texts]
  have hread (vs : List String) : ((firsts ss).map Datum.text).map text = vs.map .ok ↔
      vs = firsts ss := by
    rw [List.map_map]
    have hok : text ∘ Datum.text = (Reading.ok : String → Reading String) := rfl
    rw [hok, List.map_inj_right fun _ _ h => Reading.ok.inj h, eq_comm]
  have hvalues : enumValues (.tuple (ss.map Datum.text)) =
      enumTexts ((firsts ss).map Datum.text) := by
    simp only [enumValues, hitems]
  rw [hvalues, enumTexts, map_eq_ok_iff]
  simp only [atLeast_eq_ok_iff, mapIdx_within_eq_iff, hread]
  constructor
  · rintro ⟨us, hus, rfl⟩
    exact hus
  · intro h
    exact ⟨⟨vs.1, List.length_pos_iff.mpr vs.2⟩, h, rfl⟩

/-- A text is one value. -/
theorem enumValues_text (s : String) : enumValues (Datum.text s) = .ok ⟨[s], by simp⟩ := rfl

/-- All other data are walked through. -/
theorem enumValues_of_text?_eq_none (h : d.text? = none) :
    enumValues d =
      match distinctItems d with
      | .ok items => enumTexts items
      | .error m => .broken m := by
  cases d with
  | atom a =>
      cases a with
      | text s => cases h
      | _ => rfl
  | _ => rfl

/-- So it does not matter whether they are walked through before. -/
theorem enumValues_of_items? {items : List Datum} (htext : d.text? = none)
    (h : d.items? = some items) : enumValues d = enumValues (.tuple items) := by
  have hitems : distinctItems d = distinctItems (.tuple items) := by
    rw [distinctItems, distinctItems, h]
    rfl
  rw [enumValues_of_text?_eq_none htext, enumValues_of_text?_eq_none rfl, hitems]

theorem enumValues_of_items?_eq_none (htext : d.text? = none) (h : d.items? = none) :
    enumValues d = .broken (notIterable d) := by
  have hitems : distinctItems d = .error (notIterable d) := by
    rw [distinctItems, h]
  rw [enumValues_of_text?_eq_none htext, hitems]

end Reading

namespace EnumType

variable {name values values' : Datum} {e : EnumType} {s : String}

/-- The enumeration with these two fields. -/
def ofFields (name values : Datum) : Except ConstructionFault EnumType :=
  (Reading.enumType [(text "name", name), (text "values", values)]).construct "EnumType"

/-- The kind is left out, and the two fields are read side by side. -/
theorem ofFields_eq (name values : Datum) :
    ofFields name values =
      ((fun n vs => ⟨n.1, vs.1, n.2, vs.2⟩) <$>
        Reading.within (.field "name") (Reading.name name) <*>
        Reading.within (.field "values") (Reading.enumValues values)).construct "EnumType" := by
  have hkind : Reading.optional "kind" [(text "name", name), (text "values", values)] ()
      Reading.enumKind = .ok () := by
    simp [Reading.optional]
  have hname : Datum.field? "name" [(text "name", name), (text "values", values)] = some name := by
    simp
  have hvalues :
      Datum.field? "values" [(text "name", name), (text "values", values)] = some values := by
    simp
  rw [ofFields, Reading.enumType, hkind, Reading.required, Reading.required, hname, hvalues,
    Reading.map_ok, Reading.ok_seq]
  rfl

theorem ofFields_eq_ok_iff :
    ofFields name values = .ok e ↔
      Reading.name name = .ok ⟨e.name, e.name_fits⟩ ∧
        Reading.enumValues values = .ok ⟨e.values, e.values_ne_nil⟩ := by
  simp only [ofFields_eq, Reading.construct_eq_ok_iff, Reading.seq_eq_ok_iff,
    Reading.fmap_eq_ok_iff, Reading.within_eq_ok_iff]
  constructor
  · rintro ⟨_, vs, ⟨n, hn, rfl⟩, hvs, rfl⟩
    exact ⟨hn, hvs⟩
  · rintro ⟨hn, hvs⟩
    exact ⟨_, _, ⟨_, hn, rfl⟩, hvs, rfl⟩

/-- Values that cannot be walked through break the construction off. -/
theorem ofFields_of_broken {m : String} (h : Reading.enumValues values = .broken m) :
    ofFields name values = .error (.broken m) := by
  rw [ofFields_eq, h]
  cases hread : Reading.name name with
  | broken n => exact absurd hread (Reading.name_ne_broken name n)
  | ok n => rfl
  | faults fs => rfl

theorem ofFields_congr (h : Reading.enumValues values = Reading.enumValues values') :
    ofFields name values = ofFields name values' := by
  rw [ofFields_eq, ofFields_eq, h]

/-- All data but texts are read alike. -/
theorem declare_eq_ofFields (h : values.text? = none) :
    declare name values = ofFields name values := by
  rw [declare]
  split
  · rename_i hitems
    rw [ofFields_of_broken (Reading.enumValues_of_items?_eq_none h hitems)]
  · rename_i items hitems
    exact ofFields_congr (Reading.enumValues_of_items? h hitems).symm

theorem ofFields_text_eq_ok_iff :
    ofFields name (text s) = .ok e ↔
      Reading.name name = .ok ⟨e.name, e.name_fits⟩ ∧ e.values = [s] := by
  rw [ofFields_eq_ok_iff, Reading.enumValues_text, Reading.ok.injEq, Subtype.mk.injEq,
    eq_comm (a := [s])]

/-- A text is declared by walking through its characters. -/
theorem declare_text_eq (name : Datum) (s : String) :
    declare name (text s) = ofFields name (.tuple ((characters s).map text)) := by
  rw [characters, List.map_map]
  rfl

theorem declare_text_eq_ok_iff :
    declare name (text s) = .ok e ↔
      Reading.name name = .ok ⟨e.name, e.name_fits⟩ ∧ e.values = firsts (characters s) := by
  rw [declare_text_eq, ofFields_eq_ok_iff, Reading.enumValues_texts_eq_ok_iff]

/-- A text of one character is its own character. -/
theorem declare_text_eq_ofFields (h : s.length = 1) :
    declare name (text s) = ofFields name (text s) := by
  have hvalues : Reading.enumValues (.tuple ((characters s).map text)) =
      Reading.enumValues (text s) := by
    rw [Reading.enumValues_text, Reading.enumValues_texts_eq_ok_iff,
      firsts_characters_eq_singleton_iff.mpr h]
  rw [declare_text_eq, ofFields_congr hvalues]

/-- A declaration is a construction from fields, with the same faults, unless the values are a text
that is no single character. -/
theorem declare_eq_ofFields_of_forall (h : ∀ s, values = text s → s.length = 1) :
    declare name values = ofFields name values := by
  cases htext : values.text? with
  | none => exact declare_eq_ofFields htext
  | some s =>
      obtain rfl := Datum.text?_eq_some_iff.mp htext
      exact declare_text_eq_ofFields (h s rfl)

end EnumType

/-- The enumerations of a document are declared one by one. -/
theorem Document.enums_eq_ok_iff {es : Entries} {types : List (Datum × EnumType)} :
    enums es = .ok types ↔
      List.Forall₂ (fun e t => t.1 = e.1 ∧ EnumType.declare e.1 e.2 = .ok t.2) es types := by
  have hstep (e : Datum × Datum) (t : Datum × EnumType) :
      (constructed (EnumType.declare e.1 e.2)).map (e.1, ·) = .ok t ↔
        t.1 = e.1 ∧ EnumType.declare e.1 e.2 = .ok t.2 := by
    simp only [map_eq_ok_iff, constructed, mapError_eq_ok_iff]
    constructor
    · rintro ⟨d, hd, rfl⟩
      exact ⟨rfl, hd⟩
    · rintro ⟨hname, hd⟩
      exact ⟨t.2, hd, Prod.ext hname.symm rfl⟩
  simp only [enums_eq_mapM, mapM_eq_ok_iff, hstep]

/-! ## Where declarations and constructions agree -/

namespace EnumType

variable {name values : Datum} {s : String}

/-- Where the name is not refused, a text gives one value as a field and its characters in a
declaration, which are the same only for a character. -/
theorem toOption_declare_text_eq_iff :
    (declare name (text s)).toOption = (ofFields name (text s)).toOption ↔
      s.length = 1 ∨ ∀ n, Reading.name name ≠ .ok n := by
  constructor
  · intro h
    by_cases hname : ∃ n, Reading.name name = .ok n
    · obtain ⟨n, hn⟩ := hname
      have hfields : ofFields name (text s) = .ok ⟨n.1, [s], n.2, by simp⟩ :=
        ofFields_text_eq_ok_iff.mpr ⟨hn, rfl⟩
      have hdeclare : declare name (text s) = .ok ⟨n.1, [s], n.2, by simp⟩ :=
        toOption_eq_some_iff.mp (h.trans (toOption_eq_some_iff.mpr hfields))
      have hvalues : [s] = firsts (characters s) := (declare_text_eq_ok_iff.mp hdeclare).2
      exact Or.inl (firsts_characters_eq_singleton_iff.mp hvalues.symm)
    · exact Or.inr (not_exists.mp hname)
  · rintro (h | h)
    · rw [declare_text_eq_ofFields h]
    · have hnone (values : Datum) : (ofFields name values).toOption = none := by
        rw [Option.eq_none_iff_forall_ne_some]
        intro e he
        exact h _ (ofFields_eq_ok_iff.mp (toOption_eq_some_iff.mp he)).1
      rw [declare_text_eq, hnone, hnone]

/-- The reasons of two refusals differ for the empty text alone, which has no characters. -/
theorem declare_text_eq_ofFields_iff :
    declare name (text s) = ofFields name (text s) ↔
      s.length = 1 ∨ s ≠ "" ∧ ∀ n, Reading.name name ≠ .ok n := by
  have hfaults (h : ∀ n, Reading.name name ≠ .ok n) : ∃ fs, Reading.name name = .faults fs := by
    cases hread : Reading.name name with
    | ok n => exact absurd hread (h n)
    | broken m => exact absurd hread (Reading.name_ne_broken name m)
    | faults fs => exact ⟨fs, rfl⟩
  constructor
  · intro h
    rcases toOption_declare_text_eq_iff.mp (congrArg _ h) with hs | hname
    · exact Or.inl hs
    · refine Or.inr ⟨?_, hname⟩
      rintro rfl
      obtain ⟨fs, hfs⟩ := hfaults hname
      have hempty : Reading.enumValues (.tuple ((characters "").map text)) =
          .faults [⟨[], .tooFewItems⟩] := rfl
      rw [declare_text_eq, ofFields_eq, ofFields_eq, hfs, hempty, Reading.enumValues_text] at h
      have hdetails := (ConstructionFault.rejected.inj (Except.error.inj h)).2
      simp at hdetails
  · rintro (hs | ⟨hs, hname⟩)
    · exact declare_text_eq_ofFields hs
    · obtain ⟨fs, hfs⟩ := hfaults hname
      have hne : firsts (characters s) ≠ [] := by
        simpa [firsts_eq_nil_iff, characters] using hs
      have hvalues : Reading.enumValues (.tuple ((characters s).map text)) =
          .ok ⟨firsts (characters s), hne⟩ :=
        Reading.enumValues_texts_eq_ok_iff.mpr rfl
      rw [declare_text_eq, ofFields_eq, ofFields_eq, hfs, hvalues, Reading.enumValues_text]
      rfl

/-- What is declared is what the fields give, except for a text that is no single character. -/
theorem declare_eq_ok_iff {e : EnumType} :
    declare name values = .ok e ↔
      (∀ s, values = text s → s.length = 1) ∧ ofFields name values = .ok e ∨
        ∃ s, values = text s ∧ s.length ≠ 1 ∧ Reading.name name = .ok ⟨e.name, e.name_fits⟩ ∧
          e.values = firsts (characters s) := by
  by_cases h : ∀ s, values = text s → s.length = 1
  · rw [declare_eq_ofFields_of_forall h]
    constructor
    · exact fun he => Or.inl ⟨h, he⟩
    · rintro (⟨-, he⟩ | ⟨s, rfl, hs, -⟩)
      · exact he
      · exact absurd (h s rfl) hs
  · obtain ⟨s, rfl, hs⟩ : ∃ s, values = text s ∧ s.length ≠ 1 := by simpa using h
    rw [declare_text_eq_ok_iff]
    constructor
    · exact fun he => Or.inr ⟨s, rfl, hs, he⟩
    · rintro (⟨hall, -⟩ | ⟨s', hs', -, he⟩)
      · exact absurd (hall s rfl) hs
      · obtain rfl := Datum.text_inj.mp hs'
        exact he

/-- A declaration and a construction from the same two fields both fail or give the same
enumeration, unless the values are a text that is no single character: as a field this is one value,
and a declaration takes its different characters. They fail for the same reasons too, but for the
empty text. The enumerations of a document are declared, so a lone text is the one value of an
enumeration there only if it is a character. -/
theorem declaration_agrees_iff (name values : Datum) :
    ((declare name values).toOption = (ofFields name values).toOption ↔
        ∀ s, values = text s → s.length = 1 ∨ ∀ n, Reading.name name ≠ .ok n) ∧
      (declare name values = ofFields name values ↔
        ∀ s, values = text s → s.length = 1 ∨ s ≠ "" ∧ ∀ n, Reading.name name ≠ .ok n) ∧
      ∀ es types, Document.enums es = .ok types ↔
        List.Forall₂ (fun e t => t.1 = e.1 ∧
          ((∀ s, e.2 = text s → s.length = 1) ∧ ofFields e.1 e.2 = .ok t.2 ∨
            ∃ s, e.2 = text s ∧ s.length ≠ 1 ∧ Reading.name e.1 = .ok ⟨t.2.name, t.2.name_fits⟩ ∧
              t.2.values = firsts (characters s))) es types := by
  refine ⟨?_, ?_, fun es types => ?_⟩
  · refine Datum.iff_forall_text (fun h => by rw [declare_eq_ofFields h]) ?_
    rintro s rfl
    exact toOption_declare_text_eq_iff
  · refine Datum.iff_forall_text declare_eq_ofFields ?_
    rintro s rfl
    exact declare_text_eq_ofFields_iff
  · simp only [Document.enums_eq_ok_iff, declare_eq_ok_iff]

/-- The text is one value as a field, and its characters are the values in a declaration, also in a
document. -/
theorem level_declared_by_characters :
    (ofFields (text "level") (text "high")).toOption.map (·.values) = some ["high"] ∧
      (declare (text "level") (text "high")).toOption.map (·.values) = some ["h", "i", "g"] ∧
      (Document.enums [(text "level", text "high")]).toOption.map
        (fun types => types.map (·.2.values)) = some [["h", "i", "g"]] := by
  decide +kernel

end EnumType

end TableSchema
