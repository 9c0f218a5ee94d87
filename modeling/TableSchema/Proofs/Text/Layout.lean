import TableSchema.Proofs.Text.Unambiguous
import TableSchema.Text.Naming

/-!
# Parts between line breaks

Parts that are laid out with line breaks between them can be read off again, however many breaks
there are, if each part is told apart before everything and none begins with a line break.
-/

namespace TableSchema.Text

/-- The text holds the parts in their order, with line breaks before, between and after them. -/
inductive LaidOut : List (List Char) → List Char → Prop
  | nil (n : Nat) : LaidOut [] (List.replicate n '\n')
  | cons (n : Nat) {part : List Char} {parts : List (List Char)} {x : List Char} :
      LaidOut parts x → LaidOut (part :: parts) (List.replicate n '\n' ++ (part ++ x))

namespace LaidOut

variable {parts parts' : List (List Char)} {x y : List Char}

theorem breaks (h : LaidOut parts x) (n : Nat) :
    LaidOut parts (List.replicate n '\n' ++ x) := by
  cases h with
  | nil m =>
      rw [List.replicate_append_replicate]
      exact nil (n + m)
  | cons m h =>
      rw [← List.append_assoc, List.replicate_append_replicate]
      exact cons (n + m) h

theorem append (h : LaidOut parts x) (h' : LaidOut parts' y) :
    LaidOut (parts ++ parts') (x ++ y) := by
  induction h with
  | nil n => exact h'.breaks n
  | cons n _ ih =>
      rw [List.append_assoc, List.append_assoc]
      exact cons n ih

theorem singleton (part : List Char) : LaidOut [part] part := by
  have h : LaidOut [part] (List.replicate 0 '\n' ++ (part ++ List.replicate 0 '\n')) :=
    cons 0 (nil 0)
  simpa using h

theorem flatMap_breaks (n : Nat) (parts : List (List Char)) :
    LaidOut parts (parts.flatMap (List.replicate n '\n' ++ ·)) := by
  induction parts with
  | nil => exact nil 0
  | cons part parts ih =>
      rw [List.flatMap_cons, List.append_assoc]
      exact cons n ih

theorem intercalate (n : Nat) (parts : List (List Char)) :
    LaidOut parts ((List.replicate n '\n').intercalate parts) := by
  cases parts with
  | nil => exact nil 0
  | cons part parts =>
      rw [intercalate_cons_eq]
      exact (singleton part).append (flatMap_breaks n parts)

/-- Blocks that are laid out are laid out together; an empty block has no parts, or only parts
without characters, and is left out. -/
theorem intercalate_filter (n : Nat) {blocks : List (List (List Char))} {texts : List (List Char)}
    (h : List.Forall₂ LaidOut blocks texts) :
    LaidOut blocks.flatten
      ((List.replicate n '\n').intercalate (texts.filter fun t => !t.isEmpty)) := by
  have htail {blocks : List (List (List Char))} {texts : List (List Char)}
      (h : List.Forall₂ LaidOut blocks texts) :
      LaidOut blocks.flatten
        ((texts.filter fun t => !t.isEmpty).flatMap (List.replicate n '\n' ++ ·)) := by
    induction h with
    | nil => exact nil 0
    | @cons block text blocks texts hblock _ ih =>
        cases text with
        | nil => exact hblock.append ih
        | cons c cs =>
            rw [List.filter_cons_of_pos rfl, List.flatMap_cons]
            exact (hblock.breaks n).append ih
  induction h with
  | nil => exact nil 0
  | @cons block text blocks texts hblock hrest ih =>
      cases text with
      | nil => exact hblock.append ih
      | cons c cs =>
          rw [List.filter_cons_of_pos rfl, intercalate_cons_eq]
          exact hblock.append (htail hrest)

end LaidOut

theorem toList_joinBlocks (blocks : List String) (separator : String) :
    (joinBlocks blocks separator).toList =
      separator.toList.intercalate ((blocks.map String.toList).filter fun t => !t.isEmpty) := by
  rw [joinBlocks, String.toList_intercalate, List.filter_map]
  congr 2
  refine List.filter_congr fun b _ => ?_
  rw [Bool.eq_iff_iff]
  simp [← String.toList_eq_nil_iff]

section Unique

/-- The text begins with a character that is no line break. -/
def BeginsPart (x : List Char) : Prop :=
  ∃ c cs, x = c :: cs ∧ c ≠ '\n'

theorem BeginsPart.append {x : List Char} (h : BeginsPart x) (y : List Char) :
    BeginsPart (x ++ y) := by
  obtain ⟨c, cs, rfl, hc⟩ := h
  exact ⟨c, cs ++ y, rfl, hc⟩

theorem replicate_ne_of_beginsPart {x : List Char} (h : BeginsPart x) (m n : Nat) :
    List.replicate m '\n' ≠ List.replicate n '\n' ++ x := by
  obtain ⟨c, cs, rfl, hc⟩ := h
  intro heq
  have hmem : c ∈ List.replicate m '\n' := by simp [heq]
  exact hc (List.eq_of_mem_replicate hmem)

theorem unambiguous_breaks :
    Unambiguous (fun _ : Nat => True) (List.replicate · '\n') id BeginsPart := by
  have hrun : Unambiguous (fun _ : Nat => True) (List.replicate · '\n') id
      fun x => ∀ c ∈ x.head?, (c == '\n') = false := by
    refine unambiguous_of_run (· == '\n') ?_ ?_
    · intro n _ c hc
      exact beq_iff_eq.mpr (List.eq_of_mem_replicate hc)
    · intro m n _ _ h
      simpa using congrArg List.length h
  refine hrun.mono (fun _ h => h) ?_ fun _ _ _ _ h => h
  rintro _ ⟨c, cs, rfl, hc⟩
  simpa using hc

variable {α β : Type} {allowed : α → Prop} {write : α → List Char} {view : α → β}

/-- One text does not hold two lists of parts that look different. -/
theorem LaidOut.map_view_eq (h : Unambiguous allowed write view fun _ => True)
    (hbegins : ∀ a, allowed a → BeginsPart (write a)) {as bs : List α}
    (has : ∀ a ∈ as, allowed a) (hbs : ∀ b ∈ bs, allowed b) {x : List Char}
    (hx : LaidOut (as.map write) x) (hx' : LaidOut (bs.map write) x) :
    as.map view = bs.map view := by
  induction as generalizing bs x with
  | nil =>
      obtain ⟨m⟩ := hx
      cases bs with
      | nil => rfl
      | cons b bs =>
          generalize hz : List.replicate m '\n' = z at hx'
          obtain _ | ⟨n, _⟩ := hx'
          exact absurd hz (replicate_ne_of_beginsPart
            ((hbegins b (hbs b List.mem_cons_self)).append _) m n)
  | cons a as ih =>
      obtain ⟨ha, has⟩ := List.forall_mem_cons.mp has
      obtain _ | ⟨m, hrest⟩ := hx
      cases bs with
      | nil =>
          generalize hz : List.replicate m '\n' ++ (write a ++ _) = z at hx'
          obtain ⟨n⟩ := hx'
          exact absurd hz.symm (replicate_ne_of_beginsPart ((hbegins a ha).append _) n m)
      | cons b bs =>
          obtain ⟨hb, hbs⟩ := List.forall_mem_cons.mp hbs
          generalize hz : List.replicate m '\n' ++ (write a ++ _) = z at hx'
          obtain _ | ⟨n, hrest'⟩ := hx'
          obtain ⟨-, hz⟩ := unambiguous_breaks trivial trivial ((hbegins a ha).append _)
            ((hbegins b hb).append _) hz
          obtain ⟨hab, rfl⟩ := h ha hb trivial trivial hz
          rw [List.map_cons, List.map_cons, hab, ih has hbs hrest hrest']

end Unique

end TableSchema.Text
