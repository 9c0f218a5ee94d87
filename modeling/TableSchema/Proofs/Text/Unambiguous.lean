import Mathlib.Data.List.Basic

/-!
# Texts that can be told apart

A way of writing is unambiguous if a written value and what follows it can be recovered from the
whole text. Most ways are so only before certain continuations: digits before what is no digit, a
list before what is no further element. The continuations are therefore a part of the notion, and
texts are taken apart from the left, one part after the other.
-/

namespace TableSchema.Text

variable {α β : Type}

/-- Among the values that are allowed, a text of a value and a continuation that `ends` it
determines the view of the value and the continuation. -/
def Unambiguous (allowed : α → Prop) (write : α → List Char) (view : α → β)
    (ends : List Char → Prop) : Prop :=
  ∀ ⦃a b x y⦄, allowed a → allowed b → ends x → ends y →
    write a ++ x = write b ++ y → view a = view b ∧ x = y

variable {allowed : α → Prop} {write : α → List Char} {view : α → β}
  {ends stop : List Char → Prop}

/-- A text in front is taken off. -/
theorem dropPrefix?_append (front rest : List Char) : (front ++ rest).dropPrefix? front = some rest :=
  List.dropPrefix?_append_of_beq rest (beq_self_eq_true front)

/-- A run of characters ends before a character that cannot belong to it. -/
theorem takeWhile_run_append {p : Char → Bool} {run x : List Char} (hrun : ∀ c ∈ run, p c = true)
    (hx : ∀ c ∈ x.head?, p c = false) :
    (run ++ x).takeWhile p = run ∧ (run ++ x).dropWhile p = x := by
  rw [List.takeWhile_append_of_pos hrun, List.dropWhile_append_of_pos hrun]
  cases x with
  | nil => simp
  | cons c x => simp [hx c rfl]

/-- Runs of characters are told apart before a character that cannot belong to them. -/
theorem unambiguous_of_run (p : Char → Bool) (hrun : ∀ a, allowed a → ∀ c ∈ write a, p c = true)
    (hinj : ∀ a b, allowed a → allowed b → write a = write b → view a = view b) :
    Unambiguous allowed write view fun x => ∀ c ∈ x.head?, p c = false := by
  have hspan (a : α) (ha : allowed a) (x : List Char) (hx : ∀ c ∈ x.head?, p c = false) :
      (write a ++ x).takeWhile p = write a :=
    (takeWhile_run_append (hrun a ha) hx).1
  intro a b x y ha hb hx hy h
  have hwrite : write a = write b := by
    rw [← hspan a ha x hx, ← hspan b hb y hy, h]
  exact ⟨hinj a b ha hb hwrite, List.append_cancel_left (hwrite ▸ h)⟩

/-- Words of which none begins another are told apart before everything. -/
theorem unambiguous_of_prefix (h : ∀ a b, allowed a → allowed b → write a <+: write b → a = b) :
    Unambiguous allowed write id fun _ => True := by
  intro a b x y ha hb _ _ heq
  have hab : a = b := by
    have hx : write a <+: write b ++ y := heq ▸ List.prefix_append (write a) x
    rcases List.prefix_or_prefix_of_prefix hx (List.prefix_append (write b) y) with hp | hp
    · exact h a b ha hb hp
    · exact (h b a hb ha hp).symm
  subst hab
  exact ⟨rfl, List.append_cancel_left heq⟩

theorem Unambiguous.mono {γ : Type} {allowed' : α → Prop} {view' : α → γ}
    {ends' : List Char → Prop} (h : Unambiguous allowed write view ends)
    (hallowed : ∀ a, allowed' a → allowed a) (hends : ∀ x, ends' x → ends x)
    (hview : ∀ a b, allowed' a → allowed' b → view a = view b → view' a = view' b) :
    Unambiguous allowed' write view' ends' := by
  intro a b x y ha hb hx hy heq
  obtain ⟨hab, hxy⟩ := h (hallowed a ha) (hallowed b hb) (hends x hx) (hends y hy) heq
  exact ⟨hview a b ha hb hab, hxy⟩

/-- A part of a value is told apart as the values of its type are. -/
theorem Unambiguous.comap {γ : Type} (h : Unambiguous allowed write view ends) (part : γ → α) :
    Unambiguous (fun c => allowed (part c)) (fun c => write (part c)) (fun c => view (part c))
      ends :=
  fun _ _ _ _ ha hb hx hy heq => h ha hb hx hy heq

/-- A fixed text in front changes nothing. -/
theorem Unambiguous.after (h : Unambiguous allowed write view ends) (front : List Char) :
    Unambiguous allowed (fun a => front ++ write a) view ends := by
  intro a b x y ha hb hx hy heq
  rw [List.append_assoc, List.append_assoc] at heq
  exact h ha hb hx hy (List.append_cancel_left heq)

/-- A fixed text behind is a part of what may follow. -/
theorem Unambiguous.before (h : Unambiguous allowed write view ends) (back : List Char) :
    Unambiguous allowed (fun a => write a ++ back) view fun x => ends (back ++ x) := by
  intro a b x y ha hb hx hy heq
  rw [List.append_assoc, List.append_assoc] at heq
  obtain ⟨hab, hxy⟩ := h ha hb hx hy heq
  exact ⟨hab, List.append_cancel_left hxy⟩

/-- Two parts are told apart if the second may follow the first. -/
theorem Unambiguous.append {γ : Type} {allowed' : α → Prop} {write' : α → List Char}
    {view' : α → γ} {ends' : List Char → Prop} (h : Unambiguous allowed write view ends)
    (h' : Unambiguous allowed' write' view' ends')
    (hnext : ∀ a x, allowed' a → ends' x → ends (write' a ++ x)) :
    Unambiguous (fun a => allowed a ∧ allowed' a) (fun a => write a ++ write' a)
      (fun a => (view a, view' a)) ends' := by
  rintro a b x y ⟨ha, ha'⟩ ⟨hb, hb'⟩ hx hy heq
  dsimp only at heq
  rw [List.append_assoc, List.append_assoc] at heq
  obtain ⟨hfirst, hrest⟩ := h ha hb (hnext a x ha' hx) (hnext b y hb' hy) heq
  obtain ⟨hsecond, hxy⟩ := h' ha' hb' hx hy hrest
  exact ⟨Prod.ext hfirst hsecond, hxy⟩

/-- Elements one after the other are told apart before what is no further element. -/
theorem Unambiguous.flatMap (h : Unambiguous allowed write view ends)
    (hnext : ∀ a z, allowed a → ends (write a ++ z)) (hstop : ∀ x, stop x → ends x)
    (hlast : ∀ a x z, allowed a → stop x → x ≠ write a ++ z) :
    Unambiguous (∀ a ∈ ·, allowed a) (List.flatMap write) (List.map view) stop := by
  have hends (as : List α) (has : ∀ a ∈ as, allowed a) (x : List Char) (hx : stop x) :
      ends (as.flatMap write ++ x) := by
    cases as with
    | nil => exact hstop x hx
    | cons a as =>
        rw [List.flatMap_cons, List.append_assoc]
        exact hnext a _ (has a List.mem_cons_self)
  intro as
  induction as with
  | nil =>
      intro bs x y _ hbs hx _ heq
      cases bs with
      | nil => exact ⟨rfl, heq⟩
      | cons b bs =>
          rw [List.flatMap_nil, List.nil_append, List.flatMap_cons, List.append_assoc] at heq
          exact absurd heq (hlast b x _ (hbs b List.mem_cons_self) hx)
  | cons a as ih =>
      intro bs x y has hbs hx hy heq
      obtain ⟨ha, has⟩ := List.forall_mem_cons.mp has
      rw [List.flatMap_cons, List.append_assoc] at heq
      cases bs with
      | nil =>
          rw [List.flatMap_nil, List.nil_append] at heq
          exact absurd heq.symm (hlast a y _ ha hy)
      | cons b bs =>
          obtain ⟨hb, hbs⟩ := List.forall_mem_cons.mp hbs
          rw [List.flatMap_cons, List.append_assoc] at heq
          obtain ⟨hab, hrest⟩ := h ha hb (hends as has x hx) (hends bs hbs y hy) heq
          obtain ⟨htail, hxy⟩ := ih has hbs hx hy hrest
          exact ⟨by rw [List.map_cons, List.map_cons, hab, htail], hxy⟩

theorem intercalate_cons_eq (separator part : List Char) (parts : List (List Char)) :
    separator.intercalate (part :: parts) = part ++ parts.flatMap (separator ++ ·) := by
  induction parts generalizing part with
  | nil => simp
  | cons p ps ih =>
      rw [List.intercalate_cons_cons, ih, List.flatMap_cons, List.append_assoc, List.append_assoc]

/-- Elements with a separator between neighbours are told apart before what is neither an element
nor a separator with an element. -/
theorem Unambiguous.intercalate (h : Unambiguous allowed write view ends) (separator : List Char)
    (hseparator : ∀ z, ends (separator ++ z)) (hstop : ∀ x, stop x → ends x)
    (hfirst : ∀ a x z, allowed a → stop x → x ≠ write a ++ z)
    (hlast : ∀ a x z, allowed a → stop x → x ≠ separator ++ (write a ++ z)) :
    Unambiguous (∀ a ∈ ·, allowed a) (fun as => separator.intercalate (as.map write))
      (List.map view) stop := by
  have htail := (h.after separator).flatMap
    (fun a z _ => List.append_assoc separator (write a) z ▸ hseparator _) hstop
    (fun a x z ha hx => List.append_assoc separator (write a) z ▸ hlast a x z ha hx)
  have hends (as : List α) (x : List Char) (hx : stop x) :
      ends (as.flatMap (fun a => separator ++ write a) ++ x) := by
    cases as with
    | nil => exact hstop x hx
    | cons a as =>
        rw [List.flatMap_cons, List.append_assoc, List.append_assoc]
        exact hseparator _
  have hcons (a : α) (as : List α) (x : List Char) :
      separator.intercalate ((a :: as).map write) ++ x =
        write a ++ (as.flatMap (fun a => separator ++ write a) ++ x) := by
    rw [List.map_cons, intercalate_cons_eq, List.flatMap_map, List.append_assoc]
  intro as bs x y has hbs hx hy heq
  dsimp only at heq
  cases as with
  | nil =>
      cases bs with
      | nil => exact ⟨rfl, heq⟩
      | cons b bs =>
          rw [hcons, List.map_nil, List.intercalate_nil, List.nil_append] at heq
          exact absurd heq (hfirst b x _ (hbs b List.mem_cons_self) hx)
  | cons a as =>
      obtain ⟨ha, has⟩ := List.forall_mem_cons.mp has
      rw [hcons] at heq
      cases bs with
      | nil =>
          rw [List.map_nil, List.intercalate_nil, List.nil_append] at heq
          exact absurd heq.symm (hfirst a y _ ha hy)
      | cons b bs =>
          obtain ⟨hb, hbs⟩ := List.forall_mem_cons.mp hbs
          rw [hcons] at heq
          obtain ⟨hab, hrest⟩ := h ha hb (hends as x hx) (hends bs y hy) heq
          obtain ⟨htails, hxy⟩ := htail has hbs hx hy hrest
          exact ⟨by rw [List.map_cons, List.map_cons, hab, htails], hxy⟩

end TableSchema.Text
