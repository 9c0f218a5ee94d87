import TableSchema.Grouping
import TableSchema.Path
import TableSchema.Text.Quoted

/-!
# Files

The files below, beside and above a working directory.  Directories exist where files are in them;
the working directory and those above it always exist.
-/

namespace TableSchema

/-- Why a file cannot be opened. -/
inductive AccessFault where
  | notFound
  | notDirectory
  | isDirectory
  | nameTooLong
deriving DecidableEq, Repr

namespace AccessFault

/-- The number of the fault. -/
def number : AccessFault → Nat
  | .notFound => 2
  | .notDirectory => 20
  | .isDirectory => 21
  | .nameTooLong => 36

/-- The description of the fault. -/
def description : AccessFault → String
  | .notFound => "No such file or directory"
  | .notDirectory => "Not a directory"
  | .isDirectory => "Is a directory"
  | .nameTooLong => "File name too long"

/-- The message about a path that cannot be opened. -/
def message (path : String) (f : AccessFault) : String :=
  "[Errno " ++ toString f.number ++ "] " ++ f.description ++ ": " ++ Text.quoted path

end AccessFault

/-- Where the names of a location begin. -/
inductive Base where
  | root
  /-- So many directories above the working directory. -/
  | above (steps : Nat)
deriving DecidableEq, Repr

/-- A place in the tree of directories. -/
structure Location where
  base : Base
  names : List String
deriving DecidableEq, Repr

namespace Location

/-- The working directory. -/
def working : Location := ⟨.above 0, []⟩

/-- The directory that holds a location. -/
def parent : Location → Location
  | ⟨.root, []⟩ => ⟨.root, []⟩
  | ⟨.above n, []⟩ => ⟨.above (n + 1), []⟩
  | ⟨b, names⟩ => ⟨b, names.dropLast⟩

/-- The location that a part of a path leads to. -/
def step (l : Location) (part : String) : Location :=
  if part = ".." then l.parent else ⟨l.base, l.names ++ [part]⟩

/-- The location lies somewhere below a directory. -/
def isBelow (l directory : Location) : Bool :=
  l.base == directory.base && directory.names.length < l.names.length &&
    l.names.take directory.names.length == directory.names

end Location

/-- Files with their texts. -/
abbrev Files := List (Location × String)

namespace Files

/-- What is found at a location. -/
inductive Item where
  | file (text : String)
  | directory
  | absent
deriving DecidableEq, Repr

/-- What is at a location. -/
def item (fs : Files) (l : Location) : Item :=
  match lookupFirst l fs with
  | some text => .file text
  | none => if l.names.isEmpty || fs.any fun e => e.1.isBelow l then .directory else .absent

/-- The greatest length of a name in bytes. -/
def maxName : Nat := 255

/-- The greatest length of a path in bytes. -/
def maxPath : Nat := 4095

/-- The location that the parts of a path lead to, through directories only. -/
def walk (fs : Files) (l : Location) : List String → Except AccessFault Location
  | [] => .ok l
  | part :: parts =>
    match fs.item l with
    | .directory =>
      if maxName < part.utf8ByteSize then .error .nameTooLong else walk fs (l.step part) parts
    | .file _ => .error .notDirectory
    | .absent => .error .notFound

/-- The location of a path. -/
def locate (fs : Files) (p : Path) : Except AccessFault Location :=
  if maxPath < p.text.utf8ByteSize then .error .nameTooLong
  else fs.walk (if p.isAbsolute then ⟨.root, []⟩ else .working) p.parts

/-- The text of the file at a path. -/
def read (fs : Files) (p : Path) : Except AccessFault String := do
  match fs.item (← fs.locate p) with
  | .file text => return text
  | .directory => throw .isDirectory
  | .absent => throw .notFound

/-- The files with a text written to a path. -/
def write (fs : Files) (p : Path) (text : String) : Except AccessFault Files := do
  let l ← fs.locate p
  match fs.item l with
  | .directory => throw .isDirectory
  | _ => return upsert l text fs

/-- Files in the working directory and below it by their paths. -/
def ofList (files : List (String × String)) : Files :=
  files.foldl (fun fs f => upsert ((Path.ofText f.1).parts.foldl Location.step .working) f.2 fs) []

/-- A file that was written is at its location. -/
@[simp] theorem item_upsert_self (fs : Files) (l : Location) (text : String) :
    item (upsert l text fs) l = .file text := by
  simp [item]

/-- Writing a file leaves other directories where they are. -/
theorem item_upsert_of_directory {fs : Files} {d l : Location} (h : d ≠ l)
    (hd : fs.item d = .directory) (text : String) : item (upsert l text fs) d = .directory := by
  unfold item at hd ⊢
  rw [lookupFirst_upsert_of_ne h]
  split at hd
  · simp at hd
  · split at hd
    · rename_i hs
      rcases (Bool.or_eq_true _ _).mp hs with he | ha
      · simp [he]
      · have := any_upsert (fun x => x.isBelow d) ha l text
        simp [this]
    · simp at hd

/-- Writing a file does not change the way to it. -/
theorem walk_upsert {fs : Files} {l : Location} (hl : fs.item l ≠ .directory) (text : String)
    {a : Location} {parts : List String} (h : fs.walk a parts = .ok l) :
    walk (upsert l text fs) a parts = .ok l := by
  induction parts generalizing a with
  | nil => simpa [walk] using h
  | cons part parts ih =>
    cases ha : fs.item a with
    | directory =>
      have hne : a ≠ l := fun e => hl (e ▸ ha)
      rw [walk, ha] at h
      rw [walk, item_upsert_of_directory hne ha]
      by_cases hn : maxName < part.utf8ByteSize
      · simp [hn] at h
      · simp only [hn, if_false] at h ⊢
        exact ih h
    | file t => simp [walk, ha] at h
    | absent => simp [walk, ha] at h

/-- A text that was written to a path is read back from it. -/
theorem read_of_write {fs fs' : Files} {p : Path} {text : String}
    (h : fs.write p text = .ok fs') : fs'.read p = .ok text := by
  unfold write at h
  cases hp : fs.locate p with
  | error f => simp [hp, bind, Except.bind] at h
  | ok l =>
    have hl : fs.item l ≠ .directory := by
      intro hd
      simp [hp, hd, bind, Except.bind, throw, throwThe, MonadExceptOf.throw] at h
    have hw : fs' = upsert l text fs := by
      cases hi : fs.item l with
      | directory => exact absurd hi hl
      | file t => simpa [hp, hi, bind, Except.bind, pure, Except.pure, eq_comm] using h
      | absent => simpa [hp, hi, bind, Except.bind, pure, Except.pure, eq_comm] using h
    have hlocate : locate (upsert l text fs) p = .ok l := by
      unfold locate at hp ⊢
      split at hp
      · simp at hp
      · rename_i hlen
        rw [if_neg hlen]
        exact walk_upsert hl text hp
    subst hw
    simp [read, hlocate, bind, Except.bind, pure, Except.pure]

end Files

end TableSchema
