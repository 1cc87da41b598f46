import ReactLint.Fault
import ReactLint.Text.Split

/-!
# Files and folders

A path is a root, which relative paths lack, and names. Empty names and single dots do not count;
two dots do, since the folder above may not be the one that the names in front suggest. A path of
no names is shown as a dot.

A disk holds files and folders at locations, which are lists of names from the root down. A place is
a disk together with the working folder, from which relative paths start, and the way in which
messages call that folder. The system bounds the length of a name and of a whole path.
-/

namespace ReactLint

/-! ## Paths -/

structure Path where
  /-- The slashes at the front: none, one, or exactly two. -/
  root : String := ""
  names : List String := []
  deriving DecidableEq, Repr

namespace Path

def isName (part : List Char) : Bool := !part.isEmpty && part != ['.']

def ofString (s : String) : Path :=
  let cs := s.toList
  let slashes := (cs.takeWhile (· == '/')).length
  { root := if slashes = 0 then "" else if slashes = 2 then "//" else "/"
    names := ((Text.parts '/' cs).filter isName).map String.ofList }

def isRelative (p : Path) : Bool := p.root == ""

def text (p : Path) : String :=
  if p.isRelative && p.names.isEmpty then "." else p.root ++ "/".intercalate p.names

def child (p : Path) (name : String) : Path := { p with names := p.names ++ [name] }

/-- The end of a name from its last point on. A point at either end of the name counts for
nothing. -/
def suffix (name : String) : String :=
  let ending := name.toList.reverse.takeWhile (· != '.')
  if ending.isEmpty || name.length ≤ ending.length + 1 then ""
  else String.ofList ('.' :: ending.reverse)

end Path

/-! ## Disks -/

inductive Entry where
  | file (bytes : ByteArray)
  | folder

abbrev Location := List String

structure Disk where
  entries : List (Location × Entry) := []

namespace Disk

/-- What stands at a location. The root is a folder. -/
def find? (d : Disk) (loc : Location) : Option Entry :=
  if loc.isEmpty then some .folder else d.entries.lookup loc

def isFolder (d : Disk) (loc : Location) : Bool := d.find? loc matches some .folder

def putEntry (loc : Location) (e : Entry) : List (Location × Entry) → List (Location × Entry)
  | [] => [(loc, e)]
  | (l, e') :: rest => if l = loc then (l, e) :: rest else (l, e') :: putEntry loc e rest

def put (d : Disk) (loc : Location) (e : Entry) : Disk := { entries := putEntry loc e d.entries }

def ensureFolder (d : Disk) (loc : Location) : Disk :=
  if (d.find? loc).isSome then d else d.put loc .folder

def create (d : Disk) (loc : Location) (e : Entry) : Disk :=
  let above := (List.range loc.length).map fun n => loc.take n
  (above.foldl ensureFolder d).put loc e

/-- One step from a folder: up by two dots, else down. -/
def step (loc : Location) (name : String) : Location :=
  if name = ".." then loc.dropLast else loc ++ [name]

def nameLimit : Nat := 255

/-- Goes from a folder, name by name; every step but the first starts from a folder too. -/
def locate (d : Disk) : Location → List String → Except Fault Location
  | loc, [] => .ok loc
  | loc, name :: names =>
    match d.find? loc with
    | some .folder =>
      if nameLimit < name.utf8ByteSize then .error .nameTooLong else d.locate (step loc name) names
    | some (.file _) => .error .notFolder
    | none => .error .noSuchFile

def nameIn? (folder : Location) (e : Location × Entry) : Option String :=
  if e.1.dropLast = folder then e.1.getLast? else none

def names (d : Disk) (folder : Location) : List String :=
  (d.entries.filterMap (nameIn? folder)).mergeSort fun a b => decide (a ≤ b)

theorem lookup_putEntry_self (loc : Location) (e : Entry) (es : List (Location × Entry)) :
    (putEntry loc e es).lookup loc = some e := by
  induction es with
  | nil => simp [putEntry]
  | cons x rest ih =>
    obtain ⟨l, e'⟩ := x
    by_cases h : l = loc
    · simp [putEntry, h]
    · simp [putEntry, h, ih, List.lookup_cons, beq_false_of_ne (Ne.symm h)]

theorem lookup_putEntry_of_ne {loc other : Location} (h : other ≠ loc) (e : Entry)
    (es : List (Location × Entry)) : (putEntry loc e es).lookup other = es.lookup other := by
  induction es with
  | nil => simp [putEntry, List.lookup_cons, beq_false_of_ne h]
  | cons x rest ih =>
    obtain ⟨l, e'⟩ := x
    by_cases hl : l = loc
    · simp [putEntry, hl, List.lookup_cons, beq_false_of_ne h]
    · simp [putEntry, hl, List.lookup_cons, ih]

theorem find?_put_self (d : Disk) {loc : Location} (h : loc ≠ []) (e : Entry) :
    (d.put loc e).find? loc = some e := by
  simp [find?, put, List.isEmpty_iff, h, lookup_putEntry_self]

theorem find?_put_of_ne (d : Disk) {loc other : Location} (h : other ≠ loc) (e : Entry) :
    (d.put loc e).find? other = d.find? other := by
  simp [find?, put, lookup_putEntry_of_ne h]

end Disk

structure Place where
  disk : Disk := {}
  /-- The location of the working folder. -/
  home : Location := []
  /-- How messages call the working folder. -/
  label : String := "/"

namespace Place

-- irreducible, lest the size of a path is computed wherever a path is looked up
/-- How many bytes a path has too many. -/
@[irreducible]
def pathLimit : Nat := 4096

/-- The location that a path leads to, at which nothing need stand. -/
def locate (w : Place) (p : Path) : Except Fault Location :=
  if pathLimit ≤ p.text.utf8ByteSize then .error .nameTooLong
  else w.disk.locate (if p.isRelative then w.home else []) p.names

/-- As `locate`, for a path that need not lead anywhere. Only one that is too long is a fault. -/
def seek (w : Place) (p : Path) : Except Fault (Option Location) :=
  match w.locate p with
  | .ok loc => .ok (some loc)
  | .error .nameTooLong => .error .nameTooLong
  | .error _ => .ok none

def entry? (w : Place) (p : Path) : Except Fault (Option Entry) :=
  (w.seek p).map fun found => found.bind w.disk.find?

def isFile (w : Place) (p : Path) : Except Fault Bool :=
  (w.entry? p).map fun
    | some (.file _) => true
    | _ => false

def shown (w : Place) (p : Path) : String :=
  if !p.isRelative then p.text
  else if p.names.isEmpty then w.label
  else w.label ++ "/" ++ p.text

def readBytes (w : Place) (p : Path) : Except Fault ByteArray := do
  match w.disk.find? (← w.locate p) with
  | some (.file bytes) => pure bytes
  | some .folder => throw .isFolder
  | none => throw .noSuchFile

def textOf (bytes : ByteArray) : Except Fault String :=
  match String.fromUTF8? bytes with
  | some s => .ok s
  | none => .error .notUtf8

theorem textOf_toUTF8 (s : String) : textOf s.toUTF8 = .ok s := by
  have hread : String.fromUTF8? s.toUTF8 = some s := dif_pos s.isValidUTF8
  rw [textOf, hread]

/-- The text of a file, with its line ends unified. -/
def readText (w : Place) (p : Path) : Except Fault String := do
  pure (Text.unifyLineEnds (← textOf (← w.readBytes p)))

def writeText (w : Place) (p : Path) (s : String) : Except Fault Place := do
  let loc ← w.locate p
  match w.disk.find? loc with
  | some .folder => throw .isFolder
  | _ => pure { w with disk := w.disk.put loc (.file s.toUTF8) }

/-- The names in a folder, in ascending order. What is no folder has none. -/
def namesIn (w : Place) (p : Path) : Except Fault (List String) :=
  (w.seek p).map fun
    | some loc => if w.disk.isFolder loc then w.disk.names loc else []
    | none => []

end Place

end ReactLint
