/-
Files and directories, as far as the command line touches them.

A store is what a run finds and what it leaves: a list of places, each with the
directory or the file that is there. A place is the list of names that leads to
it from the root. Texts that name places are resolved one name at a time, as the
operating system does it, so that a path through something that is no directory
fails in the same way. There are no links, and writing is one step.
-/
import GridFilter.Text.Basic

set_option autoImplicit false

namespace GridFilter

/-- What can be wrong with a file. -/
inductive FileFault where
  | notFound
  | alreadyExists
  | notADirectory
  | isADirectory
  /-- The bytes of the file are no text. -/
  | notText
  /-- Any other fault, as the system tells it. -/
  | other (message : Text)
  deriving DecidableEq, Repr

/-- The system's text for a fault. -/
def FileFault.message : FileFault → Text
  | notFound => "No such file or directory (os error 2)".toList
  | alreadyExists => "File exists (os error 17)".toList
  | notADirectory => "Not a directory (os error 20)".toList
  | isADirectory => "Is a directory (os error 21)".toList
  | notText => "stream did not contain valid UTF-8".toList
  | other message => message

/-- What is at a place. -/
inductive FileEntry where
  | directory
  | file (bytes : ByteArray)

/-- A place: the names that lead to it from the root. -/
abbrev Place := List Text

/-- The files and directories there are. -/
structure FileStore where
  entries : List (Place × FileEntry)
  /-- Where relative paths begin. -/
  workingDirectory : Place

namespace FileStore

/-- What is at a place, if anything; the root is always there. -/
def get? (s : FileStore) (p : Place) : Option FileEntry :=
  if p.isEmpty then some .directory else s.entries.lookup p

/-- The store with something put at a place. -/
def put (s : FileStore) (p : Place) (e : FileEntry) : FileStore :=
  { s with entries := (p, e) :: s.entries.filter fun (q, _) => q != p }

/-- What was put at a place is there, and nothing else has changed. -/
theorem get?_put (s : FileStore) {p : Place} (hp : p ≠ []) (q : Place) (e : FileEntry) :
    (s.put p e).get? q = if q = p then some e else s.get? q := by
  have hlookup : ∀ es : List (Place × FileEntry), q ≠ p →
      (es.filter fun (r, _) => r != p).lookup q = es.lookup q := by
    intro es hq
    induction es with
    | nil => rfl
    | cons a es ih =>
      obtain ⟨r, f⟩ := a
      by_cases hr : r = p
      · subst hr
        simp [List.lookup_cons, ih, beq_eq_false_iff_ne.2 hq]
      · have hkeep : (r != p) = true := by simpa using hr
        simp [List.lookup_cons, ih, hkeep]
  by_cases hq : q = p
  · subst hq
    simp [get?, put, hp]
  · simp [get?, put, hq, List.lookup_cons, hlookup _ hq, beq_eq_false_iff_ne.2 hq]

/-! ## Paths -/

/-- Follows names from a place. Whatever is gone on from has to be a directory,
and so has whatever an empty name or a dot stands behind. -/
def follow (s : FileStore) (p : Place) : List Text → Except FileFault Place
  | [] => .ok p
  | name :: rest =>
    match s.get? p with
    | none => .error .notFound
    | some (.file _) => .error .notADirectory
    | some .directory =>
      if name = [] ∨ name = ['.'] then s.follow p rest
      else if name = ['.', '.'] then s.follow p.dropLast rest
      else s.follow (p ++ [name]) rest

/-- The place that a path names. There may be nothing there, but what leads to it
is. -/
def resolve (s : FileStore) (path : Text) : Except FileFault Place :=
  match path with
  | [] => .error .notFound
  | '/' :: rest => s.follow [] (Text.splitAll '/' rest)
  | path => s.follow s.workingDirectory (path.splitAll '/')

/-- What is where a path leads. -/
def find (s : FileStore) (path : Text) : Except FileFault FileEntry := do
  let p ← s.resolve path
  match s.get? p with
  | some e => return e
  | none => throw .notFound

/-- Whether a path leads to anything. -/
def hasPath (s : FileStore) (path : Text) : Bool := (s.find path).toOption.isSome

/-- Whether a path leads to a directory. -/
def isDirectory (s : FileStore) (path : Text) : Bool :=
  match s.find path with
  | .ok .directory => true
  | _ => false

/-- Drops what a path may end with without naming another place. The first name
stays even if it is a dot. -/
def trimNames (names : List Text) : List Text :=
  match names with
  | [] => []
  | first :: rest =>
    first :: (rest.reverse.dropWhile fun n => n.isEmpty || n == ['.']).reverse

/-- The path of the directory that holds what a path names. It is empty for a
single name, and the root is in no directory. -/
def parentPath? (path : Text) : Option Text :=
  match trimNames (path.splitAll '/') with
  | [[]] => none
  | names => some (match trimNames names.dropLast with
    | [[]] => ['/']
    | names => Text.join ['/'] names)

/-- A path with more names behind it. A slash parts the two, unless the path has one at its
end or is empty. -/
def joinPath (path names : Text) : Text :=
  match path.getLast? with
  | none | some '/' => path ++ names
  | some _ => path ++ '/' :: names

/-! ## Operations -/

/-- The bytes of a file as text. -/
def decode (bytes : ByteArray) : Except FileFault Text :=
  match String.fromUTF8? bytes with
  | some s => .ok s.toList
  | none => .error .notText

theorem decode_toUTF8 (t : Text) : decode (String.ofList t).toUTF8 = .ok t := by
  have h : String.fromUTF8? (String.ofList t).toUTF8 = some (String.ofList t) := by
    have hv := (String.ofList t).isValidUTF8
    unfold String.fromUTF8?
    split
    · rfl
    · contradiction
  rw [decode, h]
  simp

/-- Reads the text of a file. -/
def readText (s : FileStore) (path : Text) : Except FileFault Text := do
  match ← s.find path with
  | .directory => throw .isADirectory
  | .file bytes => decode bytes

/-- From a path that leads to nothing no text is read. -/
theorem readText_eq_error {s : FileStore} {path : Text} (gone : s.hasPath path = false) :
    ∃ e, s.readText path = .error e := by
  rw [hasPath] at gone
  rw [readText]
  cases place : s.find path with
  | error e => exact ⟨e, rfl⟩
  | ok entry =>
    rw [place] at gone
    cases gone

/-- Makes one directory, in a directory that is there. -/
def makeDirectory (s : FileStore) (path : Text) : Except FileFault FileStore := do
  let p ← s.resolve path
  match s.get? p with
  | some _ => throw .alreadyExists
  | none => return s.put p .directory

/-- Makes a directory and all that lead to it, as far as they are missing, and
tells what went wrong, if anything did. A single missing directory is tried first,
so that a fault is told of the path as it was asked for. What was made before a
fault stays. -/
def makeDirectories (s : FileStore) : Nat → Text → FileStore × Option FileFault
  | 0, _ => (s, some .notFound)
  | fuel + 1, path =>
    -- A directory that is there already is as good as one that was made.
    let settle (s : FileStore) (e : FileFault) := (s, if s.isDirectory path then none else some e)
    if path.isEmpty then (s, none)
    else match s.makeDirectory path with
      | .ok s => (s, none)
      | .error .notFound =>
        match parentPath? path with
        | none => (s, some .notFound)
        | some parent =>
          match s.makeDirectories fuel parent with
          | (s, some e) => (s, some e)
          | (s, none) =>
            match s.makeDirectory path with
            | .ok s => (s, none)
            -- A path may end in two dots, and then making its parent has made it as well.
            | .error e => settle s e
      | .error e => settle s e

/-- Writes a file, in a directory that is there. A path that ends with a slash
names no file, whether or not there is anything to its left. -/
def writeText (s : FileStore) (path contents : Text) : Except FileFault FileStore := do
  let named := (path.reverse.dropWhile (· == '/')).reverse
  let p ← s.resolve named
  if path.getLast? == some '/' then throw .isADirectory
  match s.get? p with
  | some .directory => throw .isADirectory
  | _ => return s.put p (.file (String.ofList contents).toUTF8)

end FileStore

end GridFilter
