import Dialogue.Path
import Dialogue.Table
import Dialogue.Text.Quoted

/-!
# Files

Files and folders are kept by the place where they are. A path is followed from folder to folder,
so that it leads nowhere unless each folder on its way is there, even one that it leaves again.

* `Files`, `Files.at?`: what is found at some places;
* `Files.follow`: what a path leads to, or why it leads nowhere;
* `Files.content?`, `Files.write`: a file is read, and written;
* `Files.makeFolder`, `Files.makeRoomFor`: a folder is made, and the folders around a file;
* `Files.ofContents`: files with the folders that hold them.

`Files.at?_write` and `Files.content?_write` say what is found after a file has been written.
-/

namespace Dialogue

open Text

/-- What is found at a place. -/
inductive Entry where
  | file (content : Text)
  | folder
  deriving DecidableEq, Repr

/-- What is found at some places. -/
abbrev Files := Table Entry

/-- Why a path leads nowhere. -/
inductive Obstacle where
  /-- A folder on the way is missing. -/
  | folderMissing
  /-- A file is found where a folder has to be. -/
  | throughFile
  /-- The path or a name in it is too long. -/
  | tooLong
  /-- The path has a null character. -/
  | null
  deriving DecidableEq, Repr

/-- Why a file cannot be had, or a folder. -/
inductive FileError where
  /-- A folder is found instead. -/
  | isFolder (path : Text)
  /-- A file is found instead of a folder. -/
  | isFile (path : Text)
  /-- The path leads nowhere. -/
  | blocked (o : Obstacle) (path : Text)
  deriving DecidableEq, Repr

namespace FileError

/-- The kind of error. -/
def kind : FileError → Text
  | isFolder _ => ofString "IsADirectoryError"
  | isFile _ => ofString "FileExistsError"
  | blocked .folderMissing _ => ofString "FileNotFoundError"
  | blocked .throughFile _ => ofString "NotADirectoryError"
  | blocked .tooLong _ => ofString "OSError"
  | blocked .null _ => ofString "ValueError"

/-- The wording. -/
def message : FileError → Text
  | isFolder path => ofString "[Errno 21] Is a directory: " ++ quoted path
  | isFile path => ofString "[Errno 17] File exists: " ++ quoted path
  | blocked .folderMissing path => ofString "[Errno 2] No such file or directory: " ++ quoted path
  | blocked .throughFile path => ofString "[Errno 20] Not a directory: " ++ quoted path
  | blocked .tooLong path => ofString "[Errno 36] File name too long: " ++ quoted path
  | blocked .null _ => ofString "embedded null byte"

end FileError

namespace Files

/-- What is found at a place. The folder that relative paths start from is always there. -/
def at? (files : Files) (place : Text) : Option Entry :=
  if Path.isAround place then some .folder else Table.get? files place

/-- What components lead to from the place that names, the innermost first, lead to. -/
def followFrom (files : Files) (root : Text) : List Text → List Text →
    Except Obstacle (Option Entry)
  | names, [] => .ok (files.at? (Path.placeOf root names))
  | names, c :: rest =>
    match files.at? (Path.placeOf root names) with
    | none => .error .folderMissing
    | some (.file _) => .error .throughFile
    | some .folder =>
      if Path.isNameTooLong c then .error .tooLong
      else followFrom files root (Path.step root names c) rest

/-- What a path leads to; `none` if there is nothing in the folder that it leads to. -/
def follow (files : Files) (path : Text) : Except Obstacle (Option Entry) :=
  if Path.hasNull path then .error .null
  else if Path.isTooLong (Path.normal path) then .error .tooLong
  else followFrom files (Path.root path) [] (Path.components path)

/-- The content of the file under a path, if there is one. -/
def content? (files : Files) (path : Text) : Except FileError (Option Text) :=
  match files.follow path with
  | .ok (some (.file content)) => .ok (some content)
  | .ok (some .folder) => .error (.isFolder (Path.normal path))
  | .error .tooLong => .error (.blocked .tooLong (Path.normal path))
  | .ok none | .error _ => .ok none

/-- Writes a file into a folder that is there. -/
def write (files : Files) (path content : Text) : Except FileError Files :=
  match files.follow path with
  | .ok (some .folder) => .error (.isFolder (Path.normal path))
  | .error o => .error (.blocked o (Path.normal path))
  | .ok _ => .ok (Table.put (Path.place path) (.file content) files)

/-! ## Folders -/

/-- Makes a folder, unless it is there, in one that is there. -/
def makeFolder (files : Files) (path : Text) : Except FileError Files :=
  match files.follow path with
  | .ok (some .folder) => .ok files
  | .ok (some (.file _)) => .error (.isFile (Path.normal path))
  | .ok none => .ok (Table.put (Path.place path) .folder files)
  | .error o => .error (.blocked o (Path.normal path))

/-- Makes the folder that components, the innermost first, lead to, and the folder that holds it
first where that is missing. What has been made before an error stays. -/
def makeFoldersFrom (files : Files) (root : Text) : List Text → Files × Except FileError Unit
  | [] => (files, .ok ())
  | c :: outer =>
    let path := Path.build root (c :: outer).reverse
    let make (files : Files) : Files × Except FileError Unit :=
      match files.makeFolder path with
      | .ok files => (files, .ok ())
      | .error e => (files, .error e)
    match make files with
    | (_, .error (.blocked .folderMissing _)) =>
      match makeFoldersFrom files root outer with
      | (files, .ok ()) => make files
      | failed => failed
    | made => made

/-- Makes the folder that is to hold what is under a path. -/
def makeRoomFor (files : Files) (path : Text) : Files × Except FileError Unit :=
  files.makeFoldersFrom (Path.root path) (Path.components path).reverse.tail

/-- Files with the folders that hold them. -/
def ofContents (contents : Table Text) : Files :=
  contents.foldl (fun files e =>
    let (files, _) := makeRoomFor files e.1
    Table.put (Path.place e.1) (.file e.2) files) []

/-! ## After a file has been written -/

theorem at?_put (files : Files) (place : Text) (e : Entry) (other : Text)
    (h : Path.isAround place = false) :
    at? (Table.put place e files) other = if place = other then some e else files.at? other := by
  unfold at?
  rw [Table.get?_put]
  by_cases ho : place = other
  · subst ho; simp [h]
  · simp [ho]

theorem followFrom_cons {files : Files} {root c : Text} {names rest : List Text}
    {found : Option Entry} (h : files.followFrom root names (c :: rest) = .ok found) :
    files.at? (Path.placeOf root names) = some .folder ∧ Path.isNameTooLong c = false ∧
      files.followFrom root (Path.step root names c) rest = .ok found := by
  simp only [followFrom] at h
  split at h <;> try simp at h
  split at h <;> try simp at h
  rename_i hd hn
  exact ⟨hd, by simpa using hn, h⟩

theorem at?_of_followFrom {files : Files} {root : Text} {cs names : List Text}
    {found : Option Entry} (h : files.followFrom root names cs = .ok found) :
    files.at? (Path.placeOf root (cs.foldl (Path.step root) names)) = found := by
  induction cs generalizing names with
  | nil => simpa [followFrom] using h
  | cons c rest ih => exact ih (followFrom_cons h).2.2

theorem followFrom_put {files : Files} {root : Text} {cs names : List Text}
    {found : Option Entry} (h : files.followFrom root names cs = .ok found)
    (hf : found ≠ some .folder) (e : Entry) :
    followFrom (Table.put (Path.placeOf root (cs.foldl (Path.step root) names)) e files) root
      names cs = .ok (some e) := by
  have ha := at?_of_followFrom h
  have hp : Path.isAround (Path.placeOf root (cs.foldl (Path.step root) names)) = false := by
    cases hb : Path.isAround (Path.placeOf root (cs.foldl (Path.step root) names)) with
    | false => rfl
    | true => exact absurd (by simpa [at?, hb] using ha.symm) hf
  induction cs generalizing names with
  | nil => simp only [followFrom, at?_put _ _ _ _ hp]; simp
  | cons c rest ih =>
    obtain ⟨hd, hn, h⟩ := followFrom_cons h
    have hne : Path.placeOf root ((c :: rest).foldl (Path.step root) names) ≠
        Path.placeOf root names := fun eq => hf (by rw [← ha, eq, hd])
    simp only [followFrom, at?_put _ _ _ _ hp, if_neg hne, hd, hn]
    simpa using ih h ha hp

/-- A file that is written is found at its place, and nothing else changes. -/
theorem at?_write {files written : Files} {path content : Text}
    (h : files.write path content = .ok written) (other : Text) :
    written.at? other =
      if Path.place path = other ∧ Path.isAround other = false then some (.file content)
      else files.at? other := by
  unfold write at h
  split at h <;> try simp at h
  subst h
  by_cases ho : Path.place path = other
  · subst ho
    cases hp : Path.isAround (Path.place path) with
    | false => simp [at?_put _ _ _ _ hp]
    | true => simp [at?, hp]
  · unfold at?
    simp [ho, Table.get?_put]

/-- **A file that has been written is read with its content.** -/
theorem content?_write {files written : Files} {path content : Text}
    (h : files.write path content = .ok written) :
    written.content? path = .ok (some content) := by
  unfold write at h
  split at h <;> try simp at h
  rename_i found hf hok
  subst h
  unfold follow at hok
  split at hok <;> try simp at hok
  split at hok <;> try simp at hok
  rename_i hnull hlong
  have := followFrom_put hok hf (.file content)
  simp [content?, follow, Path.place, hnull, hlong, this]

end Files

end Dialogue
