import Dialogue.CommandLine.Perform
import Dialogue.CommandLine.Words
import Dialogue.Console.Report
import Dialogue.Settings.Reading
import Std.Time.DateTime.Timestamp

/-!
# The program

Commands on the files, the environment, the clock and the terminal that there are. What a command
shows is computed by `CommandLine`; this module reads what it needs and shows it. A run is shown
step by step, and a prompt that waits reads a line.
-/

namespace Dialogue.Main

open Text Console CommandLine

/-- The microseconds from the start of year 1 to the start of 1970. -/
def startOfUnixTime : Int := 62135596800000000

/-- The time. -/
def now : IO Time.Timestamp := do
  let t ← Std.Time.Timestamp.now
  return .ofMicros (startOfUnixTime + t.toNanosecondsSinceUnixEpoch.val / 1000).toNat

/-- A new identifier: 32 hexadecimal digits at random. -/
def newId : IO Text := do
  let bytes ← IO.getRandomBytes 16
  return bytes.toList.flatMap fun b => hex 2 b.toNat

/-- The text of a file's bytes. -/
def decode (path : Text) (bytes : ByteArray) : IO Text :=
  match String.fromUTF8? bytes with
  | some s => return s.toList
  | none => throw (IO.userError s!"{String.ofList path} is not UTF-8 text")

/-- What is found under a path. -/
def look (path : Text) : IO (Option Entry) := do
  if Path.isTooLong path || Path.isNameTooLong (Path.name path) then return none
  try
    let bytes ← IO.FS.readBinFile (String.ofList path)
    return some (.file (← decode path bytes))
  catch
    | .noFileOrDirectory .. => return none
    | .inappropriateType _ code _ => return if code = 21 then some .folder else none
    | e => throw e

/-- What is found under some paths and on the way to them. -/
def lookAll (paths : List Text) : IO Files := do
  let mut files : Files := []
  for path in paths.flatMap Path.stages do
    if let some entry ← look path then files := files.put (Path.place path) entry
  return files

/-- The pieces of a text between its null characters. -/
def splitAtNulls (t : Text) : List Text := t.splitOn '\x00'

/-- The environment. -/
def environment : IO (Table Text) := do
  try
    let bytes ← IO.FS.readBinFile "/proc/self/environ"
    let pairs := (splitAtNulls (← decode [] bytes)).filterMap fun entry =>
      let name := entry.takeWhile (· ≠ '=')
      if name.isEmpty then none else some (name, entry.drop (name.length + 1))
    return pairs
  catch _ =>
    let mut found : Table Text := []
    for setting in settingNames do
      let name := upper (variableName setting)
      if let some value ← IO.getEnv (String.ofList name) then found := found.put name value.toList
    return found

/-- Shows things, without the first `seen` characters. -/
def showFrom (seen : Nat) : List Shown → IO Unit
  | [] => return
  | .text t :: rest => do
    let output ← IO.getStdout
    output.putStr (String.ofList (t.drop seen))
    output.flush
    showFrom (seen - t.length) rest
  | .pause seconds :: rest => do
    IO.sleep (seconds * 1000).toUInt32
    showFrom seen rest

/-- The terminal that has shown everything, with new readings. -/
def reread (lines : List Text) (ended : Bool) (t : Terminal) : Terminal :=
  { Terminal.ofLines false lines with ended, shown := t.shown }

/-- Goes through a run up to its end. The coming prompt has been answered with `typed`, and `seen`
characters of what it shows have been shown. -/
partial def play (typed : List Text) (ended : Bool) (seen : Nat) (p : Play) : IO Play := do
  match p.step? (← now) with
  | none => return p
  | some q =>
    let shown := (q.terminal?.map Terminal.output).getD []
    showFrom seen shown
    if q.isWaiting then
      let line ← (← IO.getStdin).getLine
      let ended := ended || line.isEmpty
      let typed := typed ++ typedLines line.toList
      play typed ended (shownText shown).length (p.onTerminal (reread typed ended))
    else
      play [] ended 0 (q.onTerminal fun t => { reread [] ended t with shown := [] })

/-- Writes what has become of a file. A longer text is appended. -/
def save (path : Text) (before after : Option Entry) : IO Unit := do
  let some (.file content) := after | return
  if before = after then return
  let old := match before with
    | some (.file old) => old
    | _ => []
  let name := String.ofList path
  if old.isPrefixOf content then
    let handle ← IO.FS.Handle.mk name .append
    handle.putStr (String.ofList (content.drop old.length))
  else
    IO.FS.writeFile name (String.ofList content)

/-- Saves what a command has changed. -/
def saveAll (before after : Files) : IO Unit := do
  for (place, entry) in after do
    if entry = .folder then
      if (before.at? place).isNone then IO.FS.createDirAll (String.ofList place)
  for (place, entry) in after do
    save place (before.at? place) (some entry)

/-- Shows a reply, and says on the error stream why a command has failed. -/
def conclude (r : Reply) : IO UInt32 := do
  showFrom 0 r.shown
  let say (kind : String) (message : Text) : IO Unit :=
    IO.eprintln s!"{kind}: {String.ofList message}"
  match r.outcome with
  | .failed (.refused e) => say "Error" e.message
  | .failed (.broken b) => say (String.ofList b.kind) (b.message?.getD [])
  | _ => pure ()
  return r.outcome.status.toUInt32

/-- Carries out a command on the files there are. -/
def carryOutHere (o : Office) (action : Action) : IO UInt32 := do
  let files ← lookAll (action.files o)
  let desk : Desk := { files }
  let r ← match action with
    | .run path options =>
      match Play.begin o desk path options (reread [] false {}) with
      | .error r => pure r
      | .ok p =>
        saveAll files p.desk.files
        pure (Play.finish (← play [] false 0 p))
    | other => pure ((carryOut o 0 desk {} other).getD (desk.reply [] .done))
  saveAll files r.desk.files
  conclude r

/-- The program: its exit status for some words. -/
def program (words : List Text) : IO UInt32 := do
  let file ← match ← look (ofString ".env") with
    | some (.file content) => pure (some content)
    | _ => pure none
  match Settings.read (← environment) file with
  | .error (.unreadable setting source) =>
    IO.eprintln (String.ofList (unreadableMessage setting source))
    return 1
  | .error (.tooDeep c) =>
    IO.eprintln (String.ofList c.tooDeepMessage)
    return 1
  | .error (.misfits found) =>
    for m in found do
      let setting := String.ofList m.setting
      let defect := String.ofList m.defect.name
      IO.eprintln s!"{setting}: {defect}"
    return 1
  | .ok settings =>
    let time ← now
    let id ← newId
    let o : Office := {
      settings, clock := fun _ => time, newId := fun _ => id, numbered := optionLine }
    match understand readWords o words with
    | .error f => conclude (Desk.reply { files := [] } [] (.failed f))
    | .ok action => carryOutHere o action

end Dialogue.Main

/-- The program's entry. -/
def main (args : List String) : IO UInt32 := Dialogue.Main.program (args.map String.toList)
