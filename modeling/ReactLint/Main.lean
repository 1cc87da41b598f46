import Std.Time
import ReactLint.CommandLine.Run

/-!
# The program

The program takes the part of the disk that a command can see, runs the command on it, prints what
the run leaves behind and writes the files that the run has changed.
-/

namespace ReactLint.CommandLine

def Command.paths : Command → List String
  | .version => []
  | .analyze o => [Config.fileName, Registry.ruleFolder, o.config, o.output] ++ o.target.toList
  | .rules config => [Config.fileName, Registry.ruleFolder, config]
  | .start => [Config.fileName]

def Command.readsInput : Command → Bool
  | .analyze o => o.target.all fun t => (Path.ofString t).text = "-"
  | _ => false

def usage : String := s!"Usage: {toolName} [--version] analyze|rules|init [OPTIONS] [TARGET]"

/-- The files of a disk that another one lacks or has with other bytes. -/
def changedFiles (before after : Disk) : List (Location × ByteArray) :=
  after.entries.filterMap fun (loc, e) =>
    match e, before.find? loc with
    | .file bytes, some (.file old) => if old.data = bytes.data then none else some (loc, bytes)
    | .file bytes, _ => some (loc, bytes)
    | .folder, _ => none

def fullName (loc : Location) : String := "/" ++ "/".intercalate loc

def takeEntry (d : Disk) (loc : Location) : IO Disk := do
  let path := (← IO.currentDir) / fullName loc
  if ← path.isDir then return d.create loc .folder
  else if ← path.pathExists then return d.create loc (.file (← IO.FS.readBinFile path))
  else return d

def takePath (home : Location) (d : Disk) (p : Path) : IO Disk := do
  let mut d := d
  let mut loc : Location := if p.isRelative then home else []
  for name in p.names do
    loc := Disk.step loc name
    d ← takeEntry d loc
  return d

def takeFolder (home : Location) (d : Disk) (p : Path) : IO Disk := do
  let path := (← IO.currentDir) / p.text
  if !(← path.isDir) then return d
  let mut d := d
  for child in ← path.readDir do
    d ← takePath home d (p.child child.fileName)
  return d

/-- The part of the disk that a command can see. -/
def takePlace (c : Command) : IO Place := do
  let label := (← IO.currentDir).toString
  let home := (Path.ofString label).names
  let mut d ← takePath [] {} (Path.ofString label)
  for p in c.paths do
    d ← takePath home d (Path.ofString p)
  d ← takeFolder home d (Path.ofString Registry.ruleFolder)
  return { disk := d, home, label }

def takeEnvironment : IO Config.Environment := do
  let setting (name : String) : IO String := do return (← IO.getEnv name).getD ""
  return { failOn := ← setting "RERENDER_FAIL_ON"
           format := ← setting "RERENDER_FORMAT"
           disableRules := ← setting "RERENDER_DISABLE_RULES"
           maxInputKb := ← setting "RERENDER_MAX_INPUT_KB" }

partial def takeInput (read : ByteArray) : IO ByteArray := do
  let bytes ← (← IO.getStdin).read 4096
  if bytes.isEmpty then return read else takeInput (read ++ bytes)

def presentMoment : IO Moment := do
  let t := Std.Time.DateTime.ofTimestamp (← Std.Time.Timestamp.now) .UTC
  return {
    date := ⟨t.year.toInt.toNat, t.month.val.toNat, t.day.val.toNat⟩
    time := ⟨t.hour.val.toNat, t.minute.val.toNat, t.second.val.toNat,
      t.nanosecond.val.toNat / 1000⟩
    zone := some 0 }

def runTimed (s : Session) : Command → IO Outcome
  | .analyze o =>
    match prepare s o with
    | .error outcome => return outcome
    | .ok r => do
      let start ← IO.monoNanosNow
      let (report, logs) ← IO.lazyPure fun _ => r.registry.analyzeText s.now r.code
      let stop ← IO.monoNanosNow
      return r.finish s.console report logs ((stop - start) / 100000)
  | c => return runCommand s 0 c

def showAll (K : Console) (write : String → IO Unit) (ps : List Printed) : IO Unit := do
  for p in ps do
    for line in (K.lines p).toOption.getD [] do write line

def deliver (K : Console) (before : Disk) (o : Outcome) : IO Unit := do
  for entry in o.logs do
    if (o.level.getD .warning).shows entry.level then
      IO.eprintln s!"{entry.level.name}: {entry.message}"
  showAll K IO.eprintln o.messages
  showAll K IO.println o.tables
  IO.print o.stdout
  for (loc, bytes) in changedFiles before o.place.disk do
    IO.FS.writeBinFile (fullName loc) bytes
  if let some f := o.fault then IO.eprintln s!"{toolName}: {f.message}"

end ReactLint.CommandLine

open ReactLint ReactLint.CommandLine in
def main (args : List String) : IO UInt32 := do
  match Command.ofArgs? args with
  | none =>
    IO.eprintln usage
    return 2
  | some c =>
    let place ← takePlace c
    let input ← if c.readsInput then takeInput .empty else pure .empty
    let environment ← takeEnvironment
    let now ← presentMoment
    let session : Session := { place, environment, input, now }
    let o ← runTimed session c
    deliver session.console place.disk o
    return o.exit.toUInt32
