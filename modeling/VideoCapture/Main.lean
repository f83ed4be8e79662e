import VideoCapture.Program

/-!
# The command

Runs the program on the machine it is started on. What the program reads and writes is carried between the
machine's files and the disk of the model, and the model's clock follows the machine's.
-/

namespace VideoCapture.Command

/-- The directories that the arguments name. -/
def directories (args : Arguments) : List String :=
  Path.parent args.input :: (args.record.map Path.parent).toList ++ args.stillDirectory.toList

/-- Whether the machine has a directory. -/
def hasDirectory (path : String) : IO Bool := do
  try
    discard <| IO.FS.Handle.mk (Path.join path ".") .read
    return true
  catch _ => return false

/-- A host with the input file of a run on its disk, and with the directories that the machine has. -/
def loadHost (args : Arguments) : IO Host := do
  let now ← IO.monoNanosNow
  let present ← (directories args).filterM hasDirectory
  let disk := present.foldl Disk.makeDirectory {}
  let disk ← try
      let data ← IO.FS.readBinFile args.input
      pure (disk.writeFile args.input data.toList).2
    catch
      | .noFileOrDirectory .. => pure disk
      | _ => pure (disk.makeDirectory args.input)
  return { disk, now }

/-- Writes the files of a disk to the machine, the ones that are as they were before apart. A file that
cannot be written is left out. -/
def saveFiles (before after : Disk) : IO Unit := do
  for (place, entry) in after.entries do
    match entry with
    | .file id =>
      let content := after.content id
      if before.fileAt? place != some content then
        try IO.FS.writeBinFile place.path ⟨content.toArray⟩ catch _ => pure ()
    | _ => pure ()

/-- Sleeps until the machine's clock has reached a time of the model's. -/
def sleepUntil (time : Nat) : IO Unit := do
  let now ← IO.monoNanosNow
  if now < time then IO.sleep (UInt32.ofNat ((time - now) / 1000000))

/-- Replays the stream step by step, and prints what there is to print as it comes. -/
partial def play (saved : Disk) (playback : Playback) : IO (Outlook × Playback) := do
  let now ← IO.monoNanosNow
  let current := { playback with
    capture := { playback.capture with host := { playback.capture.host with now } } }
  let (outlook, next) := current.step
  sleepUntil next.capture.host.now
  IO.print next.printed
  (← IO.getStdout).flush
  let next := { next with printed := "" }
  if outlook ≠ .running then return (outlook, next)
  let disk := next.capture.host.disk
  if saved.operations < disk.operations then
    saveFiles saved disk
    play disk next
  else play saved next

/-- The exit code that stands for the end of a run. For one that is killed it is the code that a shell
shows. -/
def exitCode : ProgramEnd → UInt32
  | .exit code => UInt32.ofNat code
  | .killed => 134

/-- Runs the program with its arguments understood. -/
def run (args : Arguments) : IO UInt32 := do
  let host ← loadHost args
  let (opened, host) := Program.open? args host
  match opened with
  | .error result =>
    IO.eprint result.stderr
    return exitCode result.ending
  | .ok playback =>
    IO.print playback.printed
    let (result, after) := Playback.result (← play host.disk { playback with printed := "" })
    saveFiles host.disk after.disk
    IO.print result.stdout
    IO.eprint result.stderr
    return exitCode result.ending

end VideoCapture.Command

/-- The command. -/
def main (texts : List String) : IO UInt32 := do
  match VideoCapture.Arguments.parse texts with
  | .help =>
    IO.print VideoCapture.Program.usage
    return 0
  | .invalid =>
    IO.eprint VideoCapture.Program.usage
    return UInt32.ofNat VideoCapture.ProgramResult.usageCode
  | .run args => VideoCapture.Command.run args
