import VideoCapture.Delivery.Source

/-!
# Command line arguments

The arguments are read from left to right. An option takes its value from the next argument or from behind
an equals sign, and a short option also from the same argument. Two dashes alone end the options. Each
option may be given once, one input file has to be given, and whoever asks for help gets it before anything
behind that is looked at.
-/

namespace VideoCapture

/-- What the command line asks for. -/
structure Arguments where
  /-- The recorded stream to replay. -/
  input : String := ""
  format : PixelFormat := .video .h264
  width : Nat := 1920
  height : Nat := 1080
  fps : Nat := 30
  /-- The path of the recording. -/
  record : Option String := none
  /-- The directory for saved stills. -/
  stillDirectory : Option String := none
  /-- The time between two saved stills, in seconds. -/
  stillInterval : Nat := 5
  /-- Whether parameter sets are repeated in front of keyframes. -/
  repeatSets : Bool := false
  queueDepth : Nat := 256
  /-- The limit of the write buffer, in units of 1024 bytes. -/
  writeBuffer : Nat := 1024
  /-- The time between two flushes at keyframes, in milliseconds. -/
  flushInterval : Nat := 1000
  looping : Bool := false
  paced : Bool := true
  /-- Whether the session runs in the foreground instead of a worker. -/
  cooperative : Bool := false
  payloadType : Nat := 96
  deriving DecidableEq, Repr

/-- What came of reading the arguments. -/
inductive ArgumentOutcome where
  | run (arguments : Arguments)
  | help
  | invalid
  deriving DecidableEq, Repr

namespace Arguments

/-- Reads a decimal number of at most `limit`, which may have a plus sign in front. -/
def number? (limit : Nat) (text : String) : Option Nat :=
  let digits := match text.toList with
    | '+' :: digits => digits
    | digits => digits
  if digits.isEmpty ∨ !digits.all Char.isDigit then none
  else
    let value := digits.foldl (fun n c => n * 10 + (c.toNat - '0'.toNat)) 0
    if value ≤ limit then some value else none

/-- Reads a decimal number of at most `limit` that is taken as a signed one, so that zero may also have a
minus sign. -/
def signedNumber? (limit : Nat) (text : String) : Option Nat :=
  match text.toList with
  | '-' :: digits => if !digits.isEmpty ∧ digits.all (· = '0') then some 0 else none
  | _ => number? limit text

/-- Reads the name of a format. -/
def format? (text : String) : Option PixelFormat :=
  if text = "h264" then some (.video .h264)
  else if text = "h265" then some (.video .h265)
  else if text = "mjpeg" then some .mjpeg
  else none

/-- Reads a path, which must not be empty. -/
def path? (text : String) : Option String :=
  if text = "" then none else some text

/-- The largest number of 8, of 32 and of 64 bits. -/
def max8 : Nat := 0x100 - 1

@[inherit_doc max8] def max32 : Nat := 0x100000000 - 1

@[inherit_doc max8] def max64 : Nat := 0x10000000000000000 - 1

/-- The long names of the options that take a value. -/
def valueOptions : List String :=
  ["format", "width", "height", "fps", "record", "snapshot-dir", "snapshot-interval", "queue-depth",
    "write-buffer-kb", "flush-interval-ms", "payload-type"]

/-- The arguments with a value for an option, unless the value is not one for that option. -/
def setValue (args : Arguments) (name value : String) : Option Arguments :=
  match name with
  | "format" => (format? value).map fun format => { args with format }
  | "width" => (signedNumber? max32 value).map fun width => { args with width }
  | "height" => (signedNumber? max32 value).map fun height => { args with height }
  | "fps" => (signedNumber? max32 value).map fun fps => { args with fps }
  | "record" => (path? value).map fun path => { args with record := some path }
  | "snapshot-dir" => (path? value).map fun path => { args with stillDirectory := some path }
  | "snapshot-interval" => (number? max64 value).map fun stillInterval => { args with stillInterval }
  | "queue-depth" => (number? max64 value).map fun queueDepth => { args with queueDepth }
  | "write-buffer-kb" => (number? max64 value).map fun writeBuffer => { args with writeBuffer }
  | "flush-interval-ms" => (number? max64 value).map fun flushInterval => { args with flushInterval }
  | "payload-type" => (signedNumber? max8 value).map fun payloadType => { args with payloadType }
  | _ => none

/-- The arguments with a switch turned on, unless there is no such switch. -/
def setSwitch (args : Arguments) (name : String) : Option Arguments :=
  match name with
  | "repeat-config" => some { args with repeatSets := true }
  | "loop" => some { args with looping := true }
  | "no-pacing" => some { args with paced := false }
  | "cooperative" => some { args with cooperative := true }
  | _ => none

/-- The long name of a short option. -/
def longName? : Char → Option String
  | 'f' => some "format"
  | 'r' => some "record"
  | _ => none

/-- How far the arguments have been read. -/
structure Progress where
  args : Arguments := {}
  /-- The options and switches that were given so far. -/
  given : List String := []
  /-- The option that still wants its value. -/
  waiting : Option String := none
  hasInput : Bool := false
  /-- Whether no more options follow. -/
  plain : Bool := false
  deriving DecidableEq, Repr

/-- What one argument leads to: reading on, or stopping for help or for an error. -/
abbrev Reading := Except ArgumentOutcome Progress

namespace Progress

/-- Goes on with what an option or a switch did, if it was allowed and given for the first time. -/
def accept (progress : Progress) (name : String) : Option Arguments → Reading
  | some args =>
    if name ∈ progress.given then .error .invalid
    else .ok { progress with args, given := name :: progress.given, waiting := none }
  | none => .error .invalid

/-- Takes the value of an option. -/
def takeValue (progress : Progress) (name value : String) : Reading :=
  progress.accept name (progress.args.setValue name value)

/-- Takes an option by its long name, with the value that was given along with it. -/
def takeLong (progress : Progress) (name : String) (value : Option String) : Reading :=
  match value with
  | some value =>
    if name ∈ valueOptions then progress.takeValue name value else .error .invalid
  | none =>
    if name ∈ valueOptions then .ok { progress with waiting := some name }
    else if name = "help" then .error .help
    else progress.accept name (progress.args.setSwitch name)

/-- Takes short options that stand together. An option that takes a value takes the rest as its value,
without an equals sign in front. -/
def takeShort (progress : Progress) : List Char → Reading
  | [] => .ok progress
  | 'h' :: _ => .error .help
  | c :: rest =>
    match longName? c, rest with
    | none, _ => .error .invalid
    | some name, [] => .ok { progress with waiting := some name }
    | some name, '=' :: value => progress.takeValue name (String.ofList value)
    | some name, value => progress.takeValue name (String.ofList value)

/-- Takes an argument that is not an option: the input file. -/
def takeInput (progress : Progress) (text : String) : Reading :=
  match path? text with
  | some input =>
    if progress.hasInput then .error .invalid
    else .ok { progress with args := { progress.args with input }, hasInput := true }
  | none => .error .invalid

/-- Takes an option, of which the dashes are known. -/
def takeOption (progress : Progress) (text : List Char) : Reading :=
  match text with
  | '-' :: '-' :: long =>
    let name := String.ofList (long.takeWhile (· ≠ '='))
    let value := (long.dropWhile (· ≠ '=')).drop 1
    progress.takeLong name (if '=' ∈ long then some (String.ofList value) else none)
  | _ => progress.takeShort (text.drop 1)

/-- Takes the next argument. -/
def take (progress : Progress) (text : String) : Reading :=
  if progress.plain then progress.takeInput text
  else
    match text.toList, progress.waiting with
    | '-' :: _ :: _, some _ => .error .invalid
    | ['-', '-'], none => .ok { progress with plain := true }
    | chars@('-' :: _ :: _), none => progress.takeOption chars
    | _, some name => progress.takeValue name text
    | _, none => progress.takeInput text

end Progress

/-- Reads all arguments. -/
def parse (texts : List String) : ArgumentOutcome :=
  match texts.foldlM Progress.take ({} : Progress) with
  | .error outcome => outcome
  | .ok progress =>
    if progress.hasInput ∧ progress.waiting.isNone then .run progress.args else .invalid

end Arguments

end VideoCapture
