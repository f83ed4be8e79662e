import VideoCapture.Codec

/-!
# Errors

Every way in which capturing, recording or describing a stream can fail, as a cause with its data. The
wording of each cause stands in `message` alone.
-/

namespace VideoCapture

/-- Why an operation on a file failed. -/
inductive FileError where
  | notFound
  | isADirectory
  | notADirectory
  | storageFull
  /-- A name, or a path as a whole, has more bytes than it may have. -/
  | nameTooLong
  /-- A path with a character that no name can have. -/
  | invalidName
  deriving DecidableEq, Repr

namespace FileError

/-- The operating system's wording, with its error number. A path that it is never asked for has none. -/
def message : FileError → String
  | notFound => "No such file or directory (os error 2)"
  | isADirectory => "Is a directory (os error 21)"
  | notADirectory => "Not a directory (os error 20)"
  | storageFull => "No space left on device (os error 28)"
  | nameTooLong => "File name too long (os error 36)"
  | invalidName => "file name contained an unexpected NUL byte"

end FileError

/-- Why a track cannot be played. -/
inductive TrackDefect where
  | emptyPicture (width height : Nat)
  | oversizedPicture (width height : Nat)
  | noFrameRate
  /-- A defect that someone else found and put into words. -/
  | described (text : String)
  deriving DecidableEq, Repr

namespace TrackDefect

/-- The wording of a track defect. -/
def message : TrackDefect → String
  | emptyPicture width height => s!"dimensions must be positive, got {width}x{height}"
  | oversizedPicture width height => s!"dimensions {width}x{height} exceed 16 bits"
  | noFrameRate => "fps must be positive"
  | described text => text

end TrackDefect

/-- Why a capture device cannot be used. -/
inductive DeviceDefect where
  | noFrames (format : String) (size : Nat)
  | noFrameRate
  /-- A defect that the device itself put into words. -/
  | described (text : String)
  deriving DecidableEq, Repr

namespace DeviceDefect

/-- The wording of a device defect. -/
def message : DeviceDefect → String
  | noFrames format size => s!"no {format} frames found in {size} bytes"
  | noFrameRate => "fps must be positive"
  | described text => text

end DeviceDefect

/-- Why a step of capturing or recording failed. -/
inductive CaptureError where
  /-- The file system refused an operation. -/
  | file (cause : FileError)
  /-- A parameter set that is needed has not been seen yet. -/
  | missingParameterSet (kind : ParameterSetKind)
  /-- The SPS ends before its profile and level. -/
  | spsTooShort (length : Nat)
  | invalidTrack (defect : TrackDefect)
  | alreadyInitialized
  | notStreaming
  /-- A frame without a single payload byte. -/
  | emptyFrame
  /-- The media data outgrew the 32-bit size field of its box. -/
  | tooLarge (mdatSize : Nat)
  | device (defect : DeviceDefect)
  deriving DecidableEq, Repr

namespace CaptureError

/-- The wording of an error. -/
def message : CaptureError → String
  | file cause => s!"I/O error: {cause.message}"
  | missingParameterSet kind => s!"missing parameter set: {kind.name}"
  | spsTooShort length => s!"SPS too short for profile-level-id ({length} bytes)"
  | invalidTrack defect => s!"invalid track: {defect.message}"
  | alreadyInitialized => "muxer already initialized"
  | notStreaming => "muxer not streaming"
  | emptyFrame => "empty frame"
  | tooLarge mdatSize => s!"mp4 too large: mdat of {mdatSize} bytes exceeds 32-bit box size"
  | device defect => s!"device error: {defect.message}"

end CaptureError

end VideoCapture
