import VideoCapture.Codec

/-!
# Video sources

What the delivery side may know of a camera: its format, the format parameters for a session description
once they are known, and the latest keyframe for those who join in the middle.
-/

namespace VideoCapture

/-- The formats in which a camera delivers pictures. -/
inductive PixelFormat where
  | video (codec : Codec)
  /-- A JPEG image for each picture. -/
  | mjpeg
  deriving DecidableEq, Repr

namespace PixelFormat

/-- The codec of a video format. -/
def codec? : PixelFormat → Option Codec
  | video codec => some codec
  | mjpeg => none

/-- The name of a format. -/
def name : PixelFormat → String
  | video codec => codec.encodingName
  | mjpeg => "MJPEG"

end PixelFormat

/-- The format that was agreed with a camera. -/
structure VideoFormat where
  width : Nat
  height : Nat
  fps : Nat
  pixelFormat : PixelFormat
  deriving DecidableEq, Repr

/-- What is published of a camera. -/
structure VideoSource where
  format : VideoFormat
  /-- The format parameters for a session description. -/
  parameters : Option String := none
  /-- The latest keyframe as a byte stream, its parameter sets in front. -/
  lastKeyframe : Option Bytes := none
  deriving DecidableEq, Repr

end VideoCapture
