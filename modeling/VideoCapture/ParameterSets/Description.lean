import VideoCapture.ParameterSets.Avc
import VideoCapture.ParameterSets.Hevc

/-!
# What parameter sets say, by codec

The two texts and records that a codec derives from its parameter sets, under one name for both codecs.
-/

namespace VideoCapture.ParameterSets

/-- The format parameters of a session description. -/
def formatParameters (sets : ParameterSets) : Codec → Except CaptureError String
  | .h264 => Avc.formatParameters sets
  | .h265 => Hevc.formatParameters sets

/-- The decoder configuration record of an MP4 track. -/
def decoderConfiguration (sets : ParameterSets) : Codec → Except CaptureError Bytes
  | .h264 => Avc.decoderConfiguration sets
  | .h265 => Hevc.decoderConfiguration sets

end VideoCapture.ParameterSets
