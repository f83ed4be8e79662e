import VideoCapture.ParameterSets
import VideoCapture.Bytes.Hex
import VideoCapture.Bytes.Base64

/-!
# Parameter sets of H.264

What an SPS and a PPS say to others: the format parameters of a session description, and the decoder
configuration record of an MP4 track. Profile, compatibility and level are the three SPS bytes behind the
NAL header.
-/

namespace VideoCapture.Avc

/-- Profile, compatibility and level, the three bytes behind the NAL header of an SPS. -/
def profileBytes (sps : Bytes) : Except CaptureError Bytes :=
  if sps.length < 4 then .error (.spsTooShort sps.length) else .ok ((sps.drop 1).take 3)

/-- Profile, compatibility and level as six hexadecimal digits. -/
def profileLevelId (sps : Bytes) : Except CaptureError String :=
  (profileBytes sps).map Bytes.Hex.text

/-- The SPS and the PPS in base64, with a comma between them. -/
def spropParameterSets (sets : ParameterSets) : Except CaptureError String := do
  let sps ← sets.require .sps
  let pps ← sets.require .pps
  return Bytes.Base64.text sps ++ "," ++ Bytes.Base64.text pps

/-- The format parameters of a session description. -/
def formatParameters (sets : ParameterSets) : Except CaptureError String := do
  let sps ← sets.require .sps
  let profile ← profileLevelId sps
  let sprop ← spropParameterSets sets
  return "profile-level-id=" ++ profile ++ ";sprop-parameter-sets=" ++ sprop

/-- The decoder configuration record: version, profile bytes, four-byte NAL lengths, one SPS and one
PPS, each behind its 16-bit length. -/
def decoderConfiguration (sets : ParameterSets) : Except CaptureError Bytes := do
  let sps ← sets.require .sps
  let pps ← sets.require .pps
  let profile ← profileBytes sps
  return [1] ++ profile ++ [0xFF, 0xE1] ++ Bytes.be16 sps.length ++ sps ++
    [1] ++ Bytes.be16 pps.length ++ pps

end VideoCapture.Avc
