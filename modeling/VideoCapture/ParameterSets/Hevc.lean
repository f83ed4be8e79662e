import VideoCapture.ParameterSets
import VideoCapture.Bitstream.EmulationPrevention
import VideoCapture.Bytes.Base64

/-!
# Parameter sets of H.265

What a VPS, an SPS and a PPS say to others: the format parameters of a session description, and the
decoder configuration record of an MP4 track. The general profile of an SPS stands at fixed positions
once the emulation prevention bytes are gone.
-/

namespace VideoCapture.Hevc

/-- The format parameters of a session description. -/
def formatParameters (sets : ParameterSets) : Except CaptureError String := do
  let vps ← sets.require .vps
  let sps ← sets.require .sps
  let pps ← sets.require .pps
  return "sprop-vps=" ++ Bytes.Base64.text vps ++ ";sprop-sps=" ++ Bytes.Base64.text sps ++
    ";sprop-pps=" ++ Bytes.Base64.text pps

/-- The general profile, tier and level of an SPS. -/
structure ProfileTierLevel where
  /-- Profile space, tier and profile number, packed as in the stream. -/
  profile : UInt8
  compatibility : Bytes
  constraints : Bytes
  level : UInt8
  temporalLayers : UInt8
  nested : Bool
  deriving DecidableEq, Repr

namespace ProfileTierLevel

/-- Reads the fields of an SPS: behind the two-byte NAL header come one byte with the number of layers
and the nesting flag, eleven bytes of profile, and the level. -/
def ofSps (sps : Bytes) : Except CaptureError ProfileTierLevel :=
  match EmulationPrevention.strip sps with
  | _ :: _ :: ids :: profile :: c₀ :: c₁ :: c₂ :: c₃ ::
      k₀ :: k₁ :: k₂ :: k₃ :: k₄ :: k₅ :: level :: _ =>
    .ok {
      profile
      compatibility := [c₀, c₁, c₂, c₃]
      constraints := [k₀, k₁, k₂, k₃, k₄, k₅]
      level
      temporalLayers := ((ids >>> 1) &&& 0x07) + 1
      nested := ids &&& 0x01 == 1 }
  | _ => .error (.spsTooShort sps.length)

end ProfileTierLevel

/-- A typed array that holds one NAL unit behind its 16-bit length. -/
def nalArray (type : UInt8) (nal : Bytes) : Bytes :=
  [0x80 ||| type] ++ Bytes.be16 1 ++ Bytes.be16 nal.length ++ nal

/-- The decoder configuration record: version, general profile, fixed picture format, number of layers
and nesting beside four-byte NAL lengths, and one array for each parameter set. -/
def decoderConfiguration (sets : ParameterSets) : Except CaptureError Bytes := do
  let vps ← sets.require .vps
  let sps ← sets.require .sps
  let pps ← sets.require .pps
  let ptl ← ProfileTierLevel.ofSps sps
  let layers := (ptl.temporalLayers <<< 3) ||| ((if ptl.nested then (1 : UInt8) else 0) <<< 2) ||| 0x03
  return [1, ptl.profile] ++ ptl.compatibility ++ ptl.constraints ++ [ptl.level] ++
    [0xF0, 0x00, 0xFC, 0xFD, 0xF8, 0xF8] ++ Bytes.be16 0 ++ [layers, 3] ++
    nalArray 32 vps ++ nalArray 33 sps ++ nalArray 34 pps

end VideoCapture.Hevc
