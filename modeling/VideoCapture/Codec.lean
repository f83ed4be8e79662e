import VideoCapture.Bytes

/-!
# Codecs and NAL unit kinds

The two video codecs of a camera differ, for everything that handles their streams as bytes, in three
respects only: where the header of a NAL unit keeps its type, which types are parameter sets, slices and
refresh slices, and which parameter sets a decoder needs before the first picture.
-/

namespace VideoCapture

/-- The kinds of parameter set that configure a decoder. -/
inductive ParameterSetKind where
  | vps
  | sps
  | pps
  deriving DecidableEq, Repr

namespace ParameterSetKind

/-- The usual abbreviation of a kind. -/
def name : ParameterSetKind → String
  | vps => "VPS"
  | sps => "SPS"
  | pps => "PPS"

end ParameterSetKind

/-- What a NAL unit is for: configuration, a slice that refreshes the decoder, any other slice, or
something that accompanies pictures. -/
inductive NalKind where
  | parameterSet (kind : ParameterSetKind)
  | refresh
  | slice
  | other
  deriving DecidableEq, Repr

/-- A video codec whose stream consists of NAL units. -/
inductive Codec where
  | h264
  | h265
  deriving DecidableEq, Repr

namespace Codec

/-- The type number in the first byte of a NAL unit: the low five bits for H.264, the six bits below the
top one for H.265. -/
def nalType : Codec → UInt8 → UInt8
  | h264, header => header &&& 0x1F
  | h265, header => (header &&& 0x7E) >>> 1

/-- What the NAL unit with this first byte is for. -/
def classify (codec : Codec) (header : UInt8) : NalKind :=
  let type := (codec.nalType header).toNat
  match codec with
  | h264 =>
    if type = 7 then .parameterSet .sps
    else if type = 8 then .parameterSet .pps
    else if type = 5 then .refresh
    else if 1 ≤ type ∧ type ≤ 4 then .slice
    else .other
  | h265 =>
    if type = 32 then .parameterSet .vps
    else if type = 33 then .parameterSet .sps
    else if type = 34 then .parameterSet .pps
    else if type = 19 ∨ type = 20 then .refresh
    else if type ≤ 31 then .slice
    else .other

/-- The kind of a NAL unit given as bytes. -/
def kindOf (codec : Codec) (nal : Bytes) : NalKind :=
  codec.classify (nal.headD 0)

/-- Whether a NAL unit with this first byte carries picture data. -/
def carriesPicture (codec : Codec) (header : UInt8) : Bool :=
  match codec.classify header with
  | .refresh | .slice => true
  | _ => false

/-- Whether a slice is the first one of its picture: the top bit of the byte behind the NAL header says
so. The header takes one byte in H.264 and two in H.265. -/
def startsPicture (codec : Codec) (nal : Bytes) : Bool :=
  let flags := match codec with
    | h264 => nal[1]?
    | h265 => nal[2]?
  flags.any fun b => b &&& 0x80 != 0

/-- The parameter sets that a decoder needs, in the order in which it needs them. -/
def requiredSets : Codec → List ParameterSetKind
  | h264 => [.sps, .pps]
  | h265 => [.vps, .sps, .pps]

/-- The encoding's name in a session description. -/
def encodingName : Codec → String
  | h264 => "H264"
  | h265 => "H265"

/-- The file extension of a raw stream. -/
def rawExtension : Codec → String
  | h264 => "h264"
  | h265 => "h265"

end Codec

end VideoCapture
