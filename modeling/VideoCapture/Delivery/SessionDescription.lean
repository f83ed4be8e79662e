import VideoCapture.Delivery.Source

/-!
# Session descriptions

The text that tells a receiver what it will get (SDP): the session, and one video stream with its payload
type, its encoding, its format parameters and its control address.

```text
v=0
o=<user> <session> <version> IN IP4 <address>
s=<name>
c=IN IP4 <address>
t=0 0
a=...
m=video 0 RTP/AVP <payload type>
a=rtpmap:<payload type> <encoding>/90000
a=fmtp:<payload type> <format parameters>
a=control:track1
```
-/

namespace VideoCapture

/-- The fields of a session description that do not follow from the source. -/
structure SessionConfig where
  address : String := "0.0.0.0"
  username : String := "-"
  sessionId : String := "0"
  sessionVersion : String := "0"
  sessionName : String := "Stream"
  /-- The payload type of video formats. Images have a fixed one. -/
  payloadType : Nat := 96
  deriving DecidableEq, Repr

namespace SessionDescription

/-- The fixed payload type of JPEG images. -/
def imagePayloadType : Nat := 26

/-- The ticks per second of RTP timestamps of video. -/
def clockRate : Nat := 90000

/-- The payload type that a format is sent with. -/
def payloadType (format : PixelFormat) (dynamic : Nat) : Nat :=
  match format with
  | .video _ => dynamic
  | .mjpeg => imagePayloadType

/-- The line that maps a payload type to an encoding. -/
def rtpmap (type : Nat) (encoding : String) : String :=
  s!"a=rtpmap:{type} {encoding}/{clockRate}"

/-- The line that gives the format parameters of a payload type. -/
def fmtp (type : Nat) (parameters : String) : String :=
  s!"a=fmtp:{type} {parameters}"

/-- The lines with format parameters. H.264 always says that it uses packetization mode 1, and H.265 says
nothing as long as its parameters are not known. -/
def formatLines (type : Nat) (parameters : Option String) : Codec → List String
  | .h264 =>
    [fmtp type ("packetization-mode=1" ++ (parameters.map (";" ++ ·)).getD "")]
  | .h265 => (parameters.map (fmtp type)).toList

/-- The lines that describe one video stream. -/
def mediaAttributes (format : PixelFormat) (dynamic : Nat) (parameters : Option String) :
    List String :=
  let type := payloadType format dynamic
  let lines := match format with
    | .video codec => rtpmap type codec.encodingName :: formatLines type parameters codec
    | .mjpeg => [rtpmap type "JPEG"]
  lines ++ ["a=control:track1"]

/-- The lines of a whole session description. -/
def lines (source : VideoSource) (config : SessionConfig) : List String :=
  [ "v=0",
    s!"o={config.username} {config.sessionId} {config.sessionVersion} IN IP4 {config.address}",
    s!"s={config.sessionName}",
    s!"c=IN IP4 {config.address}",
    "t=0 0",
    "a=tool:camstream",
    "a=sendonly",
    s!"m=video 0 RTP/AVP {payloadType source.format.pixelFormat config.payloadType}" ] ++
  mediaAttributes source.format.pixelFormat config.payloadType source.parameters

/-- The session description of a source. Every line ends in carriage return and line feed. -/
def text (source : VideoSource) (config : SessionConfig) : String :=
  String.join ((lines source config).map (· ++ "\r\n"))

end SessionDescription

end VideoCapture
