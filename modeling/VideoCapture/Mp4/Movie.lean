import VideoCapture.Mp4.SampleTable

/-!
# Movie boxes

The boxes around the media data of a file with one video track: `ftyp`, which says what kind of file it
is, and `moov`, which describes the track and its samples.
-/

namespace VideoCapture.Movie

/-- The brands that a file follows, the main one first. -/
def ftyp : Bytes :=
  Box.build (.ofChars 'f' 't' 'y' 'p') <|
    Bytes.ofChars ['i', 's', 'o', 'm'] ++ Bytes.be32 0x200 ++
      Bytes.ofChars ['i', 's', 'o', 'm', 'i', 's', 'o', '2', 'a', 'v', 'c', '1', 'm', 'p', '4', '1']

/-- The transformation that leaves the picture as it is. -/
def unityMatrix : Bytes :=
  Bytes.be32 0x10000 ++ Bytes.zeros 12 ++ Bytes.be32 0x10000 ++ Bytes.zeros 12 ++ Bytes.be32 0x40000000

/-- The duration of `count` samples in ticks, as far as its field reaches. -/
def duration (count : Nat) : Nat :=
  min (count * Track.sampleTicks) Track.maxField

/-- Movie header: times, timescale and duration, normal rate and volume, and the next free track
number. -/
def mvhd (timescale duration : Nat) : Bytes :=
  Box.buildFull (.ofChars 'm' 'v' 'h' 'd') 0 <|
    Bytes.zeros 8 ++ Bytes.be32 timescale ++ Bytes.be32 duration ++ Bytes.be32 0x10000 ++
      Bytes.be16 0x100 ++ Bytes.zeros 10 ++ unityMatrix ++ Bytes.zeros 24 ++ Bytes.be32 2

/-- Track header of an enabled track: number one, duration, and the picture size in 16.16 fixed
point. -/
def tkhd (track : Track) (duration : Nat) : Bytes :=
  Box.buildFull (.ofChars 't' 'k' 'h' 'd') 3 <|
    Bytes.zeros 8 ++ Bytes.be32 1 ++ Bytes.zeros 4 ++ Bytes.be32 duration ++ Bytes.zeros 16 ++
      unityMatrix ++ Bytes.be32 (track.width * 0x10000) ++ Bytes.be32 (track.height * 0x10000)

/-- Media header: times, timescale, duration, and no language. -/
def mdhd (timescale duration : Nat) : Bytes :=
  Box.buildFull (.ofChars 'm' 'd' 'h' 'd') 0 <|
    Bytes.zeros 8 ++ Bytes.be32 timescale ++ Bytes.be32 duration ++ Bytes.be16 0x55C4 ++ Bytes.zeros 2

/-- Handler: the media are video. -/
def hdlr : Bytes :=
  Box.buildFull (.ofChars 'h' 'd' 'l' 'r') 0 <|
    Bytes.zeros 4 ++ Bytes.ofChars ['v', 'i', 'd', 'e'] ++ Bytes.zeros 12 ++
      Bytes.ofChars ['V', 'i', 'd', 'e', 'o', 'H', 'a', 'n', 'd', 'l', 'e', 'r'] ++ [0]

/-- Video media header. -/
def vmhd : Bytes :=
  Box.buildFull (.ofChars 'v' 'm' 'h' 'd') 1 (Bytes.zeros 8)

/-- Where the media data are: in this file. -/
def dinf : Bytes :=
  Box.build (.ofChars 'd' 'i' 'n' 'f') <|
    Box.buildFull (.ofChars 'd' 'r' 'e' 'f') 0 <|
      Bytes.be32 1 ++ Box.buildFull (.ofChars 'u' 'r' 'l' ' ') 1 []

/-- The type of a codec's sample entry. -/
def entryType : Codec → FourCC
  | .h264 => .ofChars 'a' 'v' 'c' '1'
  | .h265 => .ofChars 'h' 'v' 'c' '1'

/-- The type of the box that holds a codec's decoder configuration. -/
def configurationType : Codec → FourCC
  | .h264 => .ofChars 'a' 'v' 'c' 'C'
  | .h265 => .ofChars 'h' 'v' 'c' 'C'

/-- Sample description: picture size, 72 dots per inch, 24-bit colour, and the decoder configuration. -/
def stsd (track : Track) (configuration : Bytes) : Bytes :=
  Box.buildFull (.ofChars 's' 't' 's' 'd') 0 <|
    Bytes.be32 1 ++ Box.build (entryType track.codec)
      (Bytes.zeros 6 ++ Bytes.be16 1 ++ Bytes.zeros 16 ++ Bytes.be16 track.width ++
        Bytes.be16 track.height ++ Bytes.be32 0x480000 ++ Bytes.be32 0x480000 ++ Bytes.zeros 4 ++
        Bytes.be16 1 ++ Bytes.zeros 32 ++ Bytes.be16 0x18 ++ Bytes.be16 0xFFFF ++
        Box.build (configurationType track.codec) configuration)

/-- Sample table box. -/
def stbl (track : Track) (configuration : Bytes) (samples : List Sample) : Bytes :=
  let chunks := Chunk.group samples
  Box.build (.ofChars 's' 't' 'b' 'l') <|
    stsd track configuration ++ SampleTable.stts samples.length ++ SampleTable.stsc chunks ++
      SampleTable.stsz samples ++ SampleTable.chunkOffsets chunks ++ SampleTable.stss samples

/-- Media information box. -/
def minf (track : Track) (configuration : Bytes) (samples : List Sample) : Bytes :=
  Box.build (.ofChars 'm' 'i' 'n' 'f') <|
    vmhd ++ dinf ++ stbl track configuration samples

/-- Media box. -/
def mdia (track : Track) (configuration : Bytes) (samples : List Sample) : Bytes :=
  Box.build (.ofChars 'm' 'd' 'i' 'a') <|
    mdhd track.timescale (duration samples.length) ++ hdlr ++ minf track configuration samples

/-- Track box. -/
def trak (track : Track) (configuration : Bytes) (samples : List Sample) : Bytes :=
  Box.build (.ofChars 't' 'r' 'a' 'k') <|
    tkhd track (duration samples.length) ++ mdia track configuration samples

/-- The movie box of a track with a given decoder configuration. -/
def moovWith (track : Track) (configuration : Bytes) (samples : List Sample) : Bytes :=
  Box.build (.ofChars 'm' 'o' 'o' 'v') <|
    mvhd track.timescale (duration samples.length) ++ trak track configuration samples

/-- The movie box of a track. It exists when the decoder configuration does. -/
def moov (track : Track) (samples : List Sample) : Except CaptureError Bytes := do
  let configuration ← track.sets.decoderConfiguration track.codec
  return moovWith track configuration samples

end VideoCapture.Movie
