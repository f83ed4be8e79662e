import VideoCapture.Mp4.Box
import VideoCapture.Mp4.Track

/-!
# Sample tables

Where the samples of a track lie in the file. Samples that follow each other without a gap form a chunk.
The tables hold the chunks' positions, the number of samples in each chunk as runs of equal numbers, every
sample's size, and the numbers of the samples that refresh the decoder.
-/

namespace VideoCapture

/-- One sample: its position in the file, its size, and whether it refreshes the decoder. -/
structure Sample where
  offset : Nat
  size : Nat
  isKeyframe : Bool
  deriving DecidableEq, Repr

namespace Sample

/-- The position behind a sample, in 64 bits as all positions are. -/
def stop (sample : Sample) : Nat :=
  (sample.offset + sample.size) % 0x10000000000000000

end Sample

/-- A run of samples without gaps between them. -/
structure Chunk where
  offset : Nat
  count : Nat
  deriving DecidableEq, Repr

namespace Chunk

/-- The chunks of a list of samples, in order. -/
def group : List Sample → List Chunk
  | [] => []
  | sample :: rest =>
    match group rest with
    | [] => [⟨sample.offset, 1⟩]
    | chunk :: chunks =>
      if sample.stop = chunk.offset then ⟨sample.offset, chunk.count + 1⟩ :: chunks
      else ⟨sample.offset, 1⟩ :: chunk :: chunks

end Chunk

/-- A run of chunks with equally many samples, from the chunk with number `first` on. -/
structure ChunkRun where
  first : Nat
  count : Nat
  deriving DecidableEq, Repr

namespace ChunkRun

/-- The runs of a list of chunks whose first one has the number `number` and follows a chunk with
`previous` samples. -/
def groupFrom (number : Nat) (previous : Option Nat) : List Chunk → List ChunkRun
  | [] => []
  | chunk :: chunks =>
    let rest := groupFrom (number + 1) (some chunk.count) chunks
    if previous = some chunk.count then rest else ⟨number, chunk.count⟩ :: rest

/-- The runs of a list of chunks. Chunks are numbered from one. -/
def group (chunks : List Chunk) : List ChunkRun :=
  groupFrom 1 none chunks

end ChunkRun

namespace SampleTable

/-- A table of numbered entries: their count, and then the entries. -/
def entries (items : List Bytes) : Bytes :=
  Bytes.be32 items.length ++ items.flatten

/-- The durations, which are the same for all samples. -/
def stts (count : Nat) : Bytes :=
  Box.buildFull (.ofChars 's' 't' 't' 's') 0 <|
    entries (if count = 0 then [] else [Bytes.be32 count ++ Bytes.be32 Track.sampleTicks])

/-- The number of samples in each chunk. -/
def stsc (chunks : List Chunk) : Bytes :=
  Box.buildFull (.ofChars 's' 't' 's' 'c') 0 <|
    entries ((ChunkRun.group chunks).map fun run =>
      Bytes.be32 run.first ++ Bytes.be32 run.count ++ Bytes.be32 1)

/-- The sizes of the samples. -/
def stsz (samples : List Sample) : Bytes :=
  Box.buildFull (.ofChars 's' 't' 's' 'z') 0 <|
    Bytes.be32 0 ++ entries (samples.map fun sample => Bytes.be32 sample.size)

/-- Whether some chunk lies beyond what a 32-bit position reaches. -/
def needsWideOffsets (chunks : List Chunk) : Bool :=
  chunks.any fun chunk => Track.maxField < chunk.offset

/-- The positions of the chunks, in 64 bits each if one of them needs it. -/
def chunkOffsets (chunks : List Chunk) : Bytes :=
  if needsWideOffsets chunks then
    Box.buildFull (.ofChars 'c' 'o' '6' '4') 0 <|
      entries (chunks.map fun chunk => Bytes.be64 chunk.offset)
  else
    Box.buildFull (.ofChars 's' 't' 'c' 'o') 0 <|
      entries (chunks.map fun chunk => Bytes.be32 chunk.offset)

/-- The numbers of the refreshing samples in a list that starts with sample number `number`. -/
def syncNumbers (number : Nat) : List Sample → List Nat
  | [] => []
  | sample :: rest =>
    if sample.isKeyframe then number :: syncNumbers (number + 1) rest
    else syncNumbers (number + 1) rest

/-- The samples that refresh the decoder, numbered from one. -/
def stss (samples : List Sample) : Bytes :=
  Box.buildFull (.ofChars 's' 't' 's' 's') 0 <|
    entries ((syncNumbers 1 samples).map Bytes.be32)

end SampleTable

end VideoCapture
