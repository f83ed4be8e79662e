import VideoCapture.Codec
import VideoCapture.Bitstream.NalUnit
import VideoCapture.Mp4.Box

/-!
# Frames of a recorded stream

A file with a recorded stream is cut into what a camera would deliver at once. A byte stream is cut into
access units, each of which starts at the start code of its first NAL unit and reaches up to the next. A
file of JPEG images is cut into images, each from its start marker to the next end marker.
-/

namespace VideoCapture.Frames

/-- Cuts a byte stream that ends at `stop`. The open access unit, if there is one, begins at `start`, and
`hasSlice` tells whether it holds picture data. A new unit begins behind picture data: with anything that
carries no picture data, or with the first slice of another picture. -/
def accessUnitsFrom (codec : Codec) (stop : Nat) (start : Option Nat) (hasSlice : Bool) :
    List (Nat × NalUnit) → List Span
  | [] => (start.map fun start => ⟨start, stop⟩).toList
  | (position, nal) :: rest =>
    let picture := codec.carriesPicture nal.header
    let boundary := hasSlice && (!picture || codec.startsPicture nal.payload)
    match start, boundary with
    | some begun, true =>
      ⟨begun, position⟩ :: accessUnitsFrom codec stop (some position) picture rest
    | _, _ =>
      accessUnitsFrom codec stop (some (start.getD position)) (hasSlice || picture) rest

/-- The access units of a byte stream. -/
def accessUnits (codec : Codec) (data : Bytes) : List Span :=
  accessUnitsFrom codec data.length none false (NalUnit.locatedFrom 0 data)

/-- The images in a byte string that stands at `position` in a larger one. The image that has begun, if
one has, began at `start`. An image without an end does not count. -/
def imagesFrom (start : Option Nat) (position : Nat) : Bytes → List Span
  | a :: b :: rest =>
    match start with
    | none =>
      if a = 0xFF ∧ b = 0xD8 then imagesFrom (some position) (position + 2) rest
      else imagesFrom none (position + 1) (b :: rest)
    | some begun =>
      if a = 0xFF ∧ b = 0xD9 then ⟨begun, position + 2⟩ :: imagesFrom none (position + 2) rest
      else imagesFrom start (position + 1) (b :: rest)
  | _ => []

/-- The JPEG images in a byte string. -/
def images (data : Bytes) : List Span :=
  imagesFrom none 0 data

end VideoCapture.Frames
