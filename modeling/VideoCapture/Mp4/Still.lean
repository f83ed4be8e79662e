import VideoCapture.AccessUnit
import VideoCapture.Mp4.Movie

/-!
# Still files

An MP4 file with a single sample, complete in itself: `ftyp`, `moov`, `mdat`. The sample lies behind the
`moov` box that says where it lies, so that box is laid out twice: once to learn its length, which does
not depend on the position it holds, and once with the right position.
-/

namespace VideoCapture.Still

/-- The file that holds one access unit as its only sample. -/
def file (track : Track) (unit : AccessUnit) : Except CaptureError Bytes := do
  track.validate
  let payload := unit.toSample
  let draft ← Movie.moov track [⟨0, payload.length, true⟩]
  let offset := Movie.ftyp.length + draft.length + Box.headerSize
  let moov ← Movie.moov track [⟨offset, payload.length, true⟩]
  return Movie.ftyp ++ moov ++ Box.mdatHeader (Box.headerSize + payload.length) ++ payload

end VideoCapture.Still
