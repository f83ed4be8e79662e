import VideoCapture.Error
import VideoCapture.Bitstream.NalUnit

/-!
# Parameter sets

The parameter sets that were seen last in a stream, one for each kind, as whole NAL units. A new set
replaces the old one of its kind, and nothing is merged. An empty set counts as missing.
-/

namespace VideoCapture

/-- The latest parameter set of each kind. -/
structure ParameterSets where
  vps : Option Bytes := none
  sps : Option Bytes := none
  pps : Option Bytes := none
  deriving DecidableEq, Repr

namespace ParameterSets

/-- No parameter set seen yet. -/
def empty : ParameterSets := {}

/-- The sets of an H.264 stream. -/
def ofH264 (sps pps : Bytes) : ParameterSets :=
  { sps := some sps, pps := some pps }

/-- The sets of an H.265 stream. -/
def ofH265 (vps sps pps : Bytes) : ParameterSets :=
  { vps := some vps, sps := some sps, pps := some pps }

/-- What is stored for a kind, empty or not. -/
def slot (sets : ParameterSets) : ParameterSetKind → Option Bytes
  | .vps => sets.vps
  | .sps => sets.sps
  | .pps => sets.pps

/-- The sets after `value` was stored for a kind. -/
def setSlot (sets : ParameterSets) (kind : ParameterSetKind) (value : Option Bytes) : ParameterSets :=
  match kind with
  | .vps => { sets with vps := value }
  | .sps => { sets with sps := value }
  | .pps => { sets with pps := value }

/-- The sets after a NAL unit of a kind was seen. -/
def put (sets : ParameterSets) (kind : ParameterSetKind) (nal : Bytes) : ParameterSets :=
  sets.setSlot kind (some nal)

/-- A slot has the value that it was given. -/
@[simp] theorem slot_setSlot_self (sets : ParameterSets) (kind : ParameterSetKind)
    (value : Option Bytes) : (sets.setSlot kind value).slot kind = value := by
  cases kind <;> rfl

/-- The other slots keep their values. -/
theorem slot_setSlot_of_ne (sets : ParameterSets) {kind other : ParameterSetKind}
    (different : other ≠ kind) (value : Option Bytes) :
    (sets.setSlot kind value).slot other = sets.slot other := by
  cases kind <;> cases other <;> simp_all [setSlot, slot]

/-- Whether a NAL unit differs from the set that is stored for its kind. -/
def changedBy (sets : ParameterSets) (kind : ParameterSetKind) (nal : Bytes) : Bool :=
  sets.slot kind != some nal

/-- The usable set of a kind. -/
def get? (sets : ParameterSets) (kind : ParameterSetKind) : Option Bytes :=
  (sets.slot kind).filter fun nal => !nal.isEmpty

/-- The usable set of a kind, or the error that it is missing. -/
def require (sets : ParameterSets) (kind : ParameterSetKind) : Except CaptureError Bytes :=
  match sets.get? kind with
  | some nal => .ok nal
  | none => .error (.missingParameterSet kind)

/-- The first set that a codec needs and that is missing. -/
def missing? (sets : ParameterSets) (codec : Codec) : Option ParameterSetKind :=
  codec.requiredSets.find? fun kind => (sets.get? kind).isNone

/-- Whether nothing is missing that a codec needs. -/
def isComplete (sets : ParameterSets) (codec : Codec) : Bool :=
  (sets.missing? codec).isNone

/-- The sets that a codec needs, in decoding order. -/
def ordered (sets : ParameterSets) (codec : Codec) : Except CaptureError (List Bytes) :=
  codec.requiredSets.mapM sets.require

/-- The sets that a codec needs, as a byte stream. -/
def annexB (sets : ParameterSets) (codec : Codec) : Except CaptureError Bytes :=
  (sets.ordered codec).map NalUnit.annexB

end ParameterSets

end VideoCapture
