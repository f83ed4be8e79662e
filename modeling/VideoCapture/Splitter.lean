import VideoCapture.AccessUnit
import VideoCapture.ParameterSets.Description

/-!
# Splitting capture buffers

A capture buffer is a byte stream that holds about one picture. Splitting it sorts its NAL units into
what is delivered, what is recorded and what is remembered:

* delivered are all units, in order, with the remembered parameter sets repeated in front of each
  refresh slice if that is asked for and they are complete;
* recorded are all units but the parameter sets, as one access unit;
* remembered are the latest parameter sets and the latest key picture.
-/

namespace VideoCapture

/-- What one capture buffer was split into. -/
structure SplitFrame where
  /-- The units to deliver. -/
  units : List Bytes := []
  /-- The units to record. -/
  accessUnit : AccessUnit := {}
  /-- Whether some parameter set differed from the remembered one. -/
  setsChanged : Bool := false
  deriving DecidableEq, Repr

namespace SplitFrame

/-- The split of a buffer that starts with a parameter set. -/
def consSet (changed : Bool) (nal : Bytes) (tail : SplitFrame) : SplitFrame :=
  { tail with
    units := nal :: tail.units
    setsChanged := changed || tail.setsChanged }

/-- The split of a buffer that starts with a picture unit, with `repeated` delivered in front of it. -/
def consUnit (repeated : List Bytes) (key : Bool) (nal : Bytes) (tail : SplitFrame) : SplitFrame :=
  { tail with
    units := repeated ++ nal :: tail.units
    accessUnit := ⟨nal :: tail.accessUnit.nals, key || tail.accessUnit.isKeyframe⟩ }

end SplitFrame

/-- What a splitter is set to and what it remembers. -/
structure Splitter where
  codec : Codec
  /-- Whether parameter sets are repeated in front of refresh slices. -/
  repeatSets : Bool := false
  sets : ParameterSets := {}
  /-- The latest key picture as a byte stream, its parameter sets in front. -/
  lastKeyframe : Option Bytes := none
  frames : Nat := 0
  keyframes : Nat := 0
  deriving DecidableEq, Repr

namespace Splitter

/-- The sets to deliver in front of a refresh slice. -/
def repeatedSets (codec : Codec) (repeatSets : Bool) (sets : ParameterSets) : List Bytes :=
  if repeatSets then (sets.ordered codec).toOption.getD [] else []

/-- Splits a list of NAL units, given the parameter sets that are remembered before the first of them,
and gives the sets that are remembered behind the last. -/
def splitUnits (codec : Codec) (repeatSets : Bool) :
    ParameterSets → List Bytes → SplitFrame × ParameterSets
  | sets, [] => ({}, sets)
  | sets, nal :: rest =>
    match codec.kindOf nal with
    | .parameterSet kind =>
      let (tail, after) := splitUnits codec repeatSets (sets.put kind nal) rest
      (tail.consSet (sets.changedBy kind nal) nal, after)
    | .refresh =>
      let (tail, after) := splitUnits codec repeatSets sets rest
      (tail.consUnit (repeatedSets codec repeatSets sets) true nal, after)
    | .slice | .other =>
      let (tail, after) := splitUnits codec repeatSets sets rest
      (tail.consUnit [] false nal, after)

/-- A key picture as a byte stream, with the parameter sets in front of it if they are complete. -/
def keyframeStream (codec : Codec) (sets : ParameterSets) (unit : AccessUnit) : Bytes :=
  (sets.annexB codec).toOption.getD [] ++ unit.toAnnexB

/-- Splits one capture buffer. -/
def split (splitter : Splitter) (buffer : Bytes) : SplitFrame × Splitter :=
  let (frame, sets) :=
    splitUnits splitter.codec splitter.repeatSets splitter.sets (NalUnit.payloads buffer)
  let counted := { splitter with sets, frames := splitter.frames + 1 }
  if frame.accessUnit.isKeyframe then
    (frame, { counted with
      keyframes := splitter.keyframes + 1
      lastKeyframe := some (keyframeStream splitter.codec sets frame.accessUnit) })
  else (frame, counted)

/-- The format parameters of a session description, once the remembered sets allow them. -/
def formatParameters? (splitter : Splitter) : Option String :=
  (splitter.sets.formatParameters splitter.codec).toOption

end Splitter

end VideoCapture
