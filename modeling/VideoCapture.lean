import VideoCapture.AccessUnit
import VideoCapture.Bitstream.EmulationPrevention
import VideoCapture.Bitstream.NalUnit
import VideoCapture.Bitstream.StartCode
import VideoCapture.Bytes
import VideoCapture.Bytes.Base64
import VideoCapture.Bytes.Hex
import VideoCapture.Bytes.Log
import VideoCapture.Capture
import VideoCapture.Capture.Worker
import VideoCapture.Codec
import VideoCapture.Delivery.Fifo
import VideoCapture.Delivery.Queue
import VideoCapture.Delivery.SessionDescription
import VideoCapture.Delivery.Source
import VideoCapture.Device
import VideoCapture.Device.Frames
import VideoCapture.Device.Replay
import VideoCapture.Device.Script
import VideoCapture.Disk
import VideoCapture.Disk.Content
import VideoCapture.Disk.Path
import VideoCapture.Error
import VideoCapture.Host
import VideoCapture.Main
import VideoCapture.Mp4.Box
import VideoCapture.Mp4.Movie
import VideoCapture.Mp4.SampleTable
import VideoCapture.Mp4.Still
import VideoCapture.Mp4.Track
import VideoCapture.ParameterSets
import VideoCapture.ParameterSets.Avc
import VideoCapture.ParameterSets.Description
import VideoCapture.ParameterSets.Hevc
import VideoCapture.Program
import VideoCapture.Program.Arguments
import VideoCapture.Program.Memory
import VideoCapture.Proofs.Bitstream.AnnexB
import VideoCapture.Proofs.Bitstream.EmulationPrevention
import VideoCapture.Proofs.Bitstream.Gaps
import VideoCapture.Proofs.Bitstream.Grammar
import VideoCapture.Proofs.Bitstream.NalUnit
import VideoCapture.Proofs.Capture.Replay
import VideoCapture.Proofs.Device.AccessUnits
import VideoCapture.Proofs.Device.Frames
import VideoCapture.Proofs.Disk.Files
import VideoCapture.Proofs.Disk.Overwrite
import VideoCapture.Proofs.Disk.Path
import VideoCapture.Proofs.Disk.Sound
import VideoCapture.Proofs.Disk.WellFormed
import VideoCapture.Proofs.Mp4.Demux
import VideoCapture.Proofs.Mp4.Movie
import VideoCapture.Proofs.Mp4.Nesting
import VideoCapture.Proofs.Mp4.SampleTable
import VideoCapture.Proofs.ParameterSets.Configuration
import VideoCapture.Proofs.ParameterSets.Record
import VideoCapture.Proofs.Recording.Acceptance
import VideoCapture.Proofs.Recording.Calls
import VideoCapture.Proofs.Recording.Closing
import VideoCapture.Proofs.Recording.Finalize
import VideoCapture.Proofs.Recording.Outcome
import VideoCapture.Proofs.Recording.Phases
import VideoCapture.Proofs.Recording.RawStream
import VideoCapture.Proofs.Recording.Recoverable
import VideoCapture.Proofs.Recording.Registry
import VideoCapture.Proofs.Recording.RoundTrip
import VideoCapture.Proofs.Recording.Session
import VideoCapture.Proofs.Recording.Streaming
import VideoCapture.Proofs.Recording.Tuning
import VideoCapture.Proofs.Recording.WriteBuffer
import VideoCapture.Proofs.Splitter
import VideoCapture.Proofs.Splitter.Joining
import VideoCapture.Recording.Muxer
import VideoCapture.Recording.RawStream
import VideoCapture.Recording.Recorder
import VideoCapture.Recording.Registry
import VideoCapture.Recording.WriteBuffer
import VideoCapture.Splitter
import VideoCapture.StillStore
import VideoCapture.Proofs.Splitter.Keyframe
import VideoCapture.Proofs.Capture.Published
import VideoCapture.Proofs.Recording.Diagram
import VideoCapture.Proofs.Recording.Feeding
import VideoCapture.Proofs.Disk.Local
import VideoCapture.Proofs.Recording.Locality
import VideoCapture.Proofs.Recording.Order
import VideoCapture.Proofs.Recording.Handles
import VideoCapture.Proofs.Recording.LifeCycle
import VideoCapture.Proofs.Recording.Faults
import VideoCapture.Delivery.Handover
import VideoCapture.Proofs.Delivery.Accounting
import VideoCapture.Proofs.Capture.Isolation
import VideoCapture.Proofs.Delivery.Playback
import VideoCapture.Proofs.Recording.Buffering
import VideoCapture.Proofs.Recording.Still
import VideoCapture.Proofs.Splitter.Cuts
import VideoCapture.Proofs.Splitter.History
import VideoCapture.Proofs.Delivery.Conservation
import VideoCapture.Proofs.Bytes.Base64
import VideoCapture.Proofs.Delivery.Reception
import VideoCapture.Proofs.ParameterSets.Layout
import VideoCapture.Proofs.Disk.Replace
import VideoCapture.Proofs.Capture.Stills
import VideoCapture.Proofs.Disk.Bypass
import VideoCapture.Proofs.Recording.Rejection
import VideoCapture.Proofs.Recording.LaterSets
import VideoCapture.Proofs.Recording.Footprint
import VideoCapture.Proofs.Program.Input
import VideoCapture.Proofs.Device.Images
import VideoCapture.Proofs.Device.Reads
import VideoCapture.Proofs.Mp4.Lookup
import VideoCapture.Proofs.Capture.Recording
