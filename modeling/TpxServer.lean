import TpxServer.Lib.Epochs
import TpxServer.Udp.Decoder
import TpxServer.Udp.Reset
import TpxServer.Udp.Manager
import TpxServer.Udp.RawFile
import TpxServer.Clustering.Cluster
import TpxServer.Clustering.Manager
import TpxServer.Clustering.Charge
import TpxServer.Clustering.Merging
import TpxServer.Comms.Codes
import TpxServer.Comms.State
import TpxServer.Lib.Runs
import TpxServer.Comms.Timepix
import TpxServer.Comms.Client
import TpxServer.Comms.Loop
import TpxServer.Comms.Cancel
import TpxServer.Comms.Packets
import TpxServer.Comms.Steps
import TpxServer.Comms.Requests
import TpxServer.Comms.Progress
import TpxServer.Comms.Segments
import TpxServer.Comms.Answers
import TpxServer.Comms.InFlight
import TpxServer.Comms.Spidr
import TpxServer.Comms.Forwarding
import TpxServer.Comms.Replies
import TpxServer.Comms.InputServers
import TpxServer.Lib.Gather
import TpxServer.Clustering.Staleness
import TpxServer.Clustering.SaveFile
import TpxServer.Clustering.Window
import TpxServer.Comms.ResponseAccess
import TpxServer.Comms.RequestAccess
import TpxServer.Comms.CommandSize
import TpxServer.Clustering.Construction
import TpxServer.Clustering.StorageOrder
import TpxServer.Clustering.Sweep
import TpxServer.Clustering.MergeTarget
import TpxServer.Clustering.Centroid
import TpxServer.Clustering.Divisors
import TpxServer.Clustering.Parameters
import TpxServer.Histogram.Manager
import TpxServer.Udp.Repacking
import TpxServer.Lib.PubSub
import TpxServer.Clustering.Session
import TpxServer.Measuring.System
import TpxServer.Measuring.Delivery
import TpxServer.Measuring.Lossless
import TpxServer.Measuring.TrueHits
import TpxServer.Measuring.Threads
import TpxServer.Measuring.Refinement
import TpxServer.Measuring.Turns
import TpxServer.Comms.StepFrames
import TpxServer.Ui.Panels
import TpxServer.Ui.MainWindow
import TpxServer.Ui.Lifecycle
import TpxServer.Ui.Stopping
import TpxServer.Ui.Log
import TpxServer.Control.Live
import TpxServer.Control.Blocking
import TpxServer.Comms.DummySpidr
import TpxServer.Comms.Relaying
import TpxServer.Dummy.System
import TpxServer.Dummy.Stages
import TpxServer.Dummy.Refinement
import TpxServer.Dummy.Progress
