import RelayTunnel.Ascii
import RelayTunnel.Text.Utf8
import RelayTunnel.Text.Blank
import RelayTunnel.Text.Numeral
import RelayTunnel.Http.HeadBuffer
import RelayTunnel.Http.Framing
import RelayTunnel.Http.BodyReader
import RelayTunnel.Http.ChunkWriter
import RelayTunnel.Http.Drain
import RelayTunnel.Compression.Compressor
import RelayTunnel.Transcode.Duplex
import RelayTunnel.Url.Fault
import RelayTunnel.Url.Percent
import RelayTunnel.Url.Address
import RelayTunnel.Url.Punycode
import RelayTunnel.Url.DomainTables
import RelayTunnel.Url.Parse
import RelayTunnel.Time
import RelayTunnel.Timer
import RelayTunnel.Json.Reader
import RelayTunnel.Json.Skipped
import RelayTunnel.Json.Writer
import RelayTunnel.Config.File
import RelayTunnel.Cluster.Turn
import RelayTunnel.Station
import RelayTunnel.Rehearsal.Scenes
import RelayTunnel.Rehearsal.Drill
import RelayTunnel.Rehearsal.DryRun
import RelayTunnel.CommandLine.Usage
import RelayTunnel.Switchboard
import RelayTunnel.Main
import RelayTunnel.Proofs.Cluster.Effects
import RelayTunnel.Proofs.Cluster.Run
import RelayTunnel.Proofs.Cluster.History
import RelayTunnel.Proofs.Cluster.Timers
import RelayTunnel.Proofs.Cluster.FillPolicy
import RelayTunnel.Proofs.Cluster.Moves
import RelayTunnel.Proofs.Cluster.Destruction
import RelayTunnel.Proofs.Cluster.Crashes
import RelayTunnel.Proofs.Cluster.Chronicle
import RelayTunnel.Proofs.Cluster.RetryBudget
import RelayTunnel.Proofs.Cluster.Publication
import RelayTunnel.Proofs.Compression.BodyStream
import RelayTunnel.Proofs.Http.Absorption
import RelayTunnel.Proofs.Http.Stability
import RelayTunnel.Proofs.Transcode.Pumping
import RelayTunnel.Proofs.Transcode.Calls
import RelayTunnel.Proofs.Transcode.Verbatim
import RelayTunnel.Proofs.Transcode.LateRequests
import RelayTunnel.Proofs.Transcode.Recoding
import RelayTunnel.Proofs.Compression.BitStrings
import RelayTunnel.Proofs.Compression.Reading
import RelayTunnel.Proofs.Compression.Tokens
import RelayTunnel.Proofs.Cluster.Handover
import RelayTunnel.Proofs.Tunnel.Links
import RelayTunnel.Proofs.Tunnel.Running
import RelayTunnel.Proofs.Tunnel.TailFlush
import RelayTunnel.Proofs.Cluster.Endings
import RelayTunnel.Proofs.Cluster.IdleDemotion
import RelayTunnel.Proofs.Transcode.Codings
import RelayTunnel.Proofs.Tunnel.Passage
import RelayTunnel.Proofs.Tunnel.Answer
import RelayTunnel.Proofs.Tunnel.Delivery
import RelayTunnel.Proofs.Tunnel.Lifecycle
import RelayTunnel.Proofs.Tunnel.FirstPayload
import RelayTunnel.Proofs.Http.ChunkSteps
import RelayTunnel.Proofs.Http.BodyCuts
import RelayTunnel.Proofs.Http.HeadCuts
import RelayTunnel.Proofs.Http.ChunkGrammar
import RelayTunnel.Proofs.Http.ChunkLines
import RelayTunnel.Proofs.Http.ChunkAcceptance
import RelayTunnel.Proofs.Http.ChunkCompleteness
import RelayTunnel.Proofs.Http.ChunkRoundTrip
import RelayTunnel.Proofs.Config.Validation
import RelayTunnel.Proofs.Text.Numerals
import RelayTunnel.Proofs.Text.Utf8
import RelayTunnel.Proofs.Json.Strings
import RelayTunnel.Proofs.Json.Values
import RelayTunnel.Proofs.Config.Saved
import RelayTunnel.Proofs.Url.Visible
import RelayTunnel.Proofs.Url.Endpoints
import RelayTunnel.Proofs.Tunnel.OpeningLines
import RelayTunnel.Proofs.Http.HeadContents
import RelayTunnel.Proofs.Transcode.Decision
import RelayTunnel.Proofs.Http.HeadRoundTrip
import RelayTunnel.Proofs.Transcode.RecodedHeads
import RelayTunnel.Proofs.Transcode.EligibleResponses
import RelayTunnel.Proofs.Http.StatusLine
import RelayTunnel.Proofs.Tunnel.CutDismissals
import RelayTunnel.Proofs.Http.BodySessions
import RelayTunnel.Proofs.Http.TruncatedBodies
import RelayTunnel.Proofs.Transcode.StatedLengths
import RelayTunnel.Proofs.Http.HeadExtent
import RelayTunnel.Proofs.Tunnel.Contact
import RelayTunnel.Proofs.Tunnel.Silence
import RelayTunnel.Proofs.Cluster.Pruning
import RelayTunnel.Proofs.Compression.WordSearch
import RelayTunnel.Proofs.Http.ChunkCounter
import RelayTunnel.Proofs.Http.ReasonPhrase
import RelayTunnel.Proofs.Tunnel.Traffic
import RelayTunnel.Proofs.Transcode.Transcripts
import RelayTunnel.Proofs.Cluster.Expiries
