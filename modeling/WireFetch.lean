import WireFetch.Body
import WireFetch.Certificate.Basic
import WireFetch.CommandLine.Run
import WireFetch.Head.Basic
import WireFetch.Main
import WireFetch.Proofs.Body.Bare
import WireFetch.Proofs.Body.Coded
import WireFetch.Proofs.Body.Limit
import WireFetch.Proofs.CommandLine.Crash
import WireFetch.Proofs.CommandLine.ProxyAddress
import WireFetch.Proofs.CommandLine.Setting
import WireFetch.Proofs.Fetch.Closing
import WireFetch.Proofs.Fetch.Configuration
import WireFetch.Proofs.Fetch.Deadlines
import WireFetch.Proofs.Fetch.Routing
import WireFetch.Proofs.Fetch.Size
import WireFetch.Proofs.Head.Bare
import WireFetch.Proofs.Head.Bounded
import WireFetch.Proofs.Head.Captured
import WireFetch.Proofs.Head.Count
import WireFetch.Proofs.Head.Interim
import WireFetch.Proofs.Head.Printed
import WireFetch.Proofs.Head.Recovery
import WireFetch.Proofs.Reader.Pushback
import WireFetch.Proofs.Render.Arguments
import WireFetch.Proofs.Render.Deadline
import WireFetch.Proofs.Render.Screenshot
import WireFetch.Proofs.Request.Lines
import WireFetch.Proofs.Response.Continuation
import WireFetch.Proofs.Response.Message
import WireFetch.Proofs.Response.Segmentation
import WireFetch.Proofs.Time.Calendar
import WireFetch.Proofs.Time.HeaderForm
import WireFetch.Proofs.Time.RoundTrip
import WireFetch.Proofs.Tls.Offer
import WireFetch.Proofs.Url.AbsoluteForm
import WireFetch.Proofs.Url.Extension
import WireFetch.Request
import WireFetch.Strategy
import WireFetch.Target
import WireFetch.Text.FileStem
import WireFetch.Time.Parse
