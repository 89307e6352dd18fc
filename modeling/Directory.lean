import Directory.Filter.Printer
import Directory.Main
import Directory.Proofs.Text.Blank
import Directory.Proofs.Wire.ReadBack
import Directory.Proofs.Wire.Accepted
import Directory.Proofs.Wire.Extent
import Directory.Proofs.Wire.Elements
import Directory.Proofs.Wire.Rejected
import Directory.Proofs.Dn.ReadBack
import Directory.Proofs.Dn.Accepted
import Directory.Proofs.Dn.Spaces
import Directory.Proofs.Dn.Margins
import Directory.Proofs.Dn.Grammar
import Directory.Proofs.Dn.Hierarchy
import Directory.Proofs.Filter.ReadBack
import Directory.Proofs.Filter.Accepted
import Directory.Proofs.Filter.Grammar
import Directory.Proofs.Filter.Parsing
import Directory.Proofs.Filter.Printing
import Directory.Proofs.Filter.Depth
import Directory.Proofs.Ascending
import Directory.Proofs.Attributes
import Directory.Proofs.Attributes.Edits
import Directory.Proofs.Message.ReadBack
import Directory.Proofs.Message.Canonical
import Directory.Proofs.Message.Depth
import Directory.Proofs.Message.Layout
import Directory.Proofs.Message.Arrangement
import Directory.Proofs.Stream
import Directory.Proofs.Framing
import Directory.Proofs.Session.Effects
import Directory.Proofs.Session.Waiters
import Directory.Proofs.Session.Steps
import Directory.Proofs.Session.Calls
import Directory.Proofs.Session.Correlation
import Directory.Proofs.Session.Lifecycle
import Directory.Proofs.Session.Fatal
import Directory.Proofs.Session.Readers
import Directory.Proofs.Session.Traffic
import Directory.Proofs.Message.Sequence
import Directory.Proofs.Session.Isolation
import Directory.Proofs.Session.Release
import Directory.Proofs.Session.Identity
import Directory.Proofs.Session.Numbers
import Directory.Proofs.Session.Requests
import Directory.Proofs.Session.Course
import Directory.Proofs.Session.Pending
import Directory.Proofs.Session.Likeness
import Directory.Proofs.Session.Resilience
import Directory.Proofs.Session.Agreement
import Directory.Proofs.Session.Parallel
import Directory.Proofs.Session.Findings
import Directory.Proofs.Session.Rounds
import Directory.Proofs.Paging.Cookies
import Directory.Proofs.Paging.Entries
import Directory.Proofs.Session.Refusals
import Directory.Proofs.Session.Foreign
import Directory.Proofs.Session.Chunks
import Directory.Proofs.Session.Recorded
import Directory.Proofs.Session.Listening
import Directory.Proofs.Session.Collected
import Directory.Proofs.Session.Meaning
import Directory.Proofs.Paging.Pursuit
import Directory.Proofs.Session.Faithful
import Directory.Proofs.Session.Negotiation
import Directory.Proofs.Session.Abandonment
import Directory.Proofs.Paging.Collection
import Directory.Proofs.CommandLine.Searching
import Directory.Proofs.CommandLine.Adding
