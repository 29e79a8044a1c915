import LinkedSelect.Assoc
import LinkedSelect.Binary64.Basic
import LinkedSelect.Binary64.Shortest
import LinkedSelect.Call
import LinkedSelect.Certificate.Der
import LinkedSelect.Certificate.Pem
import LinkedSelect.Choice
import LinkedSelect.Dataset
import LinkedSelect.Document
import LinkedSelect.Environment
import LinkedSelect.Event
import LinkedSelect.Failure
import LinkedSelect.Field
import LinkedSelect.Form
import LinkedSelect.Http.Client
import LinkedSelect.Http.Cookie
import LinkedSelect.Http.Header
import LinkedSelect.Http.Network
import LinkedSelect.Http.Server
import LinkedSelect.Http.Status
import LinkedSelect.Json.Choice
import LinkedSelect.Json.ChoiceList
import LinkedSelect.Json.Fault
import LinkedSelect.Json.Member
import LinkedSelect.Json.Number
import LinkedSelect.Json.Octet
import LinkedSelect.Json.Text
import LinkedSelect.Json.Walk
import LinkedSelect.Level
import LinkedSelect.Page
import LinkedSelect.Reply
import LinkedSelect.ReplyTable
import LinkedSelect.Request
import LinkedSelect.Select
import LinkedSelect.Session
import LinkedSelect.Text.Base64
import LinkedSelect.Text.Canonical
import LinkedSelect.Text.CodeTable
import LinkedSelect.Text.CombiningClass
import LinkedSelect.Text.Extender
import LinkedSelect.Text.Hex
import LinkedSelect.Text.Mark
import LinkedSelect.Text.Normal
import LinkedSelect.Text.Percent
import LinkedSelect.Text.Quoted
import LinkedSelect.Text.Runs
import LinkedSelect.Text.Split
import LinkedSelect.Text.Unprintable
import LinkedSelect.Text.Utf8
import LinkedSelect.Url.Basic
import LinkedSelect.Url.Domain
import LinkedSelect.Url.Domain.Direction
import LinkedSelect.Url.Domain.Excluded
import LinkedSelect.Url.Domain.Joining
import LinkedSelect.Url.Domain.Mapping
import LinkedSelect.Url.Encoding
import LinkedSelect.Url.Error
import LinkedSelect.Url.Host
import LinkedSelect.Url.Parse
import LinkedSelect.Url.Punycode
import LinkedSelect.Proofs.Course
import LinkedSelect.Proofs.Deed
import LinkedSelect.Proofs.Generation
import LinkedSelect.Proofs.History
import LinkedSelect.Proofs.Origin
import LinkedSelect.Proofs.Replies
import LinkedSelect.Proofs.Settling
import LinkedSelect.Proofs.Stranding
import LinkedSelect.Proofs.Superseding
import LinkedSelect.Proofs.Waiting
import LinkedSelect.Proofs.Offered
import LinkedSelect.Proofs.Erasure
import LinkedSelect.Proofs.Prompt
import LinkedSelect.Proofs.Gap
import LinkedSelect.Proofs.Crowd
import LinkedSelect.Proofs.Interleaving
import LinkedSelect.Proofs.Account
import LinkedSelect.Proofs.Awaited
import LinkedSelect.Proofs.Forgetting
import LinkedSelect.Proofs.Restoring
import LinkedSelect.Proofs.Text.Utf8
import LinkedSelect.Proofs.Binary64
import LinkedSelect.Proofs.Json.Grammar
import LinkedSelect.Proofs.Json.Strings
import LinkedSelect.Proofs.Json.Numbers
import LinkedSelect.Proofs.Json.Scaling
import LinkedSelect.Proofs.Json.Conversion
import LinkedSelect.Proofs.Json.Listing
import LinkedSelect.Proofs.Json.Skipping
import LinkedSelect.Proofs.Json.Reading
import LinkedSelect.Proofs.Json.Writing
import LinkedSelect.Proofs.Url.Ends
import LinkedSelect.Proofs.Url.Component
import LinkedSelect.Proofs.Representation
import LinkedSelect.Proofs.Frame
import LinkedSelect.Proofs.Decoding
import LinkedSelect.Proofs.Filtered
import LinkedSelect.Proofs.Text.Percent
import LinkedSelect.Proofs.Target
import LinkedSelect.Proofs.Http.Settings
import LinkedSelect.Proofs.Http.Fetching
import LinkedSelect.Proofs.Strand
import LinkedSelect.Proofs.Cascading
import LinkedSelect.Proofs.Selection
import LinkedSelect.Proofs.Environment
