import TenderClient.Unicode.Runs
import TenderClient.Unicode.Category
import TenderClient.Unicode.Bidi
import TenderClient.Unicode.Joining
import TenderClient.Unicode.Normalize
import TenderClient.Text.Blank
import TenderClient.Text.Digits
import TenderClient.Ident
import TenderClient.Tag
import TenderClient.User
import TenderClient.Decimal.Shortest
import TenderClient.Decimal.FloatText
import TenderClient.Text.Utf8
import TenderClient.Text.Quote
import TenderClient.Decode.Problem
import TenderClient.Json.Value
import TenderClient.Json.Error
import TenderClient.Json.Reader
import TenderClient.Follower.IdSet
import TenderClient.Follower.Payload
import TenderClient.Follower.Diff
import TenderClient.Follower.Store
import TenderClient.Json.Encode
import TenderClient.Json.Decode
import TenderClient.Json.FromValue
import TenderClient.Text.Replace
import TenderClient.Text.Percent
import TenderClient.Web.Cookie
import TenderClient.Config.Basic
import TenderClient.Config.Json
import TenderClient.Yaml.Syntax
import TenderClient.Yaml.Token
import TenderClient.Yaml.Event
import TenderClient.Yaml.Scalar
import TenderClient.Yaml.Document
import TenderClient.Yaml.Read
import TenderClient.Yaml.Write
import TenderClient.Config.Yaml
import TenderClient.Config.File
import TenderClient.Web.Idna.Mapping
import TenderClient.Web.Idna.Punycode
import TenderClient.Web.Idna.ToAscii
import TenderClient.Web.Url
import TenderClient.Web.Request
import TenderClient.Sync.Error
import TenderClient.Sync.Server
import TenderClient.Sync.Session
import TenderClient.Cli.Similar
import TenderClient.Cli.Grammar
import TenderClient.Cli.Help
import TenderClient.Cli.Parse
import TenderClient.Cli.Report
import TenderClient.Cli.Table
import TenderClient.Cli.Program
import TenderClient.Cli.Run
import TenderClient.Main
import TenderClient.Proofs.Follower.Canonical
import TenderClient.Proofs.Follower.StoreReach
import TenderClient.Proofs.Follower.Seed
import TenderClient.Proofs.Follower.LastChange
import TenderClient.Proofs.Follower.StoreCalls
import TenderClient.Proofs.Follower.Commit
import TenderClient.Proofs.Json.PayloadText
import TenderClient.Proofs.Sync.Save
import TenderClient.Proofs.Sync.SessionReach
import TenderClient.Proofs.Sync.SessionRun
import TenderClient.Proofs.Sync.Requests
import TenderClient.Proofs.Cli.FollowersEdit
import TenderClient.Proofs.Text.IdentText
import TenderClient.Proofs.Json.ReaderSteps
import TenderClient.Proofs.Json.ScalarRead
import TenderClient.Proofs.Json.IdentValue
import TenderClient.Proofs.Json.RecordRead
import TenderClient.Proofs.Yaml.ReadSteps
import TenderClient.Proofs.Yaml.WrittenScalar
import TenderClient.Proofs.Yaml.WrittenNode
import TenderClient.Proofs.Config.YamlRoundTrip
import TenderClient.Proofs.Config.Url
import TenderClient.Proofs.Text.CharBoundary
import TenderClient.Proofs.Web.CookieHeader
import TenderClient.Proofs.Sync.Tagging
