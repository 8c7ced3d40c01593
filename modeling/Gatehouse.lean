import Gatehouse.Access.ApiTokens
import Gatehouse.Access.Error
import Gatehouse.Access.Flow
import Gatehouse.Access.Ledger
import Gatehouse.Access.Login
import Gatehouse.Access.Occasion
import Gatehouse.Access.Principal
import Gatehouse.Access.Session
import Gatehouse.Api.App
import Gatehouse.Api.Body
import Gatehouse.Api.Document
import Gatehouse.Api.Endpoint
import Gatehouse.CommandLine.Options
import Gatehouse.CommandLine.Parser
import Gatehouse.CommandLine.Program
import Gatehouse.CommandLine.Spec
import Gatehouse.Config
import Gatehouse.Config.Document
import Gatehouse.Credential.Password
import Gatehouse.Credential.SecondFactor
import Gatehouse.Digest.Argon2
import Gatehouse.Digest.Blake2b
import Gatehouse.Digest.Hmac
import Gatehouse.Digest.Sha1
import Gatehouse.Digest.Sha2
import Gatehouse.Encoding.Base32
import Gatehouse.Encoding.Base64
import Gatehouse.Encoding.Hex
import Gatehouse.Encoding.Percent
import Gatehouse.Forward.Decision
import Gatehouse.Forward.Engine
import Gatehouse.Forward.Report
import Gatehouse.Forward.Request
import Gatehouse.Forward.Rules
import Gatehouse.Http.Cookie
import Gatehouse.Http.Document
import Gatehouse.Http.Header
import Gatehouse.Http.MediaType
import Gatehouse.Http.Response
import Gatehouse.Http.Target
import Gatehouse.Identification
import Gatehouse.Json.Form
import Gatehouse.Json.Lookup
import Gatehouse.Json.Parser
import Gatehouse.Json.Printer
import Gatehouse.Json.Record
import Gatehouse.Json.Value
import Gatehouse.Launch
import Gatehouse.Logging.Export
import Gatehouse.Logging.Filter
import Gatehouse.Logging.Level
import Gatehouse.Main
import Gatehouse.Net.Address
import Gatehouse.Net.ClientAddress
import Gatehouse.Net.Network
import Gatehouse.Net.ServerName
import Gatehouse.Pattern.CharClass
import Gatehouse.Pattern.Form
import Gatehouse.Pattern.Memory
import Gatehouse.Pattern.Node
import Gatehouse.Pattern.Parser
import Gatehouse.Permission.Resolver
import Gatehouse.Permission.Tree
import Gatehouse.Policy.Answer
import Gatehouse.Policy.Input
import Gatehouse.Policy.Remote
import Gatehouse.Redirect
import Gatehouse.Startup
import Gatehouse.Store.Action
import Gatehouse.Store.Document
import Gatehouse.Store.Memory
import Gatehouse.Store.Model
import Gatehouse.Store.Outage
import Gatehouse.Store.Register
import Gatehouse.Table
import Gatehouse.Text.Blank
import Gatehouse.Text.Bytes
import Gatehouse.Text.Decimal
import Gatehouse.Text.Quoted
import Gatehouse.Text.Split
import Gatehouse.Token.Claims
import Gatehouse.Token.Identifier
import Gatehouse.Token.Issuer
import Gatehouse.Token.Opaque
import Gatehouse.Token.Signed
import Gatehouse.Unicode.Age
import Gatehouse.Unicode.CaseFolding
import Gatehouse.Unicode.Category
import Gatehouse.Unicode.Normalization
import Gatehouse.Unicode.Property
import Gatehouse.Unicode.Script
import Gatehouse.Unicode.Segmentation
import Gatehouse.Unicode.Table
import Gatehouse.Url.Host
import Gatehouse.Url.Idna
import Gatehouse.Url.Idna.Tables
import Gatehouse.Url.Parser
import Gatehouse.Url.Path
import Gatehouse.Url.Punycode
import Gatehouse.Word
import Gatehouse.Proofs.Access.Family
import Gatehouse.Proofs.Access.Flow
import Gatehouse.Proofs.Access.Interference
import Gatehouse.Proofs.Access.Interleaving
import Gatehouse.Proofs.Access.Ledger
import Gatehouse.Proofs.Access.Login
import Gatehouse.Proofs.Access.Purpose
import Gatehouse.Proofs.Access.RecoveryCodes
import Gatehouse.Proofs.Access.Requests
import Gatehouse.Proofs.Access.Revocation
import Gatehouse.Proofs.Access.Run
import Gatehouse.Proofs.Access.SecondFactor
import Gatehouse.Proofs.Access.SecondStep
import Gatehouse.Proofs.Access.Serving
import Gatehouse.Proofs.Access.Session
import Gatehouse.Proofs.Access.Success
import Gatehouse.Proofs.Credential.Password
import Gatehouse.Proofs.Credential.RecoveryCode
import Gatehouse.Proofs.Encoding.Base64
import Gatehouse.Proofs.Except
import Gatehouse.Proofs.Forward.Engine
import Gatehouse.Proofs.Forward.PolicyLines
import Gatehouse.Proofs.Forward.Response
import Gatehouse.Proofs.Forward.Rules
import Gatehouse.Proofs.Http.Cookie
import Gatehouse.Proofs.Http.Header
import Gatehouse.Proofs.Json.RoundTrip
import Gatehouse.Proofs.Net.ClientAddress
import Gatehouse.Proofs.Store.Exchange
import Gatehouse.Proofs.Store.Interference
import Gatehouse.Proofs.Store.RecoveryCodes
import Gatehouse.Proofs.Text.Decimal
import Gatehouse.Proofs.Text.LetterCase
import Gatehouse.Proofs.Text.Split
import Gatehouse.Proofs.Token.Claims
import Gatehouse.Proofs.Token.Issuer
import Gatehouse.Proofs.Token.Signed
import Gatehouse.Proofs.Token.Verification
import Gatehouse.Proofs.Store.ApiTokens
import Gatehouse.Proofs.Access.ApiTokens
import Gatehouse.Proofs.Api.Effect
import Gatehouse.Proofs.Api.Authority
import Gatehouse.Proofs.Access.Deeds
import Gatehouse.Proofs.Access.Lifecycle
import Gatehouse.Proofs.Forward.Portrait
import Gatehouse.Proofs.Permission.Resolver
import Gatehouse.Proofs.Api.Attenuation
import Gatehouse.Proofs.Api.Introspection
import Gatehouse.Proofs.Store.Failures
import Gatehouse.Proofs.Access.Failures
import Gatehouse.Proofs.Forward.Failures
import Gatehouse.Proofs.Api.Failures
import Gatehouse.Proofs.Access.Minting
import Gatehouse.Proofs.Access.Logout
import Gatehouse.Proofs.Access.Handout
import Gatehouse.Proofs.Access.Provenance
import Gatehouse.Proofs.Net.Mapped
import Gatehouse.Proofs.Forward.MappedPeers
import Gatehouse.Proofs.Forward.ForgedLines
import Gatehouse.Proofs.Http.CookieJar
import Gatehouse.Proofs.Access.CookieRoundTrip
import Gatehouse.Proofs.Store.Listing
import Gatehouse.Proofs.Access.TokenRequests
import Gatehouse.Proofs.Access.TokenWorlds
import Gatehouse.Proofs.Access.Noninterference
import Gatehouse.Proofs.Permission.Tree
import Gatehouse.Proofs.Permission.Building
import Gatehouse.Proofs.Permission.Expansion
import Gatehouse.Proofs.Permission.Repetition
import Gatehouse.Proofs.Policy.Input
import Gatehouse.Proofs.Forward.Withheld
import Gatehouse.Proofs.Permission.Insertion
import Gatehouse.Proofs.Net.Walk
import Gatehouse.Proofs.Text.Affix
import Gatehouse.Proofs.Redirect
import Gatehouse.Proofs.Forward.Redirection
import Gatehouse.Proofs.Access.Redirects
import Gatehouse.Proofs.Access.Credentials
import Gatehouse.Proofs.Access.RoleChoice
import Gatehouse.Proofs.Token.Cookies
import Gatehouse.Proofs.Access.FailedLogin
import Gatehouse.Proofs.Api.LoginAnswer
import Gatehouse.Proofs.Api.RefusedLogin
import Gatehouse.Proofs.Store.Bookkeeping
import Gatehouse.Proofs.Forward.Compilation
import Gatehouse.Proofs.Forward.Subjects
import Gatehouse.Proofs.Token.Lifetimes
import Gatehouse.Proofs.Forward.DeletedUsers
import Gatehouse.Proofs.Store.Assignments
import Gatehouse.Proofs.Forward.RoleLines
import Gatehouse.Proofs.Url.Host
import Gatehouse.Proofs.Url.OrdinaryName
import Gatehouse.Proofs.Url.Parser
import Gatehouse.Proofs.Api.PublicHost
import Gatehouse.Proofs.Pattern.Ranges
