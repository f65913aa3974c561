import LotSearch.Text.Case
import LotSearch.Text.Word
import LotSearch.Text.Digit
import LotSearch.Text.Blank
import LotSearch.Text.Pattern
import LotSearch.Text.Base64Url
import LotSearch.Number.Layout
import LotSearch.Json.Printer
import LotSearch.Json.Reader
import LotSearch.Statement.Gate
import LotSearch.Lots.Prompt
import LotSearch.Page
import LotSearch.Opportunity
import LotSearch.Request.Understood
import LotSearch.Reply
import LotSearch.Template.Resolved
import LotSearch.Settings.Environment
import LotSearch.Settings.Temperature
import LotSearch.Service.Operations
import LotSearch.Service.Session
import LotSearch.Http.Router
import LotSearch.Service.Script
import LotSearch.Chat
import LotSearch.Startup
import LotSearch.Proofs.Request.Statement
import LotSearch.Proofs.Service.Audit
import LotSearch.Proofs.Service.Findable
import LotSearch.Proofs.Statement.Wrapped
import LotSearch.Proofs.Template.Comment
import LotSearch.Proofs.Json.Object
import LotSearch.Proofs.Reply.Embedded
import LotSearch.Proofs.Template.Written
import LotSearch.Proofs.Template.Quoted
import LotSearch.Proofs.Service.Fallback
import LotSearch.Proofs.Template.Replayed
import LotSearch.Proofs.Request.Years
import LotSearch.Proofs.Request.Amounts
import LotSearch.Proofs.Statement.Terminator
import LotSearch.Proofs.Service.Announced
import LotSearch.Proofs.Request.Thresholds
import LotSearch.Proofs.Request.Disclosure
import LotSearch.Proofs.Reply.Fenced
import LotSearch.Proofs.Reply.Loose
import LotSearch.Proofs.Template.Declared
import LotSearch.Proofs.Opportunity.Criteria
import LotSearch.Proofs.Template.Printed
import LotSearch.Proofs.Service.Recording
import LotSearch.Proofs.Settings.Credential
import LotSearch.Proofs.Startup.Security
import LotSearch.Proofs.Request.Homes
import LotSearch.Proofs.Request.LetterCase
import LotSearch.Proofs.Json.Slots
import LotSearch.Proofs.Page.Offset
import LotSearch.Proofs.Service.Paging
import LotSearch.Proofs.Template.Listed
import LotSearch.Proofs.Reply.Braces
import LotSearch.Proofs.Number.Grouped
