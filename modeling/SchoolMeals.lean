import SchoolMeals.Library.CText
import SchoolMeals.Library.Relational
import SchoolMeals.Library.SqlText
import SchoolMeals.Library.Interaction
import SchoolMeals.Protocol
import SchoolMeals.Client
import SchoolMeals.Storage
import SchoolMeals.Server
import SchoolMeals.Parsing
import SchoolMeals.Execution
import SchoolMeals.Effects
import SchoolMeals.Outcomes
import SchoolMeals.Answering
import SchoolMeals.Changes
import SchoolMeals.Library.Journal
import SchoolMeals.Sessions
import SchoolMeals.Accounts
import SchoolMeals.Links
import SchoolMeals.Honesty
import SchoolMeals.Widths
import SchoolMeals.Injection
import SchoolMeals.Listing
import SchoolMeals.Interleaving
import SchoolMeals.Network
import SchoolMeals.Handlers
import SchoolMeals.Framing
import SchoolMeals.Library.Transition
import SchoolMeals.LoginState
import SchoolMeals.RoundTrip
import SchoolMeals.Library.Turns
import SchoolMeals.Pairing
import SchoolMeals.Library.Calendar
import SchoolMeals.Neis
import SchoolMeals.OwnSchool
import SchoolMeals.Offices
import SchoolMeals.Periods
import SchoolMeals.Threads
import SchoolMeals.Library.Tenancy
import SchoolMeals.Slots
import SchoolMeals.Shutdown
import SchoolMeals.PeriodInput
import SchoolMeals.ChildMeals
import SchoolMeals.Library.Buffer
import SchoolMeals.Menus
import SchoolMeals.Dishes
import SchoolMeals.Rows
import SchoolMeals.MealTexts
import SchoolMeals.ReceiveBuffer
import SchoolMeals.Library.Utf8
import SchoolMeals.PeriodTexts
import SchoolMeals.PeriodReply
import SchoolMeals.Documents
import SchoolMeals.Library.QueryText
import SchoolMeals.Urls
import SchoolMeals.Library.InPlace
import SchoolMeals.UserHandlers
import SchoolMeals.Registration
import SchoolMeals.ParseResponse
import SchoolMeals.Library.JsonText
import SchoolMeals.ChildrenText
import SchoolMeals.DateFormat
import SchoolMeals.Library.Lines
import SchoolMeals.LoginMenu
import SchoolMeals.Sending
import SchoolMeals.Download
import SchoolMeals.SafeInput
import SchoolMeals.Library.Retry
import SchoolMeals.InputLoops
import SchoolMeals.Library.Atomicity
import SchoolMeals.Statements
import SchoolMeals.Serial
import SchoolMeals.Isolation
import SchoolMeals.Unanswered
import SchoolMeals.MainLoop
import SchoolMeals.Conduct
import SchoolMeals.EndOfInput
import SchoolMeals.Library.Directory
import SchoolMeals.Service
import SchoolMeals.Refinement
import SchoolMeals.EndToEnd
import SchoolMeals.Library.Overlap
import SchoolMeals.SideBySide
