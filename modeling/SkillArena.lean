import SkillArena.Async.Prog
import SkillArena.Async.Pool
import SkillArena.Async.Path
import SkillArena.Async.Server
import SkillArena.Async.Blind
import SkillArena.Async.Watch
import SkillArena.Async.Relay
import SkillArena.Store.Expiring
import SkillArena.Store.Waitlist
import SkillArena.Store.Journal
import SkillArena.Store.Locks
import SkillArena.Store.Pairing
import SkillArena.Sql.Numeric
import SkillArena.Sql.Like
import SkillArena.Strings.Strip
import SkillArena.Strings.Decoder
import SkillArena.Strings.Utf8
import SkillArena.Model.Types
import SkillArena.Model.Database
import SkillArena.Model.Transactions
import SkillArena.Model.World
import SkillArena.Model.Judge
import SkillArena.Model.Executor
import SkillArena.Model.Child
import SkillArena.Model.Routes
import SkillArena.Model.Withdraw
import SkillArena.Model.Orders
import SkillArena.Model.Auth
import SkillArena.Model.Sessions
import SkillArena.Model.Clock
import SkillArena.Model.MatchHandler
import SkillArena.Model.Matchmaking
import SkillArena.Model.Connection
import SkillArena.Proof.Transactions
import SkillArena.Proof.Conservation
import SkillArena.Proof.Effects
import SkillArena.Proof.Solo
import SkillArena.Proof.Footprint
import SkillArena.Proof.Guard
import SkillArena.Proof.Stranger
import SkillArena.Proof.Payment
import SkillArena.Proof.Resolve
import SkillArena.Proof.Settlement
import SkillArena.Proof.Backstop
import SkillArena.Proof.Winner
import SkillArena.Proof.Presence
import SkillArena.Proof.Queue
import SkillArena.Proof.Entries
import SkillArena.Proof.Restore
import SkillArena.Proof.Leaving
import SkillArena.Proof.OneMatch
import SkillArena.Proof.Pairing
import SkillArena.Proof.Ledger
import SkillArena.Proof.Totals
import SkillArena.Proof.Executor
import SkillArena.Proof.Verdict
import SkillArena.Proof.Hidden
import SkillArena.Proof.Withdrawals
import SkillArena.Proof.Rounding
import SkillArena.Proof.Seeding
import SkillArena.Proof.Owner
import SkillArena.Proof.Found
import SkillArena.Proof.Deadlock
import SkillArena.Proof.Serial
import SkillArena.Proof.Listing
import SkillArena.Proof.Submission
import SkillArena.Proof.Expiry
import SkillArena.Proof.Retry
import SkillArena.Proof.Grading
import SkillArena.Proof.Payload
import SkillArena.Proof.Decision
import SkillArena.Proof.Custody
import SkillArena.Proof.Hearts
import SkillArena.Proof.Lockout
import SkillArena.Proof.Registration
import SkillArena.Proof.Lines
import SkillArena.Proof.Chunks
import SkillArena.Proof.Acceptance
import SkillArena.Proof.Practice
import SkillArena.Proof.Charter
import SkillArena.Proof.Solvency
import SkillArena.Proof.Standing
import SkillArena.Model.Wire
import SkillArena.Proof.Calls
import SkillArena.Proof.Wire
