import Brackets.Library.Table
import Brackets.Library.Dict
import Brackets.Library.Decimal
import Brackets.Library.Network
import Brackets.Library.Pairs
import Brackets.Library.Matching
import Brackets.Schema
import Brackets.Details
import Brackets.Loads
import Brackets.Ranking.Calculation
import Brackets.Ranking.Elimination
import Brackets.Ranking.Bracket
import Brackets.Planning.Conflicts
import Brackets.Planning.Matches
import Brackets.Statements
import Brackets.Scheduling.Elimination
import Brackets.Scheduling.Swiss
import Brackets.Scheduling.SwissOptimal
import Brackets.Routes.Validation
import Brackets.Routes.Rankings
import Brackets.Routes.Matches
import Brackets.Routes.Rounds
import Brackets.Progress.Wiring
import Brackets.Progress.BracketBuild
import Brackets.Progress.BracketRuns
import Brackets.Progress.SwissRounds
import Brackets.Library.Circle
import Brackets.Scheduling.RoundRobin
import Brackets.Library.Sessions
import Brackets.Progress.Interleaving
import Brackets.Library.Clock
import Brackets.FullLoad
import Brackets.Planning.Timeline
import Brackets.Planning.Clashes
import Brackets.Ranking.Tallies
import Brackets.Library.Tally
import Brackets.Ranking.Players
import Brackets.Library.Knockout
import Brackets.Progress.KnockoutLevels
import Brackets.Progress.KnockoutStandings
import Brackets.Ranking.Storage
import Brackets.Progress.StoredResults
import Brackets.Progress.ResultTransaction
import Brackets.Progress.Corrections
import Brackets.Progress.ConcurrentResults
import Brackets.Library.Server
import Brackets.Progress.Drafts
import Brackets.Progress.HiddenDrafts
import Brackets.Progress.IsolatedRequests
import Brackets.Planning.Agenda
import Brackets.Planning.Replanning
import Brackets.Progress.IsolatedLoads
import Brackets.Progress.Skeleton
import Brackets.Progress.TournamentDeletion
import Brackets.Progress.Effects
import Brackets.Progress.Slots
import Brackets.Progress.Limits
import Brackets.Ranking.Totals
import Brackets.Ranking.Standings
import Brackets.Progress.CompleteTree
import Brackets.Planning.ConflictSearch
import Brackets.Progress.CompleteUpdate
import Brackets.Scheduling.AvailableInputs
import Brackets.Progress.Sources
import Brackets.Progress.UpToDate
import Brackets.Scheduling.TakenInputs
import Brackets.Library.Footprints
import Brackets.Ranking.Turns
import Brackets.Ranking.PlayerTurns
import Brackets.Library.Truncation
import Brackets.Ranking.Ratings
import Brackets.Library.Csv
import Brackets.Library.Text
import Brackets.Routes.BulkNames
import Brackets.Frontend.BracketAdapter
import Brackets.Ranking.Decimals
import Brackets.Ranking.Monotone
import Brackets.Progress.Activation
import Brackets.Progress.Entrants
import Brackets.Progress.ItemView
import Brackets.Progress.Seats
import Brackets.Progress.ExactStandings
import Brackets.Progress.ItemRequests
import Brackets.Progress.ExactRuns
import Brackets.Progress.PublishedRounds
import Brackets.Progress.ResultRequests
import Brackets.Progress.PairedPoints
import Brackets.Progress.Heads
import Brackets.Progress.Origins
import Brackets.Progress.Thinning
import Brackets.Progress.NewMatches
import Brackets.Progress.NewStageItems
import Brackets.Progress.Lineups
import Brackets.Library.Stamps
import Brackets.Library.Windows
import Brackets.Accounts.Tables
import Brackets.Accounts.Auth
import Brackets.Accounts.Requests
import Brackets.Accounts.Effects
import Brackets.Accounts.Plain
import Brackets.Accounts.Lockout
import Brackets.Accounts.Sessions
import Brackets.Accounts.Ownership
import Brackets.Accounts.Logins
import Brackets.Library.Cursor
import Brackets.Progress.ActiveStage
import Brackets.Accounts.Archive
import Brackets.Accounts.Quotas
import Brackets.Accounts.Listing
import Brackets.Frontend.DetailsLink
import Brackets.Progress.Rosters
import Brackets.Frontend.TournamentBundle
import Brackets.Frontend.ViewerData
import Brackets.Frontend.Schedule
