import BrandBlitz.Escrow.Terminal
import BrandBlitz.Stellar.Horizon
import BrandBlitz.Stellar.SequenceReset
import BrandBlitz.Payout.PaidOnce
import BrandBlitz.Payout.Outflow
import BrandBlitz.Payout.Acceptance
import BrandBlitz.Payout.Evidence
import BrandBlitz.Payout.Recovery
import BrandBlitz.Deposit.Replay
import BrandBlitz.Deposit.Solvency
import BrandBlitz.Deposit.Activation
import BrandBlitz.Referrals.Amounts
import BrandBlitz.Referrals.PaidOnce
import BrandBlitz.Referrals.Graph
import BrandBlitz.Referrals.SharedLinks
import BrandBlitz.Sessions.Consistency
import BrandBlitz.Sessions.AnsweredOnce
import BrandBlitz.Sessions.WarmedUp
import BrandBlitz.Sessions.OneSession
import BrandBlitz.Paging.Timestamps
import BrandBlitz.Paging.AdminChallenges
import BrandBlitz.Paging.CsvExports
import BrandBlitz.Paging.History
import BrandBlitz.Competition.Practice
import BrandBlitz.Competition.Finalisation
import BrandBlitz.Paging.Users
import BrandBlitz.Templates.OwnLock
import BrandBlitz.Templates.PeriodKeys
import BrandBlitz.Templates.Preview
import BrandBlitz.Payout.Settlement
import BrandBlitz.Payout.EscrowAmounts
import BrandBlitz.Stellar.Retry
import BrandBlitz.Payout.Overlap
import BrandBlitz.Payout.Refunds
import BrandBlitz.Lifecycle.Terminal
import BrandBlitz.Payout.DeadLetter
import BrandBlitz.Retention.Erasure
import BrandBlitz.Retention.Promises
import BrandBlitz.Auth.Rotation
import BrandBlitz.Auth.Doors
import BrandBlitz.Auth.Refresh
import BrandBlitz.Auth.BackupCodes
import BrandBlitz.Auth.ApiKeys
import BrandBlitz.Multisig.Threshold
import BrandBlitz.Invites.NeverOverRedeemed
import BrandBlitz.Phone.Guessing
import BrandBlitz.Profiles.Redirects
import BrandBlitz.Paging.Ranks
import BrandBlitz.Caching.Invalidation
import BrandBlitz.Storage.Isolation
import BrandBlitz.Paging.CohortPages
import BrandBlitz.Brands.Owners
import BrandBlitz.Brands.Webhooks
import BrandBlitz.Payout.Tampering
import BrandBlitz.Sessions.Completion
import BrandBlitz.Comments.Limits
import BrandBlitz.Paging.TextCursors
import BrandBlitz.Paging.FraudFlags
import BrandBlitz.Migrations.Reversible
import BrandBlitz.Escrow.Settling
import BrandBlitz.Payout.Prizes
import BrandBlitz.Payout.Tiers
import BrandBlitz.Payout.Recording
import BrandBlitz.Stellar.Accounting
import BrandBlitz.Chat.Control
import BrandBlitz.Deposit.Amounts
import BrandBlitz.Competition.Flags
import BrandBlitz.Competition.TeamPayouts
import BrandBlitz.Payout.Ranking
import BrandBlitz.Competition.Streaks
import BrandBlitz.Competition.Weeks
import BrandBlitz.Auth.Totp
import BrandBlitz.Chat.History
import BrandBlitz.Profiles.Slugs
import BrandBlitz.Network.ClientIp
import BrandBlitz.Network.WebPush
import BrandBlitz.Network.PushDecryption
import BrandBlitz.Paging.CursorParams
import BrandBlitz.Analytics.QuestionAccuracy
import BrandBlitz.Templates.Questions
import BrandBlitz.Sessions.LockoutEnds
import BrandBlitz.Auth.Pkce
