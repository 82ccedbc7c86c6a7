import ChargeMate.FoundationTable
import ChargeMate.FoundationRegister
import ChargeMate.FoundationRun
import ChargeMate.FoundationTickets
import ChargeMate.ModelRows
import ChargeMate.ModelDatabase
import ChargeMate.ModelProvider
import ChargeMate.ModelBookings
import ChargeMate.ModelPayments
import ChargeMate.ModelWebhooks
import ChargeMate.ModelCancellation
import ChargeMate.ModelOperations
import ChargeMate.ModelSystem
import ChargeMate.LedgerMoves
import ChargeMate.LedgerBookings
import ChargeMate.LedgerPayments
import ChargeMate.LedgerRefunds
import ChargeMate.LedgerStatuses
import ChargeMate.LedgerCaptures
import ChargeMate.RefineDatabase
import ChargeMate.RefineBookings
import ChargeMate.RefinePayments
import ChargeMate.RefineWebhooks
import ChargeMate.RefineCancellation
import ChargeMate.RefineOrders
import ChargeMate.RefineRefunds
import ChargeMate.RefineSystem
import ChargeMate.SafetyBookings
import ChargeMate.SafetyPayments
import ChargeMate.SafetyRefunds
import ChargeMate.SafetyCaptures
import ChargeMate.SafetyWebhooks
import ChargeMate.SafetyArrivals
import ChargeMate.SafetyStatuses
import ChargeMate.LedgerSessions
import ChargeMate.RefineFrames
import ChargeMate.SafetySessions
import ChargeMate.SafetyDeliveries
import ChargeMate.SafetyEvents
import ChargeMate.FoundationChains
import ChargeMate.ModelAccounts
import ChargeMate.LedgerGenerations
import ChargeMate.RefineAccounts
import ChargeMate.SafetyFamilies
import ChargeMate.ModelLogins
import ChargeMate.SafetyLogins
import ChargeMate.SafetyPasswords
import ChargeMate.SafetyLockouts
import ChargeMate.ModelLocking
import ChargeMate.SafetyRevocations
import ChargeMate.ModelClient
import ChargeMate.RefineRoutes
import ChargeMate.LedgerBearers
import ChargeMate.SafetyLogout
import ChargeMate.SafetyRefreshes
import ChargeMate.SafetyHolds
import ChargeMate.RefineOperations
import ChargeMate.SafetyStarts
import ChargeMate.SafetyAnswers
import ChargeMate.SafetyOrders
import ChargeMate.SafetyOwnership
import ChargeMate.FoundationLocks
import ChargeMate.ModelRowLocks
import ChargeMate.SafetyDeadlocks
import ChargeMate.FoundationCodes
import ChargeMate.ModelSearches
import ChargeMate.RefineSearches
import ChargeMate.SafetySearches
import ChargeMate.FoundationVersions
import ChargeMate.ModelStationEdits
import ChargeMate.RefineStationEdits
import ChargeMate.SafetyStationEdits
import ChargeMate.SafetyExpiry
import ChargeMate.SafetyFees
import ChargeMate.FoundationWindows
import ChargeMate.ModelRateLimit
import ChargeMate.SafetyRateLimits
import ChargeMate.FoundationPages
import ChargeMate.ModelListings
import ChargeMate.SafetyListings
import ChargeMate.SafetyQueue
import ChargeMate.FoundationLockout
import ChargeMate.SafetyGuesses
import ChargeMate.ModelExternal
import ChargeMate.SafetyExternal
import ChargeMate.FoundationNames
import ChargeMate.ModelRegistration
import ChargeMate.SafetyRegistration
import ChargeMate.FoundationRounds
import ChargeMate.ModelReconciliation
import ChargeMate.SafetyReconciliation
import ChargeMate.ModelStations
import ChargeMate.SafetyStations
import ChargeMate.SafetySettlements
import ChargeMate.SafetyEvidence
import ChargeMate.SafetyVerdicts
import ChargeMate.SafetyBalances
import ChargeMate.SafetyEndings
import ChargeMate.FoundationAtomicity
import ChargeMate.ModelStatements
import ChargeMate.RefineStatements
import ChargeMate.SafetyAtomicity
import ChargeMate.ModelSite
import ChargeMate.SafetyAuthority
import ChargeMate.SafetyOrigins
import ChargeMate.FoundationCaches
import ChargeMate.ModelExternalSearches
import ChargeMate.SafetyExternalSearches
import ChargeMate.SafetyRoles
