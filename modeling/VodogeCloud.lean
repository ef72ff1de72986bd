import VodogeCloud.Guarantees.AdoptionRegistry
import VodogeCloud.Guarantees.BannerDates
import VodogeCloud.Guarantees.CheckedEnums
import VodogeCloud.Guarantees.ConfirmedActions
import VodogeCloud.Guarantees.DeliveryIds
import VodogeCloud.Guarantees.DeviceDeletion
import VodogeCloud.Guarantees.DeviceIsolation
import VodogeCloud.Guarantees.DeviceVitals
import VodogeCloud.Guarantees.EnabledChannels
import VodogeCloud.Guarantees.ExpirySweeps
import VodogeCloud.Guarantees.FailureNotices
import VodogeCloud.Guarantees.HiddenCredentials
import VodogeCloud.Guarantees.HiddenSecrets
import VodogeCloud.Guarantees.InventoryOrder
import VodogeCloud.Guarantees.JournalPaging
import VodogeCloud.Guarantees.JournalWindow
import VodogeCloud.Guarantees.LeaseExclusion
import VodogeCloud.Guarantees.ListedModules
import VodogeCloud.Guarantees.ManagedModems
import VodogeCloud.Guarantees.NotificationAccounting
import VodogeCloud.Guarantees.NulRemoval
import VodogeCloud.Guarantees.NullableSpellings
import VodogeCloud.Guarantees.OfflineNotices
import VodogeCloud.Guarantees.OperatorIdentities
import VodogeCloud.Guarantees.OutboundProgress
import VodogeCloud.Guarantees.PasswordChanges
import VodogeCloud.Guarantees.ProxyCredentials
import VodogeCloud.Guarantees.ReadPolicies
import VodogeCloud.Guarantees.RecordedReceipts
import VodogeCloud.Guarantees.RepeatedOffers
import VodogeCloud.Guarantees.RepeatedPublishes
import VodogeCloud.Guarantees.ResumeDelivery
import VodogeCloud.Guarantees.RetryHints
import VodogeCloud.Guarantees.RevocationDelay
import VodogeCloud.Guarantees.RunnableSchedules
import VodogeCloud.Guarantees.ScheduleOnce
import VodogeCloud.Guarantees.SessionHub
import VodogeCloud.Guarantees.SignInTargets
import VodogeCloud.Guarantees.SilenceEpisodes
import VodogeCloud.Guarantees.StoreAgreement
import VodogeCloud.Guarantees.TrafficTotals
import VodogeCloud.Guarantees.UptimeCounts
import VodogeCloud.Guarantees.WholePuts
import VodogeCloud.Guarantees.OccurrenceGrid
import VodogeCloud.Guarantees.ProbeTimers
import VodogeCloud.Guarantees.WholeSequenceRange
import VodogeCloud.Lib.LatestPerKey
import VodogeCloud.Guarantees.ChipListings
import VodogeCloud.Guarantees.PolledUpdates
import VodogeCloud.Guarantees.SingleUseCodes
import VodogeCloud.Guarantees.JournalAgreement
import VodogeCloud.Guarantees.AdmittedRequests
import VodogeCloud.Guarantees.FiledMessages
