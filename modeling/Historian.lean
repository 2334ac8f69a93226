import Historian.ByteOrder
import Historian.Crc32c
import Historian.GenerationCatalog
import Historian.RetryCodec
import Historian.RegistryReplay
import Historian.StoreOpen
import Historian.RetryWindow
import Historian.RetryCommits
import Historian.ActiveRoot
import Historian.FileRules
import Historian.ScanSequences
import Historian.RootRun
import Historian.StoreRun
import Historian.ManifestSlots
import Historian.Identity
import Historian.Time
import Historian.JournalValidate
import Historian.JournalFrame
import Historian.RegistryRun
import Historian.JournalRoundTrip
import Historian.RetryState
import Historian.JournalBound
import Historian.JournalPrepared
import Historian.RetryTransition
import Historian.IngressState
import Historian.Ingress
import Historian.IngressFrame
import Historian.IngressSections
import Historian.IngressInvariant
import Historian.IngressExactlyOnce
import Historian.IngressDurable
import Historian.ControlChannel
import Historian.WriterSizes
import Historian.RegistryDecode
import Historian.RetryDecode
import Historian.StoreAtRoot
import Historian.ManifestPrepared
import Historian.JournalHandle
import Historian.JournalRuns
import Historian.TornSuffix
import Historian.SegmentRecent
import Historian.CollectionLaw
import Historian.Sha256Stream
import Historian.CatalogChain
import Historian.CheckpointSlots
import Historian.JournalReopen
import Historian.IngressDrain
import Historian.IngressRollback
import Historian.KeyedMax
import Historian.LatestFold
import Historian.StoreRefusal
import Historian.WriterFifo
import Historian.CrcBurst
import Historian.JournalMeasure
import Historian.FrameCorruption
import Historian.IngressClasses
import Historian.RecoveryCodec
import Historian.SegmentArithmetic
import Historian.TypedValueCodec
import Historian.InventoryCanonical
import Historian.Interruption
import Historian.ReportRuns
import Historian.ReportRecovery
import Historian.StreamingChecksum
import Historian.RunLength
import Historian.FrameBoundaries
import Historian.CanonicalText
import Historian.ArtifactNames
import Historian.FixtureFields
import Historian.FixtureMeta
import Historian.Frontier
import Historian.PolicyLaw
import Historian.StoreDurability
