import Tamga.BreadthFirst
import Tamga.FirstDecision
import Tamga.NearestBelow
import Tamga.OrderedTree
import Tamga.TreeRemoval
import Tamga.Span
import Tamga.BinarySearch
import Tamga.Slice
import Tamga.FirstFree
import Tamga.Chunks
import Tamga.Unicode
import Tamga.OwnedCell
import Tamga.StagedReplace
import Tamga.BudgetedLoop
import Tamga.KeyedCollection
import Tamga.Basic
import Tamga.Encoding
import Tamga.DerTlv
import Tamga.CertificateHarvest
import Tamga.X509Name
import Tamga.SerialNumber
import Tamga.IsoTime
import Tamga.PolicyTypes
import Tamga.CertificateChain
import Tamga.Ocsp
import Tamga.Crl
import Tamga.ValidationTypes
import Tamga.RevocationEngine
import Tamga.SigningMoment
import Tamga.DateText
import Tamga.TrustPath
import Tamga.ValidationEngine
import Tamga.ServiceTrust
import Tamga.XmlDocument
import Tamga.TrustListParser
import Tamga.XmlReference
import Tamga.XmlSignature
import Tamga.SignedElements
import Tamga.SameDocument
import Tamga.TrustListSignature
import Tamga.XadesVerifier
import Tamga.XadesTimestamps
import Tamga.PageContent
import Tamga.PdfFields
import Tamga.PadesVerifier
import Tamga.NameChaining
import Tamga.ZipArchive
import Tamga.AsicReader
import Tamga.ArchiveSafety
import Tamga.AsicManifest
import Tamga.AsicWriter
import Tamga.AsicContainers
import Tamga.AsicRoundTrip
import Tamga.VerifyReport
import Tamga.SignerAggregation
import Tamga.CmsVerification
import Tamga.AsicVerification
import Tamga.PdfSession
import Tamga.XadesSession
import Tamga.SignerQuestions
import Tamga.ContainerPolicy
import Tamga.SignerPolicy
import Tamga.AsicCoSignature
import Tamga.PadesBuilder
import Tamga.PadesRoundTrip
import Tamga.CrossReference
import Tamga.EvidenceClosure
import Tamga.Utf
import Tamga.JsonString
import Tamga.Base64
import Tamga.CmsSigners
import Tamga.TimestampedSigning
import Tamga.TspDefault
import Tamga.TimestampEngine
import Tamga.PadesEvidence
import Tamga.VerdictAgreement
import Tamga.ReportOwnership
import Tamga.VerifyReportOwnership
import Tamga.AtomicWrite
import Tamga.PolicyCache
import Tamga.CacheTransaction
import Tamga.CApi
import Tamga.HttpAccessPolicy
import Tamga.HttpClient
import Tamga.PemLoader
import Tamga.AiaFetch
import Tamga.KeyPairing
import Tamga.CertificateResolver
import Tamga.KeyLoading
import Tamga.OfflineMode
