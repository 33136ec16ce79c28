import CloudDetector.Detector.Run
import CloudDetector.Resource.Step
import CloudDetector.Proofs.Trace
import CloudDetector.Proofs.TryCourse
import CloudDetector.Proofs.BackoffBudget
import CloudDetector.Proofs.Detection
import CloudDetector.Proofs.Vocabulary
import CloudDetector.Proofs.DetectionReports
import CloudDetector.Proofs.CacheLife
import CloudDetector.Proofs.DeepNesting
import CloudDetector.Proofs.AttributeTable
import CloudDetector.Proofs.LocationAgreement
import CloudDetector.Proofs.LifeBudget
import CloudDetector.Proofs.Lockstep
import CloudDetector.Proofs.Alike
import CloudDetector.Proofs.FailedDetection
import CloudDetector.Proofs.DocumentEdit
import CloudDetector.Proofs.NonInterference
import CloudDetector.Proofs.RelevantInputs
import CloudDetector.Proofs.ReportingOptions
import CloudDetector.Proofs.FetchDecision
import CloudDetector.Proofs.AsciiCase
import CloudDetector.Proofs.HeaderCheck
import CloudDetector.Proofs.DecimalText
import CloudDetector.Proofs.DoubleValue
import CloudDetector.Proofs.ReadIntegers
import CloudDetector.Proofs.NumberLookup
import CloudDetector.Proofs.Spelling
import CloudDetector.Proofs.NumeralRead
import CloudDetector.Proofs.SpellingRead
import CloudDetector.Proofs.DocumentRead
import CloudDetector.Proofs.MemberOrder
import CloudDetector.Proofs.Utf8Encoded
import CloudDetector.Proofs.CutText
import CloudDetector.Proofs.RenderedDocument
import CloudDetector.Proofs.SpoiledBody
import CloudDetector.Proofs.Suppression
import CloudDetector.Proofs.Overlay
import CloudDetector.Proofs.BuilderSteps
import CloudDetector.Proofs.PathLookup
import CloudDetector.Proofs.AsciiBody
import CloudDetector.Proofs.QualifiedName
import CloudDetector.Proofs.EndpointUrl
