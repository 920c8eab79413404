import BatchLens.Batch.Classification
import BatchLens.Text.Line
import BatchLens.Unicode.IdentifierContinue
import BatchLens.Unicode.LowerCase
import BatchLens.Json.Printer
import BatchLens.Json.Reader
import BatchLens.Json.Record
import BatchLens.Batch.Pairing
import BatchLens.Protocol.SemanticToken
import BatchLens.Batch.Completion
import BatchLens.Batch.Hover
import BatchLens.Environment.Fixed
import BatchLens.Environment.Process
import BatchLens.Language
import BatchLens.Settings.Json
import BatchLens.LogFilter
import BatchLens.Settings.File
import BatchLens.Protocol.Answer
import BatchLens.Json.EarlyEnd
import BatchLens.Protocol.ServerError
import BatchLens.Uri.Reader
import BatchLens.Protocol.Capabilities
import BatchLens.Protocol.Server
import BatchLens.Protocol.Message
import BatchLens.Program
import BatchLens.Main
import BatchLens.Proofs.Protocol.History
import BatchLens.Proofs.Protocol.Editor
import BatchLens.Proofs.Protocol.SemanticToken
import BatchLens.Proofs.Protocol.ByteSession
import BatchLens.Proofs.Batch.TrailingComment
import BatchLens.Proofs.Protocol.LetterCase
import BatchLens.Proofs.Protocol.TokenRange
import BatchLens.Proofs.Protocol.Conversation
import BatchLens.Proofs.Protocol.RoundTrip
import BatchLens.Proofs.Protocol.LineEnding
import BatchLens.Proofs.Checked.Engines
import BatchLens.Proofs.LinePartition
import BatchLens.Proofs.Batch.ReferenceCompletion
import BatchLens.Proofs.Batch.JumpTarget
import BatchLens.Proofs.Batch.KeywordHover
import BatchLens.Proofs.Protocol.SortText
import BatchLens.Proofs.Protocol.OverlapResolution
import BatchLens.Proofs.Batch.CompletionOffer
import BatchLens.Proofs.Batch.Remark
import BatchLens.Proofs.Protocol.CompletionEdit
import BatchLens.Proofs.Protocol.HoverAnswer
import BatchLens.Proofs.Batch.StringToken
import BatchLens.Proofs.Protocol.PairAnswer
import BatchLens.Proofs.Environment.Expansion
import BatchLens.Proofs.Environment.Fixed
import BatchLens.Proofs.Environment.Process
import BatchLens.Proofs.Replacement
import BatchLens.Proofs.Batch.Assignment
import BatchLens.Proofs.Batch.TokenContext
import BatchLens.Proofs.Protocol.Boundary
import BatchLens.Proofs.Settings.File
