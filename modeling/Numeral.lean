import Numeral.Command.Check
import Numeral.Command.Listing
import Numeral.Command.Timing
import Numeral.Main
import Numeral.Proofs.DeclarationText
import Numeral.Proofs.SessionValidity
import Numeral.Proofs.LineDiagnostics
import Numeral.Proofs.DeclaredNames
import Numeral.Proofs.Repair
import Numeral.Proofs.DeclarationOrder
import Numeral.Proofs.SessionCalls
import Numeral.Proofs.SessionMessages
import Numeral.Proofs.Tiling
import Numeral.Proofs.LineFaults
import Numeral.Proofs.SessionFaults
import Numeral.Proofs.Separator
import Numeral.Proofs.ScopeHistory
import Numeral.Proofs.CheckListing
import Numeral.Proofs.CheckStatus
import Numeral.Proofs.ScannerCalls
import Numeral.Proofs.LongestMatch
import Numeral.Proofs.GeneratedLines
import Numeral.Proofs.UnreadLines
import Numeral.Proofs.NumberBase
import Numeral.Proofs.TokenVerdict
import Numeral.Proofs.LetterCase
import Numeral.Proofs.SpacedTokens
import Numeral.Proofs.DiagnosticSpans
import Numeral.Proofs.SessionResult
import Numeral.Proofs.ExpressionMode
import Numeral.Proofs.SessionErrors
import Numeral.Proofs.TallyCount
import Numeral.Proofs.LineWriting
import Numeral.Proofs.ListingSteps
import Numeral.Proofs.LineSources
import Numeral.Proofs.ListingText
import Numeral.Proofs.TimingSteps
import Numeral.Proofs.AsciiRuns
import Numeral.Proofs.ScopeCalls
