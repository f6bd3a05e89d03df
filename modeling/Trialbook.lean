import Trialbook.Main
import Trialbook.Proofs.Loadability
import Trialbook.Proofs.WellTypedCalls
import Trialbook.Proofs.SingleLoad
import Trialbook.Proofs.Origins
import Trialbook.Proofs.Dispatches
import Trialbook.Declaration.Extractor
import Trialbook.Proofs.Collisions
import Trialbook.Proofs.Accounts
import Trialbook.Proofs.Histories
import Trialbook.Proofs.LiteralGrammar
import Trialbook.Proofs.FormScalars
import Trialbook.Proofs.FormEntries
import Trialbook.Proofs.FloatScalars
import Trialbook.Proofs.SplitTexts
import Trialbook.Proofs.ShownArguments
import Trialbook.Proofs.Walks
import Trialbook.Proofs.Surveys
import Trialbook.Proofs.Layering
import Trialbook.Proofs.CheckedDrafts
import Trialbook.Proofs.DeclaredParameters
import Trialbook.Proofs.KeywordMaps
import Trialbook.Proofs.QuotedTexts
import Trialbook.Proofs.Readers
import Trialbook.Proofs.WrittenExpressions
import Trialbook.Proofs.WrittenCalls
import Trialbook.Proofs.WrittenDeclarations
import Trialbook.Proofs.DeclaredIntegers
import Trialbook.Proofs.WholeFloats
import Trialbook.Proofs.IntegerTokens
import Trialbook.Proofs.Places
import Trialbook.Proofs.DeclarationFiles
import Trialbook.Proofs.FileChanges
import Trialbook.Proofs.TomlTexts
import Trialbook.Proofs.SavedConfigs
