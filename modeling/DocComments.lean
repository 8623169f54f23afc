import DocComments.ClassDefinition
import DocComments.Main
import DocComments.Proofs.AllOrNothing
import DocComments.Proofs.BareQuotes
import DocComments.Proofs.CodeBlockSentence
import DocComments.Proofs.ClassIdentity
import DocComments.Proofs.Formatting
import DocComments.Proofs.Layout
import DocComments.Proofs.LoopsEnd
import DocComments.Proofs.LookaheadBound
import DocComments.Proofs.ClassNames
import DocComments.Proofs.Serialization
import DocComments.Proofs.Joining
import DocComments.Proofs.LiteralOutcome
import DocComments.Proofs.LiteralRoundTrip
import DocComments.Proofs.MarkerPlaces
import DocComments.Proofs.Printing
import DocComments.Proofs.Resuming
import DocComments.Proofs.TagForm
import DocComments.Proofs.TokenCursor
import DocComments.Text.Stream
import DocComments.Proofs.ClassConfiguration
import DocComments.Proofs.CodeBlockBreaks
import DocComments.Proofs.CodeBlockFailure
import DocComments.Proofs.ClassBuilding
import DocComments.Proofs.Expansion
import DocComments.Proofs.MaximalMunch
import DocComments.Proofs.SettingsValidation
