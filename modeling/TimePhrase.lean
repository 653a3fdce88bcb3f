import TimePhrase.Journal
import TimePhrase.Proofs.Moment.Composition
import TimePhrase.Proofs.Moment.Nesting
import TimePhrase.Proofs.NumericDate.Pattern
import TimePhrase.Proofs.NumericDate.Preferences
import TimePhrase.Proofs.Period.Counted
import TimePhrase.Proofs.Period.Explicit
import TimePhrase.Proofs.Period.PlacementSteps
import TimePhrase.Proofs.Period.Printed
import TimePhrase.Proofs.Period.Rewording
import TimePhrase.Proofs.Period.SameInstant
import TimePhrase.Proofs.Period.UnitWalk
import TimePhrase.Proofs.Phrase.SpelledOut
import TimePhrase.Proofs.Phrase.Tokens
