import Reckoner.Combinators
import Reckoner.Json.Reader
import Reckoner.Main
import Reckoner.Proofs.Calculus.Agreement
import Reckoner.Proofs.Calculus.Bisection
import Reckoner.Proofs.Calculus.Exponent
import Reckoner.Proofs.Calculus.Limit
import Reckoner.Proofs.Calculus.Polynomial
import Reckoner.Proofs.Expression.Activation
import Reckoner.Proofs.Expression.Leftover
import Reckoner.Proofs.Expression.Placing
import Reckoner.Proofs.Expression.Recognition
import Reckoner.Proofs.Expression.Spacing
import Reckoner.Proofs.Expression.Substitution
import Reckoner.Proofs.Parser.Repetition
import Reckoner.Proofs.Queries.Evaluate
import Reckoner.Proofs.Token.Order
import Reckoner.Proofs.Token.Splitting
import Reckoner.Sequence.Pipeline
import Reckoner.Token.Described
import Reckoner.Value.Operations
import Reckoner.Proofs.Calculus.Requests
import Reckoner.Proofs.Calculus.Secant
import Reckoner.Proofs.Calculus.Stopping
import Reckoner.Proofs.Calculus.Underflow
import Reckoner.Proofs.Session.Bindings
import Reckoner.Proofs.Parser.Sequencing
import Reckoner.Proofs.Logging.SetUps
import Reckoner.Proofs.Queries.Variables
import Reckoner.Proofs.Token.Stripping
import Reckoner.Proofs.Queries.Stripping
import Reckoner.Proofs.Session.Naming
import Reckoner.Proofs.Sequence.Generators
import Reckoner.Proofs.Sequence.Taking
import Reckoner.Proofs.Logging.Capitals
import Reckoner.Proofs.Logging.ModuleLevels
import Reckoner.Proofs.Parser.Choice
import Reckoner.Proofs.Documentation.Fencing
