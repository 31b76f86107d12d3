import RecordFilter.Main
import RecordFilter.Text.Utf8
import RecordFilter.Proofs.Builder.Acceptance
import RecordFilter.Proofs.Evaluation.Laziness
import RecordFilter.Proofs.Evaluation.Meaning
import RecordFilter.Proofs.Evaluation.Modes
import RecordFilter.Proofs.Evaluation.Verdict
import RecordFilter.Proofs.Lexing.Grouping
import RecordFilter.Proofs.Lexing.Renormalization
import RecordFilter.Proofs.Parens.Meaning
import RecordFilter.Proofs.Resolution.BoundValue
import RecordFilter.Proofs.Resolution.Independence
import RecordFilter.Proofs.Session.Recomputation
import RecordFilter.Proofs.Parens.Confluence
import RecordFilter.Proofs.Parens.Passes
import RecordFilter.Proofs.Evaluation.Lookup
import RecordFilter.Proofs.Session.Lookup
import RecordFilter.Proofs.Builder.Image
import RecordFilter.Proofs.Builder.Places
import RecordFilter.Proofs.Lexing.Literals
import RecordFilter.Proofs.Session.Operators
import RecordFilter.Proofs.Options.Merging
import RecordFilter.Proofs.Number.Rounding
import RecordFilter.Proofs.Predicate.Registered
import RecordFilter.Proofs.Predicate.Integers
import RecordFilter.Proofs.Predicate.Membership
import RecordFilter.Proofs.Pattern.Steady
import RecordFilter.Proofs.Pattern.Escapes
import RecordFilter.Proofs.Pattern.Classes
import RecordFilter.Proofs.Pattern.Expressions
import RecordFilter.Proofs.Pattern.Enclosed
import RecordFilter.Proofs.Pattern.Documented
import RecordFilter.Proofs.Predicate.Anchoring
import RecordFilter.Proofs.Json.Equality
import RecordFilter.Proofs.Predicate.Coherence
import RecordFilter.Proofs.Config.Checked
import RecordFilter.Proofs.Predicate.Names
import RecordFilter.Proofs.Lexing.Factors
import RecordFilter.Proofs.Lexing.Wrapping
import RecordFilter.Proofs.Options.Reading
import RecordFilter.Proofs.Session.Calls
import RecordFilter.Proofs.Predicate.Registering
import RecordFilter.Proofs.Lexing.Segments
import RecordFilter.Proofs.Lexing.Failures
import RecordFilter.Proofs.Command.Precedence
import RecordFilter.Proofs.Evaluation.Bookkeeping
import RecordFilter.Proofs.Parens.Marking
