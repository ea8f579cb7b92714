import FormEngine.Main
import FormEngine.Proofs.Session.Run
import FormEngine.Proofs.Session.History
import FormEngine.Validation.Message
import FormEngine.Proofs.Expression.Grammar
import FormEngine.Proofs.Expression.Reading
import FormEngine.Proofs.Expression.Parsing
import FormEngine.Proofs.Expression.Lexing
import FormEngine.Proofs.Expression.Occurrence
import FormEngine.Proofs.Expression.Relexing
import FormEngine.Proofs.Expression.RoundTrip
import FormEngine.Proofs.Expression.Outcomes
import FormEngine.Proofs.Expression.References
import FormEngine.Proofs.Derived.Permutation
import FormEngine.Proofs.Derived.Locality
import FormEngine.Proofs.Derived.Isolation
import FormEngine.Proofs.Derived.DeclaredOrder
import FormEngine.Proofs.Expression.Brackets
import FormEngine.Proofs.Expression.Balance
import FormEngine.Proofs.Session.Overwriting
import FormEngine.Proofs.Expression.KnownVariables
import FormEngine.Proofs.Value.Writing
import FormEngine.Proofs.Number.Reading
import FormEngine.Proofs.Validation.Outcomes
import FormEngine.Proofs.Validation.FormErrors
import FormEngine.Proofs.Validation.Advice
import FormEngine.Proofs.Number.Rounding
import FormEngine.Proofs.Number.Layout
import FormEngine.Proofs.Expression.Rereading
import FormEngine.Proofs.Expression.Spoiling
import FormEngine.Proofs.Expression.Fidelity
import FormEngine.Proofs.Expression.Coverage
import FormEngine.Proofs.Expression.FirstUse
import FormEngine.Proofs.Expression.Concatenation
import FormEngine.Proofs.Expression.TextLiterals
import FormEngine.Proofs.Derived.Bindings
import FormEngine.Proofs.Expression.SingleName
import FormEngine.Proofs.Expression.Renaming
import FormEngine.Proofs.Expression.TextIndices
import FormEngine.Proofs.Number.Comparison
import FormEngine.Proofs.Number.NormalForm
import FormEngine.Proofs.Value.Equality
import FormEngine.Proofs.Value.Order
import FormEngine.Proofs.Value.Normalising
import FormEngine.Proofs.Value.Lists
import FormEngine.Proofs.Value.WrittenNumbers
import FormEngine.Proofs.Number.Representable
import FormEngine.Proofs.Number.SafeIntegers
import FormEngine.Proofs.Expression.IntegerArithmetic
import FormEngine.Proofs.Expression.NormalResults
import FormEngine.Proofs.Number.RoundingToIntegers
import FormEngine.Proofs.Expression.RepeatedRounding
import FormEngine.Proofs.Expression.PlainNumbers
import FormEngine.Proofs.Expression.ParsedIntegers
import FormEngine.Proofs.Expression.Substrings
import FormEngine.Proofs.Expression.Extremes
import FormEngine.Proofs.Expression.Preorder
import FormEngine.Proofs.Validation.Addresses
import FormEngine.Proofs.Loading
