import Formula.Main
import Formula.Proofs.Eval.Interpolation
import Formula.Proofs.Expr.Failure
import Formula.Proofs.Token.Nesting
import Formula.Proofs.Expr.Nesting
import Formula.Proofs.Expr.Viable
import Formula.Proofs.Expr.SourceFailure
import Formula.Proofs.Eval.Failure
import Formula.Proofs.Eval.Provenance
import Formula.Proofs.Token.Layout
import Formula.Proofs.Eval.Layout
import Formula.Proofs.Lexeme.Written
import Formula.Proofs.Token.Outermost
import Formula.Proofs.Eval.Quote
import Formula.Proofs.Expr.Parts
import Formula.Proofs.Eval.Names
import Formula.Proofs.Eval.Outcomes
import Formula.Proofs.Eval.Substitution
import Formula.Proofs.Number.Alike
import Formula.Proofs.Eval.Alike
import Formula.Proofs.Eval.Concatenation
import Formula.Proofs.Eval.PlainText
import Formula.Proofs.Lexeme.Word
import Formula.Proofs.Token.Munch
import Formula.Proofs.Token.Cut
import Formula.Proofs.Token.Interpolation
import Formula.Proofs.Eval.Strict
import Formula.Proofs.Eval.ReadBack
import Formula.Proofs.Number.Count
import Formula.Proofs.Eval.Equality
import Formula.Proofs.Eval.Method
import Formula.Proofs.Eval.Grouping
import Formula.Proofs.Number.Fixed
import Formula.Proofs.Progress
